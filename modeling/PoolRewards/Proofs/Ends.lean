/-
What a computation on a state comes to.

`Ends` says of a computation and the state that it starts from what holds of its answer and
of the state behind it, and what is known if something stops it instead.  It follows the
steps that a computation is put together from, so that no proof about a computation has to
look at how failures are handed on.
-/
namespace PoolRewards

variable {ε σ α β : Type} {state : σ} {halt : Prop}

/-- The computation ends with `post`, or `halt` holds and something stops it. -/
def Ends (step : ExceptT ε (StateM σ) α) (state : σ) (post : α → σ → Prop) (halt : Prop) : Prop :=
  match step.run.run state with
  | (.ok a, after) => post a after
  | (.error _, _) => halt

theorem Ends.post_of_ok {step : ExceptT ε (StateM σ) α} {post : α → σ → Prop} {a : α} {after : σ}
    (h : Ends step state post halt) (hrun : step.run.run state = (.ok a, after)) :
    post a after := by
  unfold Ends at h
  rwa [hrun] at h

/-- A computation that nothing can stop has an answer. -/
theorem Ends.exists_ok {step : ExceptT ε (StateM σ) α} {post : α → σ → Prop}
    (h : Ends step state post halt) (hno : ¬ halt) :
    ∃ a after, step.run.run state = (.ok a, after) ∧ post a after := by
  unfold Ends at h
  rcases hrun : step.run.run state with ⟨fault | a, after⟩
  · rw [hrun] at h
    exact absurd h hno
  · rw [hrun] at h
    exact ⟨a, after, rfl, h⟩

theorem Ends.mono {step : ExceptT ε (StateM σ) α} {post post' : α → σ → Prop} {halt' : Prop}
    (h : Ends step state post halt) (hpost : ∀ a after, post a after → post' a after)
    (hhalt : halt → halt') : Ends step state post' halt' := by
  unfold Ends at h ⊢
  rcases hrun : step.run.run state with ⟨fault | a, after⟩
  · rw [hrun] at h
    exact hhalt h
  · rw [hrun] at h
    exact hpost a after h

theorem run_bind {step : ExceptT ε (StateM σ) α} {next : α → ExceptT ε (StateM σ) β} (state : σ) :
    (step >>= next).run.run state = match step.run.run state with
      | (.ok a, after) => (next a).run.run after
      | (.error stop, after) => (.error stop, after) := by
  show (step >>= next) state = _
  simp only [bind, ExceptT.bind, ExceptT.mk, StateT.bind, ExceptT.bindCont, ExceptT.run,
    StateT.run]
  rcases step state with ⟨_ | _, _⟩ <;> rfl

theorem ends_bind {step : ExceptT ε (StateM σ) α} {next : α → ExceptT ε (StateM σ) β}
    {post : β → σ → Prop} :
    Ends (step >>= next) state post halt ↔
      Ends step state (fun a after => Ends (next a) after post halt) halt := by
  unfold Ends
  rw [run_bind]
  rcases step.run.run state with ⟨_ | _, _⟩ <;> rfl

theorem ends_pure {a : α} {post : α → σ → Prop} (h : post a state) :
    Ends (pure a : ExceptT ε (StateM σ) α) state post halt := h

theorem ends_throw {stop : ε} {post : α → σ → Prop} (h : halt) :
    Ends (throw stop : ExceptT ε (StateM σ) α) state post halt := h

theorem ends_get {post : σ → σ → Prop} (h : post state state) :
    Ends (get : ExceptT ε (StateM σ) σ) state post halt := h

theorem ends_set {after : σ} {post : Unit → σ → Prop} (h : post () after) :
    Ends (set after : ExceptT ε (StateM σ) Unit) state post halt := h

theorem ends_modify {f : σ → σ} {post : Unit → σ → Prop} (h : post () (f state)) :
    Ends (modify f : ExceptT ε (StateM σ) Unit) state post halt := h

/-- A step that leaves the state alone. -/
theorem ends_mk {result : Except ε α} {post : α → σ → Prop}
    (hok : ∀ a, result = .ok a → post a state) (hstop : ∀ stop, result = .error stop → halt) :
    Ends (.mk (pure result)) state post halt := by
  rcases result with stop | a
  · exact hstop stop rfl
  · exact hok a rfl

theorem ends_ok {a : α} {post : α → σ → Prop} (h : post a state) :
    Ends (.mk (pure (.ok a)) : ExceptT ε (StateM σ) α) state post halt := h

end PoolRewards
