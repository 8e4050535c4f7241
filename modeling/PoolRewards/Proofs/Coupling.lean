/-
Two computations that do the same from different states.

Where nothing is looked up, both can be run: `Parallel` says that they have one answer and leave
related states.  Nothing is known of the way in which lookups run, so two computations with
lookups cannot be run side by side.  `Coupled` says instead that both are the two sides of one
computation of pairs that are related.  It goes through every way of putting computations
together, so where two of them differ in nothing that is looked up, what they return can be
compared.
-/
import PoolRewards.Proofs.Answers
import PoolRewards.Proofs.Ends

namespace PoolRewards

variable {m : Type → Type} [Monad m] {α α' β β' γ : Type} {related : α → α' → Prop}
  {next : β → β' → Prop}

/-- Two computations are the sides of one whose answers are pairs that are related. -/
def Coupled (related : α → α' → Prop) (x : m α) (x' : m α') : Prop :=
  ∃ both : m {pair : α × α' // related pair.1 pair.2},
    (fun pair => pair.1.1) <$> both = x ∧ (fun pair => pair.1.2) <$> both = x'

variable [LawfulMonad m]

theorem coupled_pure {a : α} {a' : α'} (h : related a a') :
    Coupled related (pure a : m α) (pure a') :=
  ⟨pure ⟨(a, a'), h⟩, by rw [map_pure], by rw [map_pure]⟩

theorem Coupled.bind {x : m α} {x' : m α'} {f : α → m β} {f' : α' → m β'} (h : Coupled related x x')
    (hf : ∀ a a', related a a' → Coupled next (f a) (f' a')) : Coupled next (x >>= f) (x' >>= f') := by
  obtain ⟨both, rfl, rfl⟩ := h
  choose g hg hg' using fun pair : {pair : α × α' // related pair.1 pair.2} => hf _ _ pair.2
  refine ⟨both >>= g, ?_, ?_⟩
  · rw [map_bind, bind_map_left]
    congr 1
    funext pair
    exact hg pair
  · rw [map_bind, bind_map_left]
    congr 1
    funext pair
    exact hg' pair

theorem Coupled.mono {related' : α → α' → Prop} {x : m α} {x' : m α'} (h : Coupled related x x')
    (hrelated : ∀ a a', related a a' → related' a a') : Coupled related' x x' := by
  rw [← bind_pure x, ← bind_pure x']
  exact h.bind fun a a' ha => coupled_pure (hrelated a a' ha)

/-- What is known of the answers of a computation is known of both sides of it. -/
theorem Always.coupled {p : α → Prop} {x : m α} (h : Always p x) :
    Coupled (fun a a' => a = a' ∧ p a) x x := by
  obtain ⟨y, rfl⟩ := h
  refine ⟨(fun a => ⟨(a.1, a.1), rfl, a.2⟩) <$> y, ?_, ?_⟩ <;> rw [← comp_map] <;> rfl

theorem Coupled.map_eq {x : m α} {x' : m α'} {f : α → γ} {f' : α' → γ} (h : Coupled related x x')
    (hf : ∀ a a', related a a' → f a = f' a') : f <$> x = f' <$> x' := by
  obtain ⟨both, rfl, rfl⟩ := h
  rw [← comp_map, ← comp_map]
  congr 1
  funext pair
  exact hf _ _ pair.2

/-! ### Without lookups

Between two lookups only a state is changed, and such a stretch can be run on both sides.
The answers have to be the same and not merely related, for what is done next depends on
them.
-/

section states

variable {ε σ : Type} {alike : σ → σ → Prop} {state state' after after' : σ}

/-- Both computations have one answer and leave related states, also where they stop. -/
def Parallel (alike : σ → σ → Prop) (step step' : ExceptT ε (StateM σ) α) (state state' : σ) : Prop :=
  (step'.run.run state').1 = (step.run.run state).1 ∧
    alike (step.run.run state).2 (step'.run.run state').2

theorem Parallel.bind {step step' : ExceptT ε (StateM σ) α} {f f' : α → ExceptT ε (StateM σ) β}
    (h : Parallel alike step step' state state')
    (hf : ∀ a mid mid', alike mid mid' → Parallel alike (f a) (f' a) mid mid') :
    Parallel alike (step >>= f) (step' >>= f') state state' := by
  obtain ⟨hanswer, halike⟩ := h
  unfold Parallel
  rw [run_bind, run_bind]
  rcases hrun : step.run.run state with ⟨stop | a, mid⟩ <;>
    rcases hrun' : step'.run.run state' with ⟨stop' | a', mid'⟩ <;> rw [hrun, hrun'] at hanswer halike <;>
      cases hanswer
  · exact ⟨rfl, halike⟩
  · exact hf a mid mid' halike

theorem parallel_pure {a : α} (h : alike state state') :
    Parallel alike (pure a : ExceptT ε (StateM σ) α) (pure a) state state' :=
  ⟨rfl, h⟩

theorem parallel_mk {result : Except ε α} (h : alike state state') :
    Parallel alike (.mk (pure result) : ExceptT ε (StateM σ) α) (.mk (pure result)) state state' :=
  ⟨rfl, h⟩

theorem parallel_set (h : alike after after') :
    Parallel alike (set after : ExceptT ε (StateM σ) Unit) (set after') state state' :=
  ⟨rfl, h⟩

theorem parallel_modify {f : σ → σ} (h : alike (f state) (f state')) :
    Parallel alike (modify f : ExceptT ε (StateM σ) Unit) (modify f) state state' :=
  ⟨rfl, h⟩

theorem parallel_get_bind {f f' : σ → ExceptT ε (StateM σ) α}
    (h : Parallel alike (f state) (f' state') state state') :
    Parallel alike (get >>= f) (get >>= f') state state' := by
  unfold Parallel
  rw [run_bind, run_bind]
  exact h

end states

end PoolRewards
