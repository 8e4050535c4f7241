/-
What a computation that looks things up can answer.

Nothing is known of the way `m` in which lookups run, so a statement about all answers of a
computation cannot run it.  `Always` says instead that the computation is one of answers
with the property in the first place.  It goes through every way of putting computations
together; where nothing is looked up, it is the statement about the one answer.
-/
import Mathlib.Tactic.Choose
import PoolRewards.Failure

namespace PoolRewards

variable {m : Type → Type} [Monad m] {α β : Type} {p q : α → Prop} {r : β → Prop}

/-- Every answer of a computation has a property. -/
def Always (p : α → Prop) (x : m α) : Prop := ∃ y : m {a // p a}, Subtype.val <$> y = x

/-- Every answer of a computation that does not stop has a property. -/
def Answers (p : α → Prop) (x : ExceptT Halt m α) : Prop :=
  Always (fun result => ∀ a, result = .ok a → p a) x.run

theorem always_id {x : Id α} : Always p x ↔ p (Id.run x) := by
  refine ⟨?_, ?_⟩
  · intro h'
    obtain ⟨y, rfl⟩ := h'
    exact (Id.run y).2
  · intro h
    exact ⟨(⟨Id.run x, h⟩ : {a // p a}), rfl⟩

/-- An error that is told in other words is still one. -/
theorem mapError_eq_ok_iff {ε ε' : Type} {result : Except ε α} {tell : ε → ε'} {a : α} :
    result.mapError tell = .ok a ↔ result = .ok a := by
  cases result with
  | error e =>
      refine ⟨?_, ?_⟩ <;> intro h <;> cases h
  | ok b =>
      show (.ok b : Except ε' α) = .ok a ↔ _
      rw [Except.ok.injEq, Except.ok.injEq]

section lawful

variable [LawfulMonad m]

theorem always_pure {a : α} (h : p a) : Always p (pure a : m α) :=
  ⟨pure ⟨a, h⟩, by rw [map_pure]⟩

theorem always_true (x : m α) : Always (fun _ => True) x := by
  refine ⟨(fun a => ⟨a, trivial⟩) <$> x, ?_⟩
  rw [← comp_map]
  exact id_map x

theorem Always.bind {x : m α} {f : α → m β} (hx : Always p x) (hf : ∀ a, p a → Always r (f a)) :
    Always r (x >>= f) := by
  obtain ⟨y, rfl⟩ := hx
  choose g hg using fun a : {a // p a} => hf a.1 a.2
  refine ⟨y >>= g, ?_⟩
  rw [map_bind, bind_map_left]
  congr 1
  funext a
  exact hg a

theorem Always.mono {x : m α} (hx : Always p x) (h : ∀ a, p a → q a) : Always q x := by
  rw [← bind_pure x]
  exact hx.bind fun a ha => always_pure (h a ha)

theorem Always.map {x : m α} {f : α → β} (hx : Always p x) (h : ∀ a, p a → r (f a)) :
    Always r (f <$> x) := by
  rw [← bind_pure_comp]
  exact hx.bind fun a ha => always_pure (h a ha)

/-! ### Computations that can stop

A computation that stops has no answer, and nothing has to be known of where it stops.  So
`Answers` is handed from step to step by what the steps before have answered, and a failed
lookup, an error of the rewards and a fault of arithmetic all claim nothing.  There is one
rule for each kind of step that a generation is put together from.
-/

theorem answers_pure {a : α} (h : p a) : Answers p (pure a : ExceptT Halt m α) := by
  refine always_pure ?_
  intro b hb
  cases hb
  exact h

theorem answers_throw (halt : Halt) : Answers p (throw halt : ExceptT Halt m α) := by
  refine always_pure ?_
  intro b hb
  cases hb

theorem Answers.bind {x : ExceptT Halt m α} {f : α → ExceptT Halt m β} (hx : Answers p x)
    (hf : ∀ a, p a → Answers r (f a)) : Answers r (x >>= f) := by
  unfold Answers
  rw [ExceptT.run_bind]
  refine Always.bind hx ?_
  intro result ha
  rcases result with halt | a
  · refine always_pure ?_
    intro b hb
    cases hb
  · exact hf a (ha a rfl)

theorem Answers.mono {x : ExceptT Halt m α} (hx : Answers p x) (h : ∀ a, p a → q a) : Answers q x :=
  Always.mono hx fun _ hp a ha => h a (hp a ha)

theorem answers_true (x : ExceptT Halt m α) : Answers (fun _ => True) x :=
  Always.mono (always_true x.run) fun _ _ _ _ => trivial

theorem answers_mk {result : Except Halt α} (h : ∀ a, result = .ok a → p a) :
    Answers p (.mk (pure result) : ExceptT Halt m α) :=
  always_pure h

theorem answers_check {result : Except GenerationError α} (h : ∀ a, result = .ok a → p a) :
    Answers p (Halt.check result : ExceptT Halt m α) :=
  always_pure fun a ha => h a (mapError_eq_ok_iff.mp ha)

theorem answers_arithmetic {result : Except Fault α} (h : ∀ a, result = .ok a → p a) :
    Answers p (Halt.arithmetic result : ExceptT Halt m α) :=
  always_pure fun a ha => h a (mapError_eq_ok_iff.mp ha)

/-- What is known of the answers of a lookup is known of the one it has. -/
theorem answers_lookup {context : String} {ask : m (Except ClientError α)}
    (h : Always (fun answer => ∀ a, answer = .ok a → p a) ask) : Answers p (Halt.lookup context ask) :=
  h.map fun _ hp a ha => hp a (mapError_eq_ok_iff.mp ha)

theorem answers_lift {x : m α} (h : Always p x) : Answers p (ExceptT.lift x) := by
  refine Always.map h ?_
  intro a ha b hb
  cases hb
  exact ha

end lawful

/-! ### Lookups without side effects

Where a lookup does nothing but answer, a computation can be run, and it returns an answer
or none.  The witnesses need this: their clients answer from tables, and what comes of a
generation is evaluated.
-/

/-- A computation whose lookups have no side effects returns an answer. -/
def Returns (x : ExceptT Halt Id α) (a : α) : Prop := Id.run x.run = .ok a

variable {a : α} {b : β}

theorem returns_pure {c : α} : Returns (pure a : ExceptT Halt Id α) c ↔ a = c := by
  show (.ok a : Except Halt α) = .ok c ↔ a = c
  rw [Except.ok.injEq]

theorem returns_bind {x : ExceptT Halt Id α} {f : α → ExceptT Halt Id β} :
    Returns (x >>= f) b ↔ ∃ a, Returns x a ∧ Returns (f a) b := by
  have hrun : Id.run (x >>= f).run = match Id.run x.run with
      | .ok a => Id.run (f a).run
      | .error halt => .error halt := by
    show (x >>= f) = _
    simp only [bind, ExceptT.bind, ExceptT.mk, ExceptT.bindCont, ExceptT.run]
    rcases h : (x : Except Halt α) with _ | _ <;> rfl
  unfold Returns
  rw [hrun]
  rcases Id.run x.run with halt | a <;> simp

theorem returns_mk {result : Except Halt α} : Returns (.mk (pure result)) a ↔ result = .ok a := Iff.rfl

theorem returns_check {result : Except GenerationError α} :
    Returns (Halt.check result) a ↔ result = .ok a := by
  show result.mapError _ = _ ↔ _
  exact mapError_eq_ok_iff

theorem returns_arithmetic {result : Except Fault α} :
    Returns (Halt.arithmetic result) a ↔ result = .ok a := by
  show result.mapError _ = _ ↔ _
  exact mapError_eq_ok_iff

theorem returns_lift {x : Id α} : Returns (ExceptT.lift x) a ↔ Id.run x = a := by
  show (.ok (Id.run x) : Except Halt α) = .ok a ↔ _
  rw [Except.ok.injEq]

end PoolRewards
