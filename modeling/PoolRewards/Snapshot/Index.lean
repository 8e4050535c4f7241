/-
Lookups by address.

A list is looked up by a key of its members: either the last member with a key counts, or
all of them do, in the order of the list.  Each lookup is stated as what a search through
the list would find.
-/
import PoolRewards.Snapshot.Basic

namespace PoolRewards

open Std (ExtTreeMap)

/-- Members by key.  Of several with one key the last counts. -/
def lastBy {α : Type} (key : α → Address) (members : List α) : ExtTreeMap Address α :=
  members.foldl (fun found member => found.insert (key member) member) ∅

/-- Members in groups of one key each, in the order of the list. -/
def groupBy {α : Type} (key : α → Address) (members : List α) : ExtTreeMap Address (List α) :=
  members.foldr (fun member groups => groups.alter (key member) fun group => some (member :: group.getD [])) ∅

theorem getElem?_lastBy {α : Type} (key : α → Address) (members : List α) (k : Address) :
    (lastBy key members)[k]? = members.reverse.find? fun member => key member == k := by
  suffices h : ∀ found : ExtTreeMap Address α,
      (members.foldl (fun found member => found.insert (key member) member) found)[k]? =
        (members.reverse.find? fun member => key member == k).or found[k]? by
    simpa [lastBy] using h ∅
  induction members with
  | nil => simp
  | cons member members ih =>
    intro found
    rw [List.foldl_cons, ih, ExtTreeMap.getElem?_insert, List.reverse_cons, List.find?_append,
      Option.or_assoc]
    congr 1
    by_cases h : key member = k
    · simp [h]
    · have : compare (key member) k ≠ .eq := fun hc => h (Std.LawfulEqCmp.eq_of_compare hc)
      simp [h, this]

theorem getElem?_groupBy {α : Type} (key : α → Address) (members : List α) (k : Address) :
    ((groupBy key members)[k]?).getD [] = members.filter fun member => key member == k := by
  induction members with
  | nil => simp [groupBy]
  | cons member members ih =>
    have step : groupBy key (member :: members) =
        (groupBy key members).alter (key member) fun group => some (member :: group.getD []) := rfl
    rw [step, ExtTreeMap.getElem?_alter]
    by_cases h : key member = k
    · subst h
      simp [ih]
    · have : compare (key member) k ≠ .eq := fun hc => h (Std.LawfulEqCmp.eq_of_compare hc)
      simp [h, this, ih]

end PoolRewards
