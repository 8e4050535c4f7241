/-
Sums over the entries of a map.

A map lists its entries by key and each key once, so changing the entry of one key changes
a sum over all entries by that entry alone.
-/
import Mathlib.Algebra.BigOperators.Group.List.Basic
import Mathlib.Data.List.Perm.Basic
import Std.Data.ExtTreeMap

namespace PoolRewards

open Std (ExtTreeMap TransOrd LawfulEqOrd)

variable {κ ν M : Type} [Ord κ] [TransOrd κ] [LawfulEqOrd κ] {entries : ExtTreeMap κ ν} {k : κ} {v : ν}

theorem nodup_toList (entries : ExtTreeMap κ ν) : entries.toList.Nodup := by
  refine List.Pairwise.imp ?_ entries.distinct_keys_toList
  intro a b h heq
  obtain rfl := heq
  exact h Std.ReflCmp.compare_self

theorem toList_perm_erase (h : entries[k]? = some v) :
    entries.toList.Perm ((k, v) :: (entries.erase k).toList) := by
  have hnew : (k, v) ∉ (entries.erase k).toList := by
    rw [ExtTreeMap.mem_toList_iff_getElem?_eq_some, ExtTreeMap.getElem?_erase]
    simp
  refine (List.perm_ext_iff_of_nodup (nodup_toList _)
    (List.nodup_cons.mpr ⟨hnew, nodup_toList _⟩)).mpr ?_
  intro entry
  obtain ⟨k', v'⟩ := entry
  simp only [List.mem_cons, ExtTreeMap.mem_toList_iff_getElem?_eq_some, ExtTreeMap.getElem?_erase,
    Std.LawfulEqCmp.compare_eq_iff_eq, Prod.mk.injEq]
  by_cases hk : k = k'
  · subst hk
    simp [h, eq_comm]
  · have hk' : k' ≠ k := fun hc => hk hc.symm
    simp [hk, hk']

theorem erase_of_getElem?_none (h : entries[k]? = none) : entries.erase k = entries := by
  apply ExtTreeMap.ext_getElem?
  intro k'
  rw [ExtTreeMap.getElem?_erase]
  split
  · next heq =>
    obtain rfl := Std.LawfulEqCmp.compare_eq_iff_eq.mp heq
    exact h.symm
  · rfl

theorem toList_insert_perm (h : entries[k]? = none) :
    (entries.insert k v).toList.Perm ((k, v) :: entries.toList) := by
  have herase : (entries.insert k v).erase k = entries := by
    apply ExtTreeMap.ext_getElem?
    intro k'
    rw [ExtTreeMap.getElem?_erase, ExtTreeMap.getElem?_insert]
    split
    · next heq =>
      obtain rfl := Std.LawfulEqCmp.compare_eq_iff_eq.mp heq
      exact h.symm
    · rfl
  have hself : (entries.insert k v)[k]? = some v := ExtTreeMap.getElem?_insert_self
  have hperm := toList_perm_erase hself
  rwa [herase] at hperm

/-- A map that is filled from a list with distinct keys lists the members of the list. -/
theorem toList_foldl_insert_perm {α : Type} (key : α → κ) (value : α → ν) (members : List α)
    (hdistinct : (members.map key).Nodup) :
    (members.foldl (fun entries a => entries.insert (key a) (value a)) (∅ : ExtTreeMap κ ν)).toList.Perm
      (members.map fun a => (key a, value a)) := by
  suffices h : ∀ entries : ExtTreeMap κ ν, (∀ a ∈ members, entries[key a]? = none) →
      (members.foldl (fun entries a => entries.insert (key a) (value a)) entries).toList.Perm
        (members.map (fun a => (key a, value a)) ++ entries.toList) by
    have hempty := h ∅ fun _ _ => ExtTreeMap.getElem?_empty
    rwa [ExtTreeMap.toList_eq_nil_iff.mpr rfl, List.append_nil] at hempty
  induction members with
  | nil => exact fun _ _ => List.Perm.refl _
  | cons a rest ih =>
      intro entries hnew
      obtain ⟨hfresh, hdistinct⟩ := List.nodup_cons.mp hdistinct
      refine (ih hdistinct _ ?_).trans ?_
      · intro b hb
        have hne : key a ≠ key b := fun heq => hfresh (heq ▸ List.mem_map_of_mem hb)
        rw [ExtTreeMap.getElem?_insert, if_neg fun hc => hne (Std.LawfulEqCmp.compare_eq_iff_eq.mp hc)]
        exact hnew b (List.mem_cons_of_mem _ hb)
      · exact ((toList_insert_perm (hnew a List.mem_cons_self)).append_left _).trans List.perm_middle

/-- A map is filled from its own entries, in any order. -/
theorem foldl_insert_of_perm {found : List (κ × ν)} (h : found.Perm entries.toList) :
    found.foldl (fun filled entry => filled.insert entry.1 entry.2) ∅ = entries := by
  have hdistinct : (found.map (·.1)).Nodup := by
    refine (h.map (·.1)).nodup_iff.mpr (List.pairwise_map.mpr (entries.distinct_keys_toList.imp ?_))
    intro entry other hne hkey
    exact hne (Std.LawfulEqCmp.compare_eq_iff_eq.mpr hkey)
  refine ExtTreeMap.ext_toList ((toList_foldl_insert_perm (·.1) (·.2) found hdistinct).trans ?_)
  rw [List.map_id']
  exact h

theorem sum_erase [AddCommMonoid M] (entries : ExtTreeMap κ ν) (k : κ) (g : κ × ν → M) :
    (entries.toList.map g).sum =
      (entries[k]?.map fun v => g (k, v)).getD 0 + ((entries.erase k).toList.map g).sum := by
  rcases h : entries[k]? with _ | v
  · rw [erase_of_getElem?_none h]
    exact (zero_add _).symm
  · rw [((toList_perm_erase h).map g).sum_eq, List.map_cons, List.sum_cons]
    rfl

/-- Changing the entry of one key changes a sum by that entry alone. -/
theorem sum_alter [AddCommMonoid M] (entries : ExtTreeMap κ ν) (k : κ) (g : κ × ν → M)
    (f : Option ν → ν) :
    ((entries.alter k fun old => some (f old)).toList.map g).sum +
        (entries[k]?.map fun v => g (k, v)).getD 0 =
      (entries.toList.map g).sum + g (k, f entries[k]?) := by
  have herase : (entries.alter k fun old => some (f old)).erase k = entries.erase k := by
    apply ExtTreeMap.ext_getElem?
    intro k'
    rw [ExtTreeMap.getElem?_erase, ExtTreeMap.getElem?_erase, ExtTreeMap.getElem?_alter]
    split <;> rfl
  have hnew : (entries.alter k fun old => some (f old))[k]? = some (f entries[k]?) := by
    rw [ExtTreeMap.getElem?_alter, if_pos Std.ReflCmp.compare_self]
  rw [sum_erase _ k, sum_erase entries k, herase, hnew]
  rw [Option.map_some, Option.getD_some, add_comm (g _), add_right_comm, add_comm _ (Option.getD _ _)]

end PoolRewards
