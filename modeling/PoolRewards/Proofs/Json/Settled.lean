/-
A plain value is settled as itself, but for the order of members, and so is its text.

Sorting puts the members of an object in another order.  Their names are distinct, so it drops
none of them and each keeps its value, which is settled in its turn.
-/
import Mathlib.Data.List.Nodup
import PoolRewards.Proofs.Json.Document

namespace PoolRewards.Json

variable {embedded : String → Except Fault Json} {room : Nat}

/-- The second value is the first, with the members of its objects in any order. -/
inductive Reordered : Json → Json → Prop
  | bool (b : Bool) : Reordered (.bool b) (.bool b)
  | word (n : UInt64) : Reordered (.ofWord n) (.ofWord n)
  | text (s : String) : Reordered (.ofString s) (.ofString s)
  | list {items items' : List Json} (hlength : items.length = items'.length)
      (h : ∀ item item', (item, item') ∈ items.zip items' → Reordered item item') :
      Reordered (.ofList items) (.ofList items')
  | members {members members' : List (String × Json)}
      (hnames : (members'.map (·.1)).Perm (members.map (·.1)))
      (h : ∀ name value value', (name, value) ∈ members → (name, value') ∈ members' →
        Reordered value value') :
      Reordered (.ofMembers members) (.ofMembers members')

theorem Plain.reordered {json : Json} (h : Plain room json) : Reordered json json := by
  induction h with
  | bool b => exact .bool b
  | word n => exact .word n
  | text s => exact .text s
  | @list room items h ih =>
      have hzip : items.zip items = items.map fun item => (item, item) := by
        simpa using List.zip_map' (f := id) (g := id) (l := items)
      refine .list rfl fun item item' hmem => ?_
      rw [hzip] at hmem
      obtain ⟨same, hsame, heq⟩ := List.mem_map.mp hmem
      obtain ⟨rfl, rfl⟩ := Prod.mk.inj heq
      exact ih same hsame
  | members hnames hfree h ih =>
      refine .members (.refl _) fun name value value' hmem hmem' => ?_
      -- The names are distinct, so a name has one value.
      obtain rfl := Prod.mk.inj (List.inj_on_of_nodup_map hnames hmem hmem' rfl) |>.2
      exact ih _ hmem

theorem Reordered.exists_items {items : List Json} {json : Json} (h : Reordered (.ofList items) json) :
    ∃ items', json = .ofList items' ∧ items.length = items'.length ∧
      ∀ item item', (item, item') ∈ items.zip items' → Reordered item item' := by
  cases h with
  | list hlength h => exact ⟨_, rfl, hlength, h⟩

theorem named_injective {members members' : List (String × Json)} (h : named members = named members') :
    members = members' := by
  have hback : ∀ members,
      (named members).map (fun member => (member.1.getD "", member.2)) = members := by
    intro members
    rw [named, List.map_map]
    exact List.map_id members
  rw [← hback members, h, hback]

theorem Reordered.exists_named {members : List (String × Json)} {json : Json}
    (h : Reordered (.ofMembers members) json) :
    ∃ members', json = .ofMembers members' ∧ (members'.map (·.1)).Perm (members.map (·.1)) ∧
      ∀ name value value', (name, value) ∈ members → (name, value') ∈ members' →
        Reordered value value' := by
  generalize hjson : ofMembers members = whole at h
  cases h with
  | members hnames h =>
      obtain rfl := named_injective (Json.object.inj hjson).1
      exact ⟨_, rfl, hnames, h⟩
  | _ => cases hjson

/-- Every member is among those of a reordered object, with its value reordered. -/
theorem Reordered.exists_members {members : List (String × Json)} {json : Json}
    (h : Reordered (.ofMembers members) json) :
    ∃ members', json = .ofMembers members' ∧ (members'.map (·.1)).Perm (members.map (·.1)) ∧
      ∀ member ∈ members, ∃ value, (member.1, value) ∈ members' ∧ Reordered member.2 value := by
  obtain ⟨members', rfl, hnames, hvalues⟩ := h.exists_named
  refine ⟨members', rfl, hnames, fun member hmem => ?_⟩
  obtain ⟨⟨name, value⟩, hmem', rfl⟩ :=
    List.mem_map.mp (hnames.mem_iff.mpr (List.mem_map.mpr ⟨_, hmem, rfl⟩))
  exact ⟨value, hmem', hvalues _ _ _ hmem hmem'⟩

theorem Reordered.exists_written {members : List (String × Json)} {json : Json}
    (h : Reordered (.ofMembers members) json) :
    ∃ members', json = .ofMembers members' ∧ (members'.map (·.1)).Perm (members.map (·.1)) ∧
      ∀ member' ∈ members', ∃ member ∈ members, member'.1 = member.1 ∧ Reordered member.2 member'.2 := by
  obtain ⟨members', rfl, hnames, hvalues⟩ := h.exists_named
  refine ⟨members', rfl, hnames, fun member' hmem' => ?_⟩
  obtain ⟨⟨name, value⟩, hmem, hname⟩ :=
    List.mem_map.mp (hnames.mem_iff.mp (List.mem_map.mpr ⟨_, hmem', rfl⟩))
  obtain rfl := hname
  exact ⟨_, hmem, rfl, hvalues _ _ _ hmem hmem'⟩

/-! ### Sorting

Members are put in one by one.  A name that is there already would lose its place, so the
induction carries that the names which are still to come are not among those that are in.
-/

theorem exists_insertMember {name : String} {members : List (String × Json)}
    (h : name ∉ members.map (·.1)) (value : Json) :
    ∃ sorted, insertMember name value (named members) = named sorted ∧
      sorted.Perm ((name, value) :: members) := by
  induction members with
  | nil => exact ⟨[(name, value)], rfl, .refl _⟩
  | cons member members ih =>
      rw [List.map_cons, List.mem_cons, not_or] at h
      obtain ⟨sorted, hsorted, hperm⟩ := ih h.2
      rw [named_cons, insertMember, Option.getD_some]
      split
      · exact ⟨(name, value) :: member :: members, rfl, .refl _⟩
      · rw [if_neg h.1, hsorted]
        exact ⟨member :: sorted, rfl, (hperm.cons member).trans (.swap ..)⟩

theorem exists_foldl_insertMember {members : List (String × Json)} (front : List (String × Json))
    (h : (members.map (·.1) ++ front.map (·.1)).Nodup) :
    ∃ sorted, (named members).foldl
        (fun sorted (name, value) => insertMember (name.getD "") value sorted) (named front) =
          named sorted ∧ sorted.Perm (members ++ front) := by
  induction members generalizing front with
  | nil => exact ⟨front, rfl, .refl _⟩
  | cons member members ih =>
      rw [List.map_cons, List.cons_append, List.nodup_cons, List.mem_append, not_or] at h
      obtain ⟨next, hnext, hperm⟩ := exists_insertMember h.1.2 member.2
      have hmiddle : (members.map (·.1) ++ next.map (·.1)).Nodup := by
        have hnames := ((hperm.map (·.1)).append_left (members.map (·.1))).trans List.perm_middle
        exact hnames.nodup_iff.mpr (List.nodup_cons.mpr ⟨by simpa using h.1, h.2⟩)
      obtain ⟨sorted, hsorted, hperm'⟩ := ih next hmiddle
      rw [named_cons, List.foldl_cons]
      exact ⟨sorted, by rw [← hsorted, ← hnext]; rfl,
        hperm'.trans ((hperm.append_left members).trans List.perm_middle)⟩

/-- **Members of distinct names are sorted without loss.** -/
theorem exists_sortMembers {members : List (String × Json)} (h : (members.map (·.1)).Nodup) :
    ∃ sorted, sortMembers (named members) = named sorted ∧ sorted.Perm members := by
  have hnames : (members.map (·.1) ++ ([] : List (String × Json)).map (·.1)).Nodup := by
    rwa [List.map_nil, List.append_nil]
  obtain ⟨sorted, hsorted, hperm⟩ := exists_foldl_insertMember [] hnames
  rw [List.append_nil] at hperm
  exact ⟨sorted, hsorted, hperm⟩

/-! ### Settling

Each value inside is settled first, and the members are sorted afterwards.  An object whose
first member has the name for embedded documents would be replaced by the document in it,
but no plain object has a member of that name.
-/

/-- A value is settled as itself, but for the order of members. -/
def Settles (embedded : String → Except Fault Json) (room : Nat) (json : Json) : Prop :=
  ∃ settled, settle embedded room json = .ok settled ∧ Reordered json settled

theorem exists_settleItems {items : List Json} (h : ∀ item ∈ items, Settles embedded room item) :
    ∃ settled, settleItems embedded room items = .ok settled ∧
      Reordered (.ofList items) (.ofList settled) := by
  suffices hitems : ∃ settled, settleItems embedded room items = .ok settled ∧
      items.length = settled.length ∧
      ∀ item item', (item, item') ∈ items.zip settled → Reordered item item' by
    obtain ⟨settled, hsettled, hlength, hzip⟩ := hitems
    exact ⟨settled, hsettled, .list hlength hzip⟩
  induction items with
  | nil => exact ⟨[], rfl, rfl, nofun⟩
  | cons item items ih =>
      obtain ⟨⟨first, hfirst, hsame⟩, hrest⟩ := List.forall_mem_cons.mp h
      obtain ⟨settled, hsettled, hlength, hzip⟩ := ih hrest
      refine ⟨first :: settled, ?_, congrArg (· + 1) hlength, ?_⟩
      · rw [settleItems, hfirst, hsettled]
        rfl
      · intro other other' hmem
        rw [List.zip_cons_cons, List.mem_cons, Prod.mk.injEq] at hmem
        rcases hmem with ⟨rfl, rfl⟩ | hmem
        · exact hsame
        · exact hzip other other' hmem

theorem exists_settleMembers {members : List (String × Json)} (hnames : (members.map (·.1)).Nodup)
    (h : ∀ member ∈ members, Settles embedded room member.2) :
    ∃ settled, settleMembers embedded room (named members) = .ok (named settled) ∧
      settled.map (·.1) = members.map (·.1) ∧
      ∀ name value value', (name, value) ∈ members → (name, value') ∈ settled →
        Reordered value value' := by
  induction members with
  | nil => exact ⟨[], rfl, rfl, nofun⟩
  | cons member members ih =>
      rw [List.map_cons, List.nodup_cons] at hnames
      obtain ⟨⟨first, hfirst, hsame⟩, hrest⟩ := List.forall_mem_cons.mp h
      obtain ⟨settled, hsettled, hkept, hvalues⟩ := ih hnames.2 hrest
      refine ⟨(member.1, first) :: settled, ?_, by rw [List.map_cons, List.map_cons, hkept], ?_⟩
      · rw [named_cons, settleMembers, hfirst, hsettled]
        rfl
      · intro name value value' hmem hmem'
        rcases List.mem_cons.mp hmem with rfl | hmem <;> rcases List.mem_cons.mp hmem' with heq | hmem'
        · cases heq
          exact hsame
        · have hname : name ∈ settled.map (·.1) := List.mem_map.mpr ⟨_, hmem', rfl⟩
          exact absurd (hkept ▸ hname) hnames.1
        · cases heq
          have hname : member.1 ∈ members.map (·.1) := List.mem_map.mpr ⟨_, hmem, rfl⟩
          exact absurd hname hnames.1
        · exact hvalues name value value' hmem hmem'

theorem embedded?_named {members : List (String × Json)} (h : embeddedName ∉ members.map (·.1)) :
    embedded? (named members) = none := by
  cases members with
  | nil => rfl
  | cons member members =>
      rw [List.map_cons, List.mem_cons, not_or] at h
      exact if_neg fun heq => h.1 heq.symm

/-- **A plain value is settled as itself, but for the order of members.** -/
theorem Plain.settles {json : Json} (h : Plain room json) (embedded : String → Except Fault Json) :
    Settles embedded room json := by
  induction h with
  | bool b => exact ⟨_, rfl, .bool b⟩
  | word n => exact ⟨_, rfl, .word n⟩
  | text s => exact ⟨_, rfl, .text s⟩
  | @list room items h ih =>
      obtain ⟨settled, hsettled, hsame⟩ := exists_settleItems ih
      refine ⟨.ofList settled, ?_, hsame⟩
      rw [ofList, settle, if_neg (Nat.succ_ne_zero room), Nat.add_sub_cancel, hsettled]
      rfl
  | @members room members hnames hfree h ih =>
      obtain ⟨settled, hsettled, hkept, hvalues⟩ := exists_settleMembers hnames ih
      obtain ⟨sorted, hsorted, hperm⟩ := exists_sortMembers (hkept ▸ hnames)
      refine ⟨.ofMembers sorted, ?_, .members (hkept ▸ hperm.map (·.1)) ?_⟩
      · have hnone := embedded?_named hfree
        show settle embedded (room + 1) (.object (named members) true) = _
        rw [settle, if_neg (Nat.succ_ne_zero room), Nat.add_sub_cancel, hnone, hsettled]
        show Except.ok (Json.object (sortMembers (named settled)) true) = _
        rw [hsorted]
        rfl
      · intro name value value' hmem hmem'
        exact hvalues name value value' hmem (hperm.mem_iff.mp hmem')

theorem Plain.settledOfBytes_pretty {json : Json} (h : Plain deepest json) :
    ∃ document, settledOfBytes json.pretty.toUTF8.toList = .ok document ∧ Reordered json document := by
  obtain ⟨document, hdocument, hsame⟩ :=
    h.settles fun s => settledWithin json.pretty.toUTF8.toList.length s.toUTF8.toList
  refine ⟨document, ?_, hsame⟩
  simp only [settledOfBytes, settledWithin, h.ofBytes_pretty, hdocument]
  rfl

end PoolRewards.Json
