/-
Readers read back what is written, whatever the order of members.

A structure is written as an object with a member for each of its fields.  Its reader looks its
fields up by name, so only the names and the values behind them count; each field is read by the
reader for its type, and the reader of a structure is put together from those of its fields.
-/
import PoolRewards.Proofs.Json.Settled
import PoolRewards.Proofs.Maps

namespace PoolRewards.Json

variable {α β : Type} {room : Nat}

/-- The value is plain, and read as `a` with the members of its objects in any order. -/
structure Decoder.Recovers (decode : Decoder α) (room : Nat) (json : Json) (a : α) : Prop where
  plain : Plain room json
  reads : ∀ source json', Reordered json json' → decode source json' = .ok a

namespace Decoder

theorem recovers_word (n : UInt64) : Recovers word room (.ofWord n) n where
  plain := .word n
  reads source json' h := by
    cases h
    rfl

theorem recovers_string (s : String) : Recovers string room (.ofString s) s where
  plain := .text s
  reads source json' h := by
    cases h
    rfl

theorem recovers_bool (b : Bool) : Recovers bool room (.bool b) b where
  plain := .bool b
  reads source json' h := by
    cases h
    rfl

theorem recovers_amount (amount : Amount) :
    Recovers Decoder.amount room (.ofString amount.toText) amount where
  plain := .text _
  reads source json' h := by
    cases h
    simp only [Decoder.amount, ofString, string, bind, Except.bind, Amount.ofText_toText]

theorem recovers_octets {count : Nat} (value : Octets count) :
    Recovers (octets count) room (.ofString value.toText) value where
  plain := .text _
  reads source json' h := by
    cases h
    show octetsOfText value.toText = _
    rw [octetsOfText, Octets.ofText_toText]

theorem recovers_variant {variants : List (String × α)} {name : String} {a : α}
    (h : variantNamed variants name = .ok a) : Recovers (variant variants) room (.ofString name) a where
  plain := .text name
  reads source json' hsame := by
    cases hsame
    exact h

theorem recovers_list {decode : Decoder α} {write : α → Json} {as : List α}
    (h : ∀ a ∈ as, Recovers decode room (write a) a) :
    Recovers (list decode) (room + 1) (.ofList (as.map write)) as where
  plain := by
    refine .list fun item hmem => ?_
    obtain ⟨a, ha, rfl⟩ := List.mem_map.mp hmem
    exact (h a ha).plain
  reads source json' hsame := by
    obtain ⟨items', rfl, hlength, hitems⟩ := hsame.exists_items
    clear hsame
    show items decode source true items' = _
    induction as generalizing items' with
    | nil =>
        rw [List.length_eq_zero_iff.mp hlength.symm]
        rfl
    | cons a as ih =>
        cases items' with
        | nil => exact absurd hlength (Nat.succ_ne_zero _)
        | cons item' items' =>
            obtain ⟨ha, hrest⟩ := List.forall_mem_cons.mp h
            have hfirst := ha.reads source item' (hitems _ _ List.mem_cons_self)
            have hmore := ih hrest items' (Nat.succ.inj hlength)
              fun item item' hmem => hitems item item' (List.mem_cons_of_mem _ hmem)
            rw [items, hfirst, hmore]
            rfl

/-! ### Maps

The keys of a map are written as texts of one length, in the order of the keys.  A reader
takes the members in the order in which it finds them, and a map does not remember that
order.
-/

variable {count : Nat} {decode : Decoder α}

theorem toText_injective {key other : Octets count} (h : key.toText = other.toText) : key = other := by
  have hsame : (Except.ok key : Except Hex.TextFault (Octets count)) = .ok other := by
    rw [← Octets.ofText_toText key, h, Octets.ofText_toText]
  exact Except.ok.inj hsame

theorem toText_ne_embeddedName (key : Octets count) : key.toText ≠ embeddedName := by
  intro h
  have hfirst : key.toText.toList.head? = some '0' := by
    rw [Octets.toText, String.toList_append]
    rfl
  rw [h] at hfirst
  exact absurd hfirst (by decide)

theorem exists_entries {source : Source} {written : List (Octets count × α)} {members : List (String × Json)}
    (h : ∀ member ∈ members, ∃ entry ∈ written,
      member.1 = entry.1.toText ∧ decode source member.2 = .ok entry.2) :
    ∃ found, entries octetsOfText decode source true (named members) = .ok found ∧
      found.map (fun entry => entry.1.toText) = members.map (·.1) ∧ ∀ entry ∈ found, entry ∈ written := by
  induction members with
  | nil => exact ⟨[], rfl, rfl, nofun⟩
  | cons member members ih =>
      obtain ⟨⟨entry, hmem, hname, hvalue⟩, hrest⟩ := List.forall_mem_cons.mp h
      obtain ⟨found, hfound, hnames, hwritten⟩ := ih hrest
      have hkey : octetsOfText member.1 = .ok entry.1 := by
        rw [hname, octetsOfText, Octets.ofText_toText]
      refine ⟨entry :: found, ?_, ?_, ?_⟩
      · rw [named_cons, entries, hkey, hvalue, hfound]
        rfl
      · rw [List.map_cons, List.map_cons, hnames, hname]
      · exact List.forall_mem_cons.mpr ⟨hmem, hwritten⟩

theorem nodup_names (entries : Std.ExtTreeMap (Octets count) α) :
    (entries.toList.map fun entry => entry.1.toText).Nodup := by
  refine List.pairwise_map.mpr (entries.distinct_keys_toList.imp ?_)
  intro entry other hne htext
  exact hne (Std.LawfulEqCmp.compare_eq_iff_eq.mpr (toText_injective htext))

/-- **A map is read back from an object with a member for each entry**, in any order. -/
theorem recovers_keyed {write : α → Json} {listed : Std.ExtTreeMap (Octets count) α}
    (h : ∀ entry ∈ listed.toList, Recovers decode room (write entry.2) entry.2) :
    Recovers (keyed decode) (room + 1)
      (.ofMembers (listed.toList.map fun (key, value) => (key.toText, write value))) listed where
  plain := by
    refine .members ?_ ?_ ?_
    · rw [List.map_map]
      exact nodup_names listed
    · rw [List.map_map]
      intro hmem
      obtain ⟨entry, -, hname⟩ := List.mem_map.mp hmem
      exact toText_ne_embeddedName entry.1 hname
    · intro member hmem
      obtain ⟨entry, hentry, rfl⟩ := List.mem_map.mp hmem
      exact (h entry hentry).plain
  reads source json' hsame := by
    obtain ⟨members', rfl, hperm, hwritten⟩ := hsame.exists_written
    rw [List.map_map] at hperm
    have hentries : ∀ member' ∈ members', ∃ entry ∈ listed.toList,
        member'.1 = entry.1.toText ∧ decode source member'.2 = .ok entry.2 := by
      intro member' hmem'
      obtain ⟨member, hmem, hname, hvalue⟩ := hwritten member' hmem'
      obtain ⟨entry, hentry, rfl⟩ := List.mem_map.mp hmem
      exact ⟨entry, hentry, hname, (h entry hentry).reads source _ hvalue⟩
    obtain ⟨found, hfound, hnames, hlisted⟩ := exists_entries hentries
    have hkeys : (found.map fun entry => entry.1.toText).Perm
        (listed.toList.map fun entry => entry.1.toText) := by
      rw [hnames]
      exact hperm
    -- The entries found are among those listed and have all their names, so they are all of them.
    have hall : found.Perm listed.toList := by
      have hdistinct := hkeys.nodup_iff.mpr (nodup_names listed)
      have hlength := hkeys.length_eq
      rw [List.length_map, List.length_map] at hlength
      exact (List.subperm_of_subset (hdistinct.of_map _) hlisted).perm_of_length_le (Nat.le_of_eq hlength.symm)
    show (fun found => List.foldl _ _ found) <$> entries octetsOfText decode source true (named members') = _
    rw [hfound]
    exact congrArg Except.ok (foldl_insert_of_perm hall)

end Decoder

/-! ### Structures

The reader of a structure takes its fields one after the other from one object.  A field
that is added behind others must not change what they read, and it does not, as each of them
looks for its own name only.
-/

theorem get?_ofMembers {members : List (String × Json)} (hnames : (members.map (·.1)).Nodup)
    {name : String} {value : Json} (h : (name, value) ∈ members) :
    (Json.ofMembers members).get? name = some value := by
  show ((named members).find? fun member => member.1 == some name).map (·.2) = _
  induction members with
  | nil => cases h
  | cons member members ih =>
      rw [List.map_cons, List.nodup_cons] at hnames
      rw [named_cons, List.find?_cons]
      rcases List.mem_cons.mp h with rfl | h
      · rw [beq_self_eq_true]
        rfl
      · have hother : (some member.1 == some name) = false := by
          rw [beq_eq_false_iff_ne]
          intro heq
          exact hnames.1 (List.mem_map.mpr ⟨_, h, (Option.some.inj heq).symm⟩)
        rw [hother]
        exact ih hnames.2 h

namespace Record

/-- The members are plain and stand for the fields of a structure, which is read as `a` from
them, wherever they are found. -/
structure Recovers (record : Record α) (room : Nat) (members : List (String × Json)) (a : α) : Prop where
  names : record.names = members.map (·.1)
  plain : ∀ member ∈ members, Plain room member.2
  values : ∀ source last (lookup : Lookup),
    (∀ member ∈ members, ∃ place json,
      lookup member.1 = some (place, json) ∧ Reordered member.2 json) →
      record.ofMembers source last lookup = .ok a

theorem recovers_unit (a : α) : (unit a).Recovers room [] a := ⟨rfl, nofun, fun _ _ _ _ => rfl⟩

variable {rest : Record (α → β)} {members : List (String × Json)} {f : α → β} {decode : Decoder α}
  {json : Json} {a : α}

theorem Recovers.fieldOr (h : rest.Recovers room members f) (name : String)
    (hdecode : decode.Recovers room json a) (absent : Option α) :
    (rest.fieldOr name decode absent).Recovers room (members ++ [(name, json)]) (f a) where
  names := by
    rw [List.map_append, ← h.names]
    rfl
  plain member hmem := by
    rcases List.mem_append.mp hmem with hmem | hmem
    · exact h.plain member hmem
    · rw [List.mem_singleton.mp hmem]
      exact hdecode.plain
  values source last lookup hlookup := by
    have hrest := h.values source last lookup
      fun member hmem => hlookup member (List.mem_append_left _ hmem)
    obtain ⟨place, json', hjson', hsame⟩ :=
      hlookup (name, json) (List.mem_append_right _ List.mem_cons_self)
    simp only [Record.fieldOr, followedBy, hrest, hjson', hdecode.reads source json' hsame]

theorem Recovers.field (h : rest.Recovers room members f) (name : String)
    (hdecode : decode.Recovers room json a) :
    (rest.field name decode).Recovers room (members ++ [(name, json)]) (f a) :=
  h.fieldOr name hdecode none

/-! ### Objects

An object has a fault of its own where a field comes twice or a member cannot be made out.
Members that are written under distinct names of the structure give it none, so only its
fields could fail, and these are read back.
-/

theorem memberFault_eq_none {names seen : List String} {members : List (String × Json)}
    (hnames : (members.map (·.1) ++ seen).Nodup) (hknown : ∀ member ∈ members, member.1 ∈ names)
    (place : Nat) : memberFault names true place seen (named members) = none := by
  induction members generalizing place seen with
  | nil => rfl
  | cons member members ih =>
      rw [List.map_cons, List.cons_append, List.nodup_cons, List.mem_append, not_or] at hnames
      obtain ⟨hmember, hrest⟩ := List.forall_mem_cons.mp hknown
      have hnew : ¬ seen.contains member.1 = true := fun h =>
        hnames.1.2 (List.contains_iff_mem.mp h)
      rw [named_cons, memberFault, if_pos (List.contains_iff_mem.mpr hmember), if_neg hnew]
      refine ih ?_ hrest _
      exact List.perm_middle.nodup_iff.mpr (List.nodup_cons.mpr ⟨by simpa using hnames.1, hnames.2⟩)

theorem exists_lookupIn {members : List (Option String × Json)} {closed : Bool} {name : String}
    {value : Json} (h : (Json.object members closed).get? name = some value) :
    ∃ place, lookupIn members name = some (place, value) := by
  have hplaces : (members.zipIdx.map (·.1)).find? (fun member => member.1 == some name) =
      (members.zipIdx.find? fun entry => entry.1.1 == some name).map (·.1) := List.find?_map ..
  rw [List.zipIdx_map_fst] at hplaces
  rw [Json.get?, hplaces, Option.map_map, Option.map_eq_some_iff] at h
  obtain ⟨entry, hentry, hvalue⟩ := h
  exact ⟨entry.2, by rw [lookupIn, hentry, Option.map_some, ← hvalue]; rfl⟩

/-- **A structure is read back from an object of its members**, in any order. -/
theorem Recovers.decoder {record : Record α} (h : record.Recovers room members a)
    (hnames : record.names.Nodup) (hfree : embeddedName ∉ record.names) (name : String) :
    (record.decoder name).Recovers (room + 1) (.ofMembers members) a where
  plain := .members (h.names ▸ hnames) (h.names ▸ hfree) h.plain
  reads source json' hsame := by
    obtain ⟨members', rfl, hperm, hvalues⟩ := hsame.exists_members
    rw [h.names] at hnames
    have hnames' : (members'.map (·.1)).Nodup := hperm.nodup_iff.mpr hnames
    have hfault : memberFault record.names true 0 [] (named members') = none := by
      refine memberFault_eq_none (by rwa [List.append_nil]) (fun member hmem => ?_) 0
      rw [h.names]
      exact hperm.mem_iff.mp (List.mem_map.mpr ⟨_, hmem, rfl⟩)
    have hlookup : ∀ member ∈ members, ∃ place json,
        lookupIn (named members') member.1 = some (place, json) ∧ Reordered member.2 json := by
      intro member hmem
      obtain ⟨value, hmem', hvalue⟩ := hvalues member hmem
      obtain ⟨place, hplace⟩ := exists_lookupIn (get?_ofMembers hnames' hmem')
      exact ⟨place, value, hplace, hvalue⟩
    have hread := h.values source ((named members').length + 1) _ hlookup
    show record.ofObject source (named members') true = _
    simp only [ofObject, hfault, hread]

end Record

/-! ### Texts

What was read back from a value is read back from the texts of the value.
-/

variable {decode : Decoder α} {json : Json} {a : α}

/-- A value is read back from either of its texts. -/
theorem Decoder.Recovers.decodeBytes (h : decode.Recovers room json a) :
    Json.decodeBytes decode json.compact.toUTF8.toList = .ok a ∧
      Json.decodeBytes decode json.pretty.toUTF8.toList = .ok a := by
  have hread := h.reads .text json h.plain.reordered
  simp only [Json.decodeBytes, h.plain.ofBytes_compact, h.plain.ofBytes_pretty, hread]
  exact ⟨rfl, rfl⟩

end PoolRewards.Json
