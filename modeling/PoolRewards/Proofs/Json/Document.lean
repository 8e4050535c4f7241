/-
The text of a plain value is a document of that value.

The parser is a fold over the tokens, so what it makes of a value is known from what it makes of
the values inside.  A plain value takes a parser that waits for a value to one that stands behind
it, whatever is open around it; a first item and a first name are read as any others are.
-/
import PoolRewards.Proofs.Json.Printed

namespace PoolRewards.Json

variable {room : Nat} {json : Json}

/-! ### First tokens

An empty list is told from others only by its first token, so the parser waits for a first
item in a state of its own, and for a first name likewise.  No plain value begins with the
bracket that would end the list.
-/

theorem step_valueDue {frames : List Frame} {token : Token} (h : token ≠ .closeArray) :
    Parser.step (.valueDue frames) token = begin frames token := by
  cases frames with
  | nil => cases token <;> rfl
  | cons frame frames => cases frame <;> cases token <;> first | rfl | exact absurd rfl h

/-- A plain value begins with a token that also begins a first item. -/
theorem Plain.exists_tokensOf (h : Plain room json) :
    ∃ token written, tokensOf json = token :: written ∧ token ≠ .closeArray ∧
      ∀ frames, Parser.step (.firstItemDue frames) token = begin (.items [] :: frames) token := by
  cases h with
  | bool b => exact ⟨_, _, rfl, by simp, fun _ => rfl⟩
  | word n => exact ⟨_, _, rfl, by simp, fun _ => rfl⟩
  | text s => exact ⟨_, _, rfl, by simp, fun _ => rfl⟩
  | list => exact ⟨_, _, rfl, by simp, fun _ => rfl⟩
  | members => exact ⟨_, _, rfl, by simp, fun _ => rfl⟩

theorem Plain.foldl_firstItem (h : Plain room json) (frames : List Frame) (more : List Token) :
    (tokensOf json ++ more).foldl Parser.step (.firstItemDue frames) =
      (tokensOf json ++ more).foldl Parser.step (.valueDue (.items [] :: frames)) := by
  obtain ⟨token, written, htokens, hother, hfirst⟩ := h.exists_tokensOf
  rw [htokens, List.cons_append, List.foldl_cons, List.foldl_cons, hfirst, step_valueDue hother]

/-! ### Whole values

The induction is on the value.  Behind every item and every member the parser stands where
it would begin the next one, with what it has read so far on its stack, so the lists inside
a value are inductions of their own.
-/

/-- The parser stands behind the value once its tokens are read. -/
def Parses (json : Json) : Prop :=
  ∀ frames, (tokensOf json).foldl Parser.step (.valueDue frames) = .after json frames

theorem foldl_items {items : List Json} (h : ∀ item ∈ items, Parses item) (hitems : items ≠ [])
    (before : List Json) (frames : List Frame) :
    (itemTokens items ++ [Token.closeArray]).foldl Parser.step (.valueDue (.items before :: frames)) =
      .after (.array (before.reverse ++ items) true) frames := by
  induction items generalizing before with
  | nil => exact absurd rfl hitems
  | cons item items ih =>
      obtain ⟨hitem, hrest⟩ := List.forall_mem_cons.mp h
      have hbefore : before.reverse ++ item :: items = (item :: before).reverse ++ items := by
        rw [List.reverse_cons, List.append_assoc, List.singleton_append]
      rw [itemTokens, List.append_assoc, List.append_assoc, List.foldl_append, hitem, hbefore]
      cases items with
      | nil =>
          rw [List.append_nil]
          rfl
      | cons next items =>
          exact ih hrest (List.cons_ne_nil _ _) (item :: before)

theorem foldl_members {members : List (String × Json)} (h : ∀ member ∈ members, Parses member.2)
    (hmembers : members ≠ []) (before : List (Option String × Json)) (frames : List Frame) :
    (memberTokens (named members) ++ [Token.closeObject]).foldl Parser.step (.nameDue before frames) =
      .after (.object (before.reverse ++ named members) true) frames := by
  induction members generalizing before with
  | nil => exact absurd rfl hmembers
  | cons member members ih =>
      obtain ⟨hmember, hrest⟩ := List.forall_mem_cons.mp h
      have hbefore : before.reverse ++ named (member :: members) =
          ((some member.1, member.2) :: before).reverse ++ named members := by
        rw [named_cons, List.reverse_cons, List.append_assoc, List.singleton_append]
      rw [hbefore, named_cons, memberTokens, List.cons_append, List.cons_append,
        List.foldl_cons, List.foldl_cons]
      show List.foldl Parser.step (.valueDue (.members before (some member.1) :: frames)) _ = _
      rw [List.append_assoc, List.append_assoc, List.foldl_append, hmember]
      cases members with
      | nil =>
          rw [named, List.map_nil, List.append_nil]
          rfl
      | cons next members =>
          exact ih hrest (List.cons_ne_nil _ _) _

/-- **A plain value is parsed from its tokens.** -/
theorem Plain.parses (h : Plain room json) : Parses json := by
  induction h with
  | bool b => exact fun _ => step_valueDue (by simp)
  | word n => exact fun _ => step_valueDue (by simp)
  | text s => exact fun _ => step_valueDue (by simp)
  | @list room items h ih =>
      intro frames
      have hopen : Parser.step (.valueDue frames) .openArray = .firstItemDue frames :=
        step_valueDue (by simp)
      rw [ofList, tokensOf, List.foldl_cons, hopen]
      cases items with
      | nil => rfl
      | cons item items =>
          have hfirst := foldl_items ih (List.cons_ne_nil _ _) [] frames
          rw [itemTokens, List.append_assoc, List.append_assoc] at hfirst ⊢
          exact ((h item List.mem_cons_self).foldl_firstItem frames _).trans hfirst
  | @members room members hnames hfree h ih =>
      intro frames
      have hopen : Parser.step (.valueDue frames) .openObject = .firstNameDue frames :=
        step_valueDue (by simp)
      rw [ofMembers, tokensOf, List.foldl_cons, hopen]
      cases members with
      | nil => rfl
      | cons member members => exact foldl_members ih (List.cons_ne_nil _ _) [] frames

theorem Plain.ofBytes_pretty (h : Plain room json) :
    Document.ofBytes json.pretty.toUTF8.toList = ⟨json, false⟩ := by
  rw [Document.ofBytes, h.tokens_pretty, h.parses]
  rfl

theorem Plain.ofBytes_compact (h : Plain room json) :
    Document.ofBytes json.compact.toUTF8.toList = ⟨json, false⟩ := by
  rw [Document.ofBytes, h.tokens_compact, h.parses]
  rfl

end PoolRewards.Json
