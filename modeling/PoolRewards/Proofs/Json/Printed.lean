/-
Both printed forms of a plain value are read as its tokens.

The pretty form and the compact one differ in what stands between the parts of a list or an
object: every part on a line of its own, or no blank at all.  So a form is taken for parts with
something between them and something around them, of which the machine makes a comma and a pair
of brackets, and each part is read as its own tokens.
-/
import PoolRewards.Proofs.Json.Tokens

namespace PoolRewards.Json

variable {text front back separator colon : String} {token opening closing : Token} {written : List Token}

/-- The text is read as the tokens, if what follows ends a number. -/
def Spells (text : String) (written : List Token) : Prop :=
  ∀ rest, EndsNumber rest →
    tokensFrom .between (text.toUTF8.toList ++ rest) = written ++ tokensFrom .between rest

/-- The text is read as one token and ends a number in front of it. -/
def Marks (text : String) (token : Token) : Prop :=
  ∀ rest, EndsNumber (text.toUTF8.toList ++ rest) ∧
    tokensFrom .between (text.toUTF8.toList ++ rest) = token :: tokensFrom .between rest

theorem Spells.tokens (h : Spells text written) : tokens text.toUTF8.toList = written := by
  have htokens := h [] endsNumber_nil
  rwa [List.append_nil, show tokensFrom .between [] = [] from rfl, List.append_nil] at htokens

/-! ### Scalars

A scalar is written alike in both forms.  Only a number needs to know what comes behind it.
-/

theorem spells_bool (b : Bool) : Spells (scalarText (.bool b)) (tokensOf (.bool b)) := by
  intro rest _
  rw [Text.utf8_toList]
  cases b <;> rfl

theorem spells_word (n : UInt64) : Spells (scalarText (.ofWord n)) (tokensOf (.ofWord n)) :=
  fun _ hrest => tokensFrom_word n hrest

theorem spells_text (s : String) : Spells (scalarText (.ofString s)) (tokensOf (.ofString s)) :=
  fun _ _ => tokensFrom_quote s

/-! ### Lines

Blanks between two tokens are skipped.  A line begins with its line break, which ends a
number as well as the mark behind it would.
-/

theorem tokensFrom_indentation (width : Nat) (rest : List UInt8) :
    tokensFrom .between ((indentation width).toUTF8.toList ++ rest) = tokensFrom .between rest := by
  rw [indentation, Text.utf8_ofList]
  induction width with
  | zero => rfl
  | succ width ih => exact ih

theorem Spells.indented (h : Spells text written) (indent : Nat) :
    Spells (indentation indent ++ text) written := by
  intro rest hrest
  rw [Text.utf8_append, List.append_assoc, tokensFrom_indentation, h rest hrest]

theorem Marks.onLine (h : Marks text token) (indent : Nat) :
    Marks ("\n" ++ indentation indent ++ text) token := by
  have hline : "\n".toUTF8.toList = [10] := Text.utf8_toList _
  intro rest
  rw [Text.utf8_append, Text.utf8_append, hline, List.append_assoc, List.append_assoc]
  refine ⟨endsNumber_cons (by decide), ?_⟩
  show tokensFrom .between ((indentation indent).toUTF8.toList ++ _) = _
  rw [tokensFrom_indentation, (h rest).2]

/-! ### Parts

A list and an object are parts between brackets in either form, and the forms differ in the
texts of comma, colon and brackets alone.  So the reading of parts is proved once, for any
texts that are read as these marks.
-/

/-- Texts with a separator between them. -/
def joined (separator : String) : List String → String
  | [] => ""
  | part :: rest => part ++ (if rest.isEmpty then "" else separator) ++ joined separator rest

/-- Tokens with a comma between them. -/
def commaTokens : List (List Token) → List Token
  | [] => []
  | part :: rest => part ++ (if rest.isEmpty then [] else [.comma]) ++ commaTokens rest

/-- Parts are read one by one, each ended by the separator behind it. -/
theorem spells_joined {α : Type} {text : α → String} {written : α → List Token} {parts : List α}
    (hseparator : Marks separator .comma) (h : ∀ part ∈ parts, Spells (text part) (written part)) :
    Spells (joined separator (parts.map text)) (commaTokens (parts.map written)) := by
  intro rest hrest
  have hempty : "".toUTF8.toList = [] := Text.utf8_toList _
  induction parts with
  | nil =>
      rw [List.map_nil, joined, hempty]
      rfl
  | cons part parts ih =>
      obtain ⟨hpart, hparts⟩ := List.forall_mem_cons.mp h
      rw [List.map_cons, List.map_cons, joined, commaTokens, Text.utf8_append, Text.utf8_append,
        List.append_assoc, List.append_assoc, List.append_assoc, List.append_assoc]
      cases parts with
      | nil =>
          rw [List.map_nil, List.map_nil, joined, List.isEmpty_nil, if_pos rfl, hempty]
          exact hpart rest hrest
      | cons next parts =>
          rw [List.map_cons, List.map_cons, if_neg (by simp), if_neg (by simp)]
          rw [hpart _ (hseparator _).1, (hseparator _).2]
          exact congrArg _ (congrArg _ (ih hparts))

theorem Spells.member (h : Spells text written) (hcolon : Marks colon .colon) (name : String) :
    Spells (quote name ++ colon ++ text) (.text name :: .colon :: written) := by
  intro rest hrest
  rw [Text.utf8_append, Text.utf8_append, List.append_assoc, List.append_assoc, tokensFrom_quote,
    (hcolon _).2, h rest hrest]
  rfl

theorem Spells.enclosed (h : Spells text written) (hfront : Marks front opening)
    (hback : Marks back closing) : Spells (front ++ text ++ back) (opening :: (written ++ [closing])) := by
  intro rest _
  rw [Text.utf8_append, Text.utf8_append, List.append_assoc, List.append_assoc, (hfront _).2,
    h _ (hback rest).1, (hback rest).2, List.cons_append, List.append_assoc, List.singleton_append]

theorem itemTokens_eq (items : List Json) : itemTokens items = commaTokens (items.map tokensOf) := by
  induction items with
  | nil => rfl
  | cons item items ih => rw [itemTokens, List.map_cons, commaTokens, List.isEmpty_map, ih]

theorem memberTokens_eq (members : List (String × Json)) : memberTokens (named members) =
    commaTokens (members.map fun member => .text member.1 :: .colon :: tokensOf member.2) := by
  induction members with
  | nil => rfl
  | cons member members ih =>
      rw [named_cons, memberTokens, List.map_cons, commaTokens, List.isEmpty_map, ih, named, List.isEmpty_map,
        List.append_assoc, List.append_assoc]
      rfl

/-! ### The pretty form

Inside brackets the indentation is one step deeper, so the induction is on the value for all
indentations at once.
-/

theorem prettyItems_eq (indent : Nat) (items : List Json) : prettyItems indent items =
    joined ",\n" (items.map fun item => indentation indent ++ prettyFrom indent item) := by
  induction items with
  | nil => rw [prettyItems, List.map_nil, joined]
  | cons item items ih => rw [prettyItems, List.map_cons, joined, List.isEmpty_map, ih]

theorem prettyMembers_eq (indent : Nat) (members : List (String × Json)) :
    prettyMembers indent (named members) = joined ",\n" (members.map fun member =>
      indentation indent ++ (quote member.1 ++ ": " ++ prettyFrom indent member.2)) := by
  induction members with
  | nil => rw [named, List.map_nil, List.map_nil, prettyMembers, joined]
  | cons member members ih =>
      rw [named_cons, prettyMembers, List.map_cons, joined, List.isEmpty_map, ih, named, List.isEmpty_map,
        Option.getD_some]
      simp only [String.append_assoc]

theorem marks_of_bytes {byte : UInt8} {more : List UInt8} (hbytes : text.toUTF8.toList = byte :: more)
    (hapart : IsApart byte)
    (h : ∀ rest, tokensFrom .between (byte :: more ++ rest) = token :: tokensFrom .between rest) :
    Marks text token := by
  intro rest
  rw [hbytes]
  exact ⟨endsNumber_cons hapart, h rest⟩

/-- **The pretty form of a plain value is read as its tokens.** -/
theorem Plain.spells_prettyFrom {room : Nat} {json : Json} (h : Plain room json) (indent : Nat) :
    Spells (prettyFrom indent json) (tokensOf json) := by
  have hcomma : Marks ",\n" .comma := marks_of_bytes (Text.utf8_toList _) (by decide) fun _ => rfl
  induction h generalizing indent with
  | bool b => exact spells_bool b
  | word n => exact spells_word n
  | text s => exact spells_text s
  | @list room items h ih =>
      cases items with
      | nil =>
          intro rest _
          rw [ofList, prettyFrom, Text.utf8_toList]
          rfl
      | cons item items =>
          have hitems := spells_joined hcomma fun item hmem => (ih item hmem (indent + 2)).indented (indent + 2)
          have hclose : Marks "]" .closeArray :=
            marks_of_bytes (Text.utf8_toList _) (by decide) fun _ => rfl
          have hopen : Marks "[\n" .openArray :=
            marks_of_bytes (Text.utf8_toList _) (by decide) fun _ => rfl
          have hwhole := hitems.enclosed hopen (hclose.onLine indent)
          rw [← prettyItems_eq, ← itemTokens_eq, ← String.append_assoc, ← String.append_assoc] at hwhole
          exact hwhole
  | @members room members hnames hfree h ih =>
      cases members with
      | nil =>
          intro rest _
          rw [ofMembers, List.map_nil, prettyFrom, Text.utf8_toList]
          rfl
      | cons member members =>
          have hcolon : Marks ": " .colon := marks_of_bytes (Text.utf8_toList _) (by decide) fun _ => rfl
          have hmembers := spells_joined hcomma fun member hmem =>
            ((ih member hmem (indent + 2)).member hcolon member.1).indented (indent + 2)
          have hclose : Marks "\x7d" .closeObject :=
            marks_of_bytes (Text.utf8_toList _) (by decide) fun _ => rfl
          have hopen : Marks "\x7b\n" .openObject :=
            marks_of_bytes (Text.utf8_toList _) (by decide) fun _ => rfl
          have hwhole := hmembers.enclosed hopen (hclose.onLine indent)
          rw [← prettyMembers_eq, ← memberTokens_eq, ← String.append_assoc, ← String.append_assoc] at hwhole
          exact hwhole

theorem Plain.tokens_pretty {room : Nat} {json : Json} (h : Plain room json) :
    Json.tokens json.pretty.toUTF8.toList = tokensOf json :=
  (h.spells_prettyFrom 0).tokens

/-! ### The compact form

The same, with marks that are a single byte each.
-/

theorem compactItems_eq (items : List Json) : compactItems items = joined "," (items.map compact) := by
  induction items with
  | nil => rw [compactItems, List.map_nil, joined]
  | cons item items ih => rw [compactItems, List.map_cons, joined, List.isEmpty_map, ih]

theorem compactMembers_eq (members : List (String × Json)) : compactMembers (named members) =
    joined "," (members.map fun member => quote member.1 ++ ":" ++ compact member.2) := by
  induction members with
  | nil => rw [named, List.map_nil, List.map_nil, compactMembers, joined]
  | cons member members ih =>
      rw [named_cons, compactMembers, List.map_cons, joined, List.isEmpty_map, ih, named, List.isEmpty_map,
        Option.getD_some]

/-- **So is its compact form.** -/
theorem Plain.spells_compact {room : Nat} {json : Json} (h : Plain room json) :
    Spells (compact json) (tokensOf json) := by
  have hcomma : Marks "," .comma := marks_of_bytes (Text.utf8_toList _) (by decide) fun _ => rfl
  induction h with
  | bool b => exact spells_bool b
  | word n => exact spells_word n
  | text s => exact spells_text s
  | @list room items h ih =>
      have hopen : Marks "[" .openArray := marks_of_bytes (Text.utf8_toList _) (by decide) fun _ => rfl
      have hclose : Marks "]" .closeArray := marks_of_bytes (Text.utf8_toList _) (by decide) fun _ => rfl
      have hwhole := (spells_joined hcomma ih).enclosed hopen hclose
      rw [← compactItems_eq, ← itemTokens_eq] at hwhole
      exact hwhole
  | @members room members hnames hfree h ih =>
      have hcolon : Marks ":" .colon := marks_of_bytes (Text.utf8_toList _) (by decide) fun _ => rfl
      have hopen : Marks "\x7b" .openObject := marks_of_bytes (Text.utf8_toList _) (by decide) fun _ => rfl
      have hclose : Marks "\x7d" .closeObject := marks_of_bytes (Text.utf8_toList _) (by decide) fun _ => rfl
      have hmembers := spells_joined hcomma fun member hmem => (ih member hmem).member hcolon member.1
      have hwhole := hmembers.enclosed hopen hclose
      rw [← compactMembers_eq, ← memberTokens_eq] at hwhole
      exact hwhole

theorem Plain.tokens_compact {room : Nat} {json : Json} (h : Plain room json) :
    Json.tokens json.compact.toUTF8.toList = tokensOf json :=
  h.spells_compact.tokens

end PoolRewards.Json
