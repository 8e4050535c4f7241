/-
Percent signs in URLs: a byte that cannot stand for itself is written as two digits behind
a percent sign.
-/
import PoolRewards.Hex

namespace PoolRewards.Url

/-- Whether a character is a control or none of ASCII. -/
def isControl (c : Char) : Bool := c.toNat < 32 || 126 < c.toNat

/-- Characters that never stand for themselves in a fragment. -/
def inFragment (c : Char) : Bool := isControl c || " \"<>\x60".contains c

/-- Characters that never stand for themselves in a path. -/
def inPath (c : Char) : Bool := inFragment c || "#?\x7b\x7d".contains c

/-- Characters that never stand for themselves in a name or a password. -/
def inUser (c : Char) : Bool := inPath c || "/:;=@[\\]^|".contains c

/-- Characters that never stand for themselves in a query. -/
def inQuery (isWeb : Bool) (c : Char) : Bool :=
  isControl c || " \"#<>".contains c || (isWeb && c = '\'')

/-- The bytes of a character behind percent signs. -/
def percentText (c : Char) : String :=
  String.join ((String.singleton c).toUTF8.toList.map fun byte => "%" ++ (Hex.encode [byte]).toUpper)

/-- A text with some characters percent-encoded. -/
def percentEncode (odd : Char → Bool) (cs : List Char) : String :=
  String.join (cs.map fun c => if odd c then percentText c else String.singleton c)

/-- Bytes with each percent sign and the two digits behind it read as one byte. -/
def percentDecode : List UInt8 → List UInt8
  | 37 :: high :: low :: rest =>
    match Hex.digitValue? high, Hex.digitValue? low with
    | some h, some l => (16 * h + l) :: percentDecode rest
    | _, _ => 37 :: percentDecode (high :: low :: rest)
  | byte :: rest => byte :: percentDecode rest
  | [] => []

end PoolRewards.Url
