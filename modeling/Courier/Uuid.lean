import Courier.Json.Record
import Courier.Text.Hex
import Courier.Text.Integer

/-!
# Uuid

Identifiers of 128 bits.  They are written as five groups of lower-case hexadecimal digits with
hyphens between them, and read in either case, with or without the hyphens, with them also in braces
or after `urn:uuid:`.
-/

namespace Courier

/-- An identifier of 128 bits. -/
structure Uuid where
  bits : BitVec 128
  deriving DecidableEq, Repr

namespace Uuid

/-- Puts hyphens between the groups of 8, 4, 4, 4 and 12 of 32 digits. -/
def hyphenated (s : List Char) : List Char :=
  s.take 8 ++ '-' :: (s.drop 8).take 4 ++ '-' :: (s.drop 12).take 4 ++ '-' :: (s.drop 16).take 4 ++
    '-' :: s.drop 20

/-- The text of an identifier. -/
def text (u : Uuid) : String :=
  String.ofList (hyphenated (Text.hexDigits 32 u.bits.toNat))

/-- Why a text is no identifier. -/
inductive Fault where
  | invalidCharacter (found : Char) (index : Nat)
  | length (found : Nat)
  | groupCount (found : Nat)
  | groupLength (group expected found : Nat)
  deriving DecidableEq, Repr

/-- The wording of a fault. -/
def Fault.message : Fault → String
  | invalidCharacter c i =>
    "invalid character: found \x60" ++ c.toString ++ "\x60 at " ++ Text.natText i
  | length n => "invalid length: found " ++ Text.natText n
  | groupCount n => "invalid group count: expected 5, found " ++ Text.natText n
  | groupLength g expected found =>
    "invalid group length in group " ++ Text.natText g ++ ": expected " ++ Text.natText expected ++
      ", found " ++ Text.natText found

/-- The identifier of exactly 32 digits. -/
def ofDigits? (s : List Char) : Option Uuid :=
  if s.length = 32 then (Text.hexNumber? s).map fun n => ⟨BitVec.ofNat 128 n⟩ else none

/-- The identifier of five groups with hyphens between them. -/
def ofGroups? (s : List Char) : Option Uuid :=
  if s.length = 36 ∧ s[8]? = some '-' ∧ s[13]? = some '-' ∧ s[18]? = some '-' ∧
      s[23]? = some '-' then
    ofDigits?
      (s.take 8 ++ (s.drop 9).take 4 ++ (s.drop 14).take 4 ++ (s.drop 19).take 4 ++ s.drop 24)
  else none

/-- The name under which identifiers stand among resource names. -/
def urn : List Char := "urn:uuid:".toList

/-- The text inside braces. -/
def unbraced? (s : List Char) : Option (List Char) :=
  match s with
  | '\x7b' :: rest => if rest.getLast? = some '\x7d' then some rest.dropLast else none
  | _ => none

/-- The identifier that a text spells. -/
def ofChars? (s : List Char) : Option Uuid :=
  if s.length = 32 then ofDigits? s
  else if s.length = 38 then (unbraced? s).bind ofGroups?
  else if s.length = 45 ∧ s.take 9 = urn then ofGroups? (s.drop 9)
  else ofGroups? s

/-- What is looked at when a text is refused: the part without braces or name, where that part
starts, and whether it is the whole text. -/
def core (s : List Char) : List Char × Nat × Bool :=
  match unbraced? s with
  | some t => (t, 1, false)
  | none => if s.take 9 = urn then (s.drop 9, 9, false) else (s, 0, true)

/-- The places of the hyphens of a text. -/
def hyphens (s : List Char) : List Nat :=
  (s.zipIdx.filter (·.1 = '-')).map (·.2)

/-- The first group before the last whose length is wrong, by the places of the four hyphens. -/
def wrongGroup? (places : List Nat) : Option Fault :=
  ((places.zip [(0, 0, 8), (1, 9, 4), (2, 14, 4), (3, 19, 4)]).find? fun (p, _, start, size) =>
    p ≠ start + size).map fun (p, group, start, size) => .groupLength group size (p - start)

/-- What is wrong with a text that spells no identifier: a foreign character before all else, then
the number of digits or of groups, then the length of a group. -/
def faultOf (s : List Char) : Fault :=
  let (t, offset, whole) := core s
  match t.zipIdx.find? fun (c, _) => c ≠ '-' ∧ (Text.hexValue? c).isNone with
  | some (c, i) => .invalidCharacter c (i + offset)
  | none =>
    let places := hyphens t
    if places = [] ∧ whole then .length s.length
    else if places.length ≠ 4 then .groupCount (places.length + 1)
    else (wrongGroup? places).getD (.groupLength 4 12 (s.length - 24))

/-- Reads an identifier. -/
def read (s : String) : Except Fault Uuid :=
  match ofChars? s.toList with
  | some u => .ok u
  | none => .error (faultOf s.toList)

/-- An identifier as JSON: its text. -/
def toJson (u : Uuid) : Json := .string u.text

/-- The identifier that a JSON value spells. -/
def ofJson? (j : Json) : Option Uuid :=
  j.toText?.bind fun s => ofChars? s.toList

/-- The order of the texts. -/
def le (a b : Uuid) : Bool := a.bits.toNat ≤ b.bits.toNat

end Uuid

/-- A set of identifiers, kept in the order of their texts without repetitions. -/
structure IdSet where
  members : List Uuid
  deriving DecidableEq, Repr

namespace IdSet

/-- Puts an identifier at its place, unless it is there. -/
def place (u : Uuid) : List Uuid → List Uuid
  | [] => [u]
  | v :: rest => if u = v then v :: rest else if u.le v then u :: v :: rest else v :: place u rest

/-- The set of the identifiers in a list. -/
def ofList (ids : List Uuid) : IdSet := ⟨ids.foldr place []⟩

/-- Whether an identifier is in the set. -/
def contains (s : IdSet) (u : Uuid) : Bool := decide (u ∈ s.members)

end IdSet

end Courier
