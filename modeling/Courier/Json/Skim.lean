import Courier.Json.Parser

/-!
# Json — Skim

Reading a record for some of its fields.  The other members are passed over: they have to be JSON,
but may stand as deep as they like, and neither the range of their numbers nor half a surrogate pair
in their strings is looked at.

* `skipValue?`: what is left of a text after a value.
* `skim?`: a record of which only the fields asked for are read, each in its own way.
-/

namespace Courier.Json

/-- What is left of a text after the characters of a string and its closing quote. -/
def skipString? : List Char → Option (List Char)
  | '\x22' :: rest => some rest
  | '\\' :: 'u' :: a :: b :: c :: d :: rest =>
    if (Text.hexNumber? [a, b, c, d]).isSome then skipString? rest else none
  | '\\' :: c :: rest => if (shortEscape? c).isSome then skipString? rest else none
  | c :: rest => if c.toNat < 0x20 ∨ c = '\\' then none else skipString? rest
  | [] => none

/-- What is left of a text after a number that has its sign behind it. -/
def skipNumber? (s : List Char) : Option (List Char) :=
  match wholePart? s with
  | none => none
  | some (whole, rest) =>
    match fraction? whole rest with
    | none => none
    | some (_, _, rest) => (exponentPart? rest).map (·.2)

mutual

/-- What is left of a text after the value at its front.  Each call takes a character of the text,
so its length is fuel enough. -/
def skipValue? : Nat → List Char → Option (List Char)
  | 0, _ => none
  | fuel + 1, s =>
    match skipBlanks s with
    | [] => none
    | 'n' :: rest => afterWord? "ull".toList rest
    | 't' :: rest => afterWord? "rue".toList rest
    | 'f' :: rest => afterWord? "alse".toList rest
    | '-' :: rest => skipNumber? rest
    | '[' :: rest =>
      match skipBlanks rest with
      | ']' :: rest => some rest
      | rest => skipItems? fuel rest
    | '\x7b' :: rest =>
      match skipBlanks rest with
      | '\x7d' :: rest => some rest
      | rest => skipMembers? fuel rest
    | '\x22' :: rest => skipString? rest
    | rest => skipNumber? rest

/-- What is left of a text after the elements of an array and its bracket. -/
def skipItems? : Nat → List Char → Option (List Char)
  | 0, _ => none
  | fuel + 1, s =>
    match skipValue? fuel s with
    | none => none
    | some rest =>
      match skipBlanks rest with
      | ',' :: rest => skipItems? fuel rest
      | ']' :: rest => some rest
      | _ => none

/-- What is left of a text after the members of an object and its brace. -/
def skipMembers? : Nat → List Char → Option (List Char)
  | 0, _ => none
  | fuel + 1, s =>
    match skipBlanks s with
    | '\x22' :: rest =>
      match skipString? rest with
      | none => none
      | some rest =>
        match skipBlanks rest with
        | ':' :: rest =>
          match skipValue? fuel rest with
          | none => none
          | some rest =>
            match skipBlanks rest with
            | ',' :: rest => skipMembers? fuel rest
            | '\x7d' :: rest => some rest
            | _ => none
        | _ => none
    | _ => none

end

/-- Reads the value of a member, or passes it over if the member is not asked for. -/
def skimMember? (fields : List (String × Reader)) (fuel depth : Nat) (name : String)
    (read : List (String × Json)) (s : List Char) : Option (List (String × Json) × List Char) :=
  match fields.lookup name with
  | some reader => (reader fuel depth s).map fun (item, rest) => ((name, item) :: read, rest)
  | none => (skipValue? fuel s).map fun rest => (read, rest)

/-- The members of an object up to its brace, as far as they are asked for, those read before last
first. -/
def skimMembers? (fields : List (String × Reader)) :
    Nat → Nat → List (String × Json) → List Char → Option (Json × List Char)
  | 0, _, _, _ => none
  | fuel + 1, depth, read, s =>
    match skipBlanks s with
    | '\x22' :: rest =>
      match string? rest with
      | none => none
      | some (name, rest) =>
        match skipBlanks rest with
        | ':' :: rest =>
          match skimMember? fields fuel depth name read rest with
          | none => none
          | some (read, rest) =>
            match skipBlanks rest with
            | ',' :: rest => skimMembers? fields fuel depth read rest
            | '\x7d' :: rest => some (object read.reverse, rest)
            | _ => none
        | _ => none
    | _ => none

/-- The fields of a record that is written as a list, in their order; elements beyond them are read
in full. -/
def skimItems? : List (String × Reader) →
    Nat → Nat → List Json → List Char → Option (Json × List Char)
  | _, 0, _, _, _ => none
  | [], fuel + 1, depth, read, s => items? (fuel + 1) depth read s
  | (_, reader) :: fields, fuel + 1, depth, read, s =>
    match reader fuel depth s with
    | none => none
    | some (item, rest) =>
      match skipBlanks rest with
      | ',' :: rest => skimItems? fields fuel depth (item :: read) rest
      | ']' :: rest => some (array (item :: read).reverse, rest)
      | _ => none

/-- Reads a record for some of its fields; what is no record is read in full. -/
def skim? (fields : List (String × Reader)) : Reader
  | 0, _, _ => none
  | fuel + 1, depth, s =>
    match skipBlanks s with
    | '[' :: rest =>
      if depth ≤ 1 then none
      else
        match skipBlanks rest with
        | ']' :: rest => some (array [], rest)
        | rest => skimItems? fields fuel (depth - 1) [] rest
    | '\x7b' :: rest =>
      if depth ≤ 1 then none
      else
        match skipBlanks rest with
        | '\x7d' :: rest => some (object [], rest)
        | rest => skimMembers? fields fuel (depth - 1) [] rest
    | _ => value? (fuel + 1) depth s

end Courier.Json
