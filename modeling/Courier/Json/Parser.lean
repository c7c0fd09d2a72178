import Courier.Json
import Courier.Text.Hex

/-!
# Json — Parser

Reading JSON text.  A text is one value with blanks around it; arrays and objects may stand 127
deep; a number beyond the range of a double, a control character in a string and half a surrogate
pair are refused.
-/

namespace Courier.Json

/-- What is left of a text after its blanks: space, tab, line feed and carriage return. -/
def skipBlanks : List Char → List Char
  | c :: rest =>
    if c = ' ' ∨ c = '\t' ∨ c = '\n' ∨ c = '\r' then skipBlanks rest else c :: rest
  | [] => []

/-- The four hexadecimal digits of an escape. -/
def hexUnit? : List Char → Option (Nat × List Char)
  | a :: b :: c :: d :: rest => (Text.hexNumber? [a, b, c, d]).map (·, rest)
  | _ => none

/-- The character of the escape `\u`, whose second half follows when the first is half a pair. -/
def unicodeEscape? (s : List Char) : Option (Char × List Char) :=
  match hexUnit? s with
  | none => none
  | some (n, rest) =>
    if 0xDC00 ≤ n ∧ n ≤ 0xDFFF then none
    else if 0xD800 ≤ n ∧ n ≤ 0xDBFF then
      match rest with
      | '\\' :: 'u' :: rest =>
        match hexUnit? rest with
        | some (m, rest) =>
          if 0xDC00 ≤ m ∧ m ≤ 0xDFFF then
            some (Char.ofNat (0x10000 + (n - 0xD800) * 0x400 + (m - 0xDC00)), rest)
          else none
        | none => none
      | _ => none
    else some (Char.ofNat n, rest)

/-- The character of an escape after the backslash, other than `\u`. -/
def shortEscape? (c : Char) : Option Char :=
  if c = quoteMark then some quoteMark
  else if c = '\\' ∨ c = '/' then some c
  else if c = 'b' then some '\x08'
  else if c = 'f' then some '\x0C'
  else if c = 'n' then some '\n'
  else if c = 'r' then some '\r'
  else if c = 't' then some '\t'
  else none

/-- The characters of a string up to its closing quote, last first.  Each round takes a character at
least, so the length of the text is fuel enough. -/
def stringBody? : Nat → List Char → List Char → Option (List Char × List Char)
  | 0, _, _ => none
  | _ + 1, _, [] => none
  | fuel + 1, read, c :: rest =>
    if c = quoteMark then some (read, rest)
    else if c.toNat < 0x20 then none
    else if c = '\\' then
      match rest with
      | 'u' :: rest =>
        match unicodeEscape? rest with
        | some (d, rest) => stringBody? fuel (d :: read) rest
        | none => none
      | d :: rest =>
        match shortEscape? d with
        | some e => stringBody? fuel (e :: read) rest
        | none => none
      | [] => none
    else stringBody? fuel (c :: read) rest

/-- A string after its opening quote. -/
def string? (s : List Char) : Option (String × List Char) :=
  (stringBody? (s.length + 1) [] s).map fun (cs, rest) => (String.ofList cs.reverse, rest)

/-- The whole part of a number: a zero, or digits that start with another one. -/
def wholePart? : List Char → Option (Nat × List Char)
  | '0' :: rest =>
    match rest with
    | c :: _ => if (Text.digitValue? c).isSome then none else some (0, rest)
    | [] => some (0, [])
  | s =>
    match Decimal.spanDigits 0 0 s with
    | (n, count, rest) => if count = 0 then none else some (n, rest)

/-- The fraction of a number whose digits so far are `n`: the digits with it and how many it has. -/
def fraction? (n : Nat) : List Char → Option (Option Nat × Nat × List Char)
  | '.' :: rest =>
    match Decimal.spanDigits n 0 rest with
    | (m, count, rest) => if count = 0 then none else some (some count, m, rest)
  | s => some (none, n, s)

/-- The exponent of a number. -/
def exponentPart? : List Char → Option (Option Int × List Char)
  | c :: rest =>
    if c = 'e' ∨ c = 'E' then
      let (negative, rest) :=
        match rest with
        | '+' :: rest => (false, rest)
        | '-' :: rest => (true, rest)
        | rest => (false, rest)
      match Decimal.spanDigits 0 0 rest with
      | (n, count, rest) =>
        if count = 0 then none else some (some (if negative then -(n : Int) else n), rest)
    else some (none, c :: rest)
  | [] => some (none, [])

/-- A number after its sign.  A negative zero is no integer. -/
def number? (negative : Bool) (s : List Char) : Option (Json × List Char) :=
  match wholePart? s with
  | none => none
  | some (whole, rest) =>
    match fraction? whole rest with
    | none => none
    | some (places, digits, rest) =>
      match exponentPart? rest with
      | none => none
      | some (exponent, rest) =>
        let d : Decimal := ⟨negative, digits, exponent.getD 0 - places.getD 0⟩
        if ¬d.toDouble.isFinite then none
        else if places.isNone ∧ exponent.isNone ∧ ¬(negative ∧ digits = 0) then
          some (integer (if negative then -(digits : Int) else digits), rest)
        else some (decimal d, rest)

/-- The text after a word that has to stand at its front. -/
def afterWord? : List Char → List Char → Option (List Char)
  | [], s => some s
  | c :: word, d :: rest => if c = d then afterWord? word rest else none
  | _ :: _, [] => none

mutual

/-- The value at the front of a text.  Each call takes a character of the text, so its length is
fuel enough; `depth` counts the arrays and objects that may still be opened. -/
def value? : Nat → Nat → List Char → Option (Json × List Char)
  | 0, _, _ => none
  | fuel + 1, depth, s =>
    match skipBlanks s with
    | [] => none
    | 'n' :: rest => (afterWord? "ull".toList rest).map (null, ·)
    | 't' :: rest => (afterWord? "rue".toList rest).map (bool true, ·)
    | 'f' :: rest => (afterWord? "alse".toList rest).map (bool false, ·)
    | '-' :: rest => number? true rest
    | '[' :: rest =>
      if depth ≤ 1 then none
      else
        match skipBlanks rest with
        | ']' :: rest => some (array [], rest)
        | rest => items? fuel (depth - 1) [] rest
    | '\x7b' :: rest =>
      if depth ≤ 1 then none
      else
        match skipBlanks rest with
        | '\x7d' :: rest => some (object [], rest)
        | rest => members? fuel (depth - 1) [] rest
    | '\x22' :: rest => (string? rest).map fun (t, rest) => (string t, rest)
    | rest => number? false rest

/-- The elements of an array up to its bracket, those read before last first. -/
def items? : Nat → Nat → List Json → List Char → Option (Json × List Char)
  | 0, _, _, _ => none
  | fuel + 1, depth, read, s =>
    match value? fuel depth s with
    | none => none
    | some (item, rest) =>
      match skipBlanks rest with
      | ',' :: rest => items? fuel depth (item :: read) rest
      | ']' :: rest => some (array (item :: read).reverse, rest)
      | _ => none

/-- The members of an object up to its brace, those read before last first. -/
def members? : Nat → Nat → List (String × Json) → List Char → Option (Json × List Char)
  | 0, _, _, _ => none
  | fuel + 1, depth, read, s =>
    match skipBlanks s with
    | '\x22' :: rest =>
      match string? rest with
      | none => none
      | some (name, rest) =>
        match skipBlanks rest with
        | ':' :: rest =>
          match value? fuel depth rest with
          | none => none
          | some (item, rest) =>
            match skipBlanks rest with
            | ',' :: rest => members? fuel depth ((name, item) :: read) rest
            | '\x7d' :: rest => some (object ((name, item) :: read).reverse, rest)
            | _ => none
        | _ => none
    | _ => none

end

/-- Reads the value at the front of a text, given fuel and how many arrays and objects may still be
opened. -/
abbrev Reader := Nat → Nat → List Char → Option (Json × List Char)

/-- What a reader makes of a text that is one value with blanks around it. -/
def whole? (reader : Reader) (s : String) : Option Json :=
  let text := s.toList
  match reader (2 * text.length + 2) 128 text with
  | some (v, rest) => if (skipBlanks rest).isEmpty then some v else none
  | none => none

/-- The value that a text spells. -/
def parse? (s : String) : Option Json := whole? value? s

end Courier.Json
