import Courier.Json
import Courier.Text.Hex

/-!
# Json — Printer

JSON text without spaces.  In a string the quote, the backslash and the control characters below a
space are escaped, the usual five of them by a letter.
-/

namespace Courier.Json

/-- A character inside a quoted string. -/
def escapeChar (c : Char) : List Char :=
  if c = quoteMark then ['\\', quoteMark]
  else if c = '\\' then ['\\', '\\']
  else if c = '\n' then ['\\', 'n']
  else if c = '\r' then ['\\', 'r']
  else if c = '\t' then ['\\', 't']
  else if c = '\x08' then ['\\', 'b']
  else if c = '\x0C' then ['\\', 'f']
  else if c.toNat < 0x20 then ['\\', 'u'] ++ Text.hexDigits 4 c.toNat
  else [c]

/-- A string in quotes. -/
def quoted (s : String) : String :=
  String.ofList (quoteMark :: (s.toList.flatMap escapeChar ++ [quoteMark]))

/-- A number with an exponent: its digits as they stand. -/
def decimalText (d : Decimal) : String :=
  (if d.negative then "-" else "") ++ Text.natText d.digits ++ "e" ++ Text.intText d.exponent

mutual

/-- The text of a value. -/
def render : Json → String
  | null => "null"
  | bool true => "true"
  | bool false => "false"
  | integer n => Text.intText n
  | decimal d => decimalText d
  | string s => quoted s
  | array items => "[" ++ renderItems items ++ "]"
  | object members => "\x7b" ++ renderMembers members ++ "\x7d"

/-- The elements of an array, with commas between them. -/
def renderItems : List Json → String
  | [] => ""
  | [item] => render item
  | item :: items => render item ++ "," ++ renderItems items

/-- The members of an object, with commas between them. -/
def renderMembers : List (String × Json) → String
  | [] => ""
  | [(name, value)] => quoted name ++ ":" ++ render value
  | (name, value) :: members => quoted name ++ ":" ++ render value ++ "," ++ renderMembers members

end

end Courier.Json
