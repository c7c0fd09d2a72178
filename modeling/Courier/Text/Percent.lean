import Courier.Text.Hex
import Courier.Text.Utf8

/-!
# Text — Percent

Percent encoding: a byte as `%` and two hexadecimal digits.  A `%` without two digits after it
stands for itself.
-/

namespace Courier.Text.Percent
open Utf8 (Byte)

/-- `%` and the two upper-case digits of a byte. -/
def escape (b : Byte) : List Char :=
  ['%', hexDigitUpper (b / 16), hexDigitUpper (b % 16)]

/-- Writes the bytes of the characters that `isReserved` picks out as escapes, and every other
character as it is. -/
def encode (isReserved : Char → Bool) (s : List Char) : List Char :=
  s.flatMap fun c => if isReserved c then (Utf8.encodeChar c).flatMap escape else [c]

/-- The bytes of a text in which every escape is resolved. -/
def decode : List Char → List Byte
  | [] => []
  | '%' :: a :: b :: rest =>
    match hexValue? a, hexValue? b with
    | some x, some y => (16 * x + y) :: decode rest
    | _, _ => Utf8.encodeChar '%' ++ decode (a :: b :: rest)
  | c :: rest => Utf8.encodeChar c ++ decode rest

end Courier.Text.Percent
