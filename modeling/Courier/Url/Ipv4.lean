import Courier.Text.Hex
import Courier.Text.Integer

/-!
# Url — Ipv4

Hosts that are numbers: one to four parts with points between them, each decimal, octal after `0` or
hexadecimal after `0x`.  The last part fills what the others leave.
-/

namespace Courier.Url.Ipv4

/-- The pieces of a text between its points. -/
def parts : List Char → List (List Char)
  | [] => [[]]
  | '.' :: rest => [] :: parts rest
  | c :: rest =>
    match parts rest with
    | piece :: pieces => (c :: piece) :: pieces
    | [] => [[c]]

/-- The pieces without an empty one at the end. -/
def hostParts (s : List Char) : List (List Char) :=
  match (parts s).reverse with
  | [] :: p :: rest => (p :: rest).reverse
  | _ => parts s

/-- The number of digits in a base. -/
def inBase? (base : Nat) (digits : List Char) : Option Nat :=
  digits.foldlM
    (fun n c => (Text.hexValue? c).bind fun d => if d < base then some (n * base + d) else none) 0

/-- The number of a part. -/
def number? : List Char → Option Nat
  | [] => none
  | '0' :: 'x' :: rest => inBase? 16 rest
  | '0' :: 'X' :: rest => inBase? 16 rest
  | '0' :: rest => inBase? 8 rest
  | s => inBase? 10 s

/-- Whether the last part of a host makes it a number. -/
def endsInNumber (s : List Char) : Bool :=
  match (hostParts s).getLast? with
  | some last =>
    (!last.isEmpty && last.all fun c => (Text.digitValue? c).isSome) || (number? last).isSome
  | none => false

/-- The address of the numbers of a host. -/
def ofNumbers? : List Nat → Option Nat
  | [a] => if a < 0x100000000 then some a else none
  | [a, b] => if a < 256 ∧ b < 0x1000000 then some (a * 0x1000000 + b) else none
  | [a, b, c] =>
    if a < 256 ∧ b < 256 ∧ c < 0x10000 then some (a * 0x1000000 + b * 0x10000 + c) else none
  | [a, b, c, d] =>
    if a < 256 ∧ b < 256 ∧ c < 256 ∧ d < 256 then
      some (a * 0x1000000 + b * 0x10000 + c * 0x100 + d)
    else none
  | _ => none

/-- The address of a host. -/
def parse? (s : List Char) : Option Nat :=
  ((hostParts s).mapM number?).bind ofNumbers?

/-- `127.0.0.1`. -/
def text (address : Nat) : List Char :=
  Text.natDigits (address / 0x1000000 % 256) ++ '.' :: Text.natDigits (address / 0x10000 % 256) ++
    '.' :: Text.natDigits (address / 0x100 % 256) ++ '.' :: Text.natDigits (address % 256)

end Courier.Url.Ipv4
