/-!
# Text — Integer

Whole numbers in decimal.  A number may carry a `+`, a signed one also a `-`, and at least one digit
follows; the first fault from the left is the one reported.
-/

namespace Courier.Text

/-- Why a text is no whole number of the wanted range. -/
inductive IntegerFault where
  | empty
  | invalidDigit
  | tooLarge
  | tooSmall
  deriving DecidableEq, Repr

namespace IntegerFault

/-- The wording of a fault. -/
def message : IntegerFault → String
  | empty => "cannot parse integer from empty string"
  | invalidDigit => "invalid digit found in string"
  | tooLarge => "number too large to fit in target type"
  | tooSmall => "number too small to fit in target type"

end IntegerFault

/-- The value of a decimal digit. -/
def digitValue? (c : Char) : Option Nat :=
  if '0' ≤ c ∧ c ≤ '9' then some (c.toNat - 48) else none

/-- Continues `n` with the digits of a text as long as the number is at most `most`. -/
def digitsUpTo (most : Nat) (beyond : IntegerFault) : Nat → List Char → Except IntegerFault Nat
  | n, [] => .ok n
  | n, c :: rest =>
    match digitValue? c with
    | none => .error .invalidDigit
    | some d =>
      if n * 10 + d ≤ most then digitsUpTo most beyond (n * 10 + d) rest else .error beyond

/-- The number written in `s`, at most `most`. -/
def readNat (most : Nat) : List Char → Except IntegerFault Nat
  | [] => .error .empty
  | ['+'] => .error .invalidDigit
  | '+' :: rest => digitsUpTo most .tooLarge 0 rest
  | s => digitsUpTo most .tooLarge 0 s

/-- The number written in `s`, between `least` and `most`, with zero between them. -/
def readInt (least most : Int) : List Char → Except IntegerFault Int
  | [] => .error .empty
  | ['+'] => .error .invalidDigit
  | ['-'] => .error .invalidDigit
  | '+' :: rest => (digitsUpTo most.toNat .tooLarge 0 rest).map Int.ofNat
  | '-' :: rest => (digitsUpTo (-least).toNat .tooSmall 0 rest).map fun n => -(n : Int)
  | s => (digitsUpTo most.toNat .tooLarge 0 s).map Int.ofNat

/-- The decimal digits of `n`, without leading zeros. -/
def natDigits (n : Nat) : List Char :=
  if n < 10 then [Char.ofNat (48 + n)] else natDigits (n / 10) ++ [Char.ofNat (48 + n % 10)]
termination_by n
decreasing_by omega

/-- `n` in decimal. -/
def natText (n : Nat) : String :=
  String.ofList (natDigits n)

/-- `n` in decimal, with a `-` in front of a negative number. -/
def intText (n : Int) : String :=
  if n < 0 then String.ofList ('-' :: natDigits n.natAbs) else natText n.natAbs

/-- The last `width` decimal digits of `n`. -/
def fixedDigits : Nat → Nat → List Char
  | 0, _ => []
  | width + 1, n => fixedDigits width (n / 10) ++ [Char.ofNat (48 + n % 10)]

end Courier.Text
