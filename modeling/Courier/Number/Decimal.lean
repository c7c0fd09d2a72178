import Courier.Number.Double
import Courier.Text.Integer

/-!
# Number — Decimal

Decimal numbers `±digits·10^exponent`: how they are read from text and which double is nearest.
-/

namespace Courier

/-- `digits·10^exponent`, negated when `negative`. -/
structure Decimal where
  negative : Bool
  digits : Nat
  exponent : Int
  deriving DecidableEq, Repr

namespace Decimal

/-- The value nearest to a decimal.  From 10^330 on it is infinite and below 10^-360 it is zero, so
the power of ten is written out only between them. -/
def toDouble (d : Decimal) : Double :=
  let length : Int := (Text.natDigits d.digits).length
  if d.digits = 0 then .finite d.negative 0
  else if length + d.exponent > 330 then .infinite d.negative
  else if length + d.exponent < -360 then .finite d.negative 0
  else if 0 ≤ d.exponent then
    .ofQuotient d.negative (d.digits * Nat.pow 10 d.exponent.toNat * Double.one) 1
  else .ofQuotient d.negative (d.digits * Double.one) (Nat.pow 10 (-d.exponent).toNat)

/-- The digits at the front of a text, as the number they continue and how many they are. -/
def spanDigits : Nat → Nat → List Char → Nat × Nat × List Char
  | n, count, [] => (n, count, [])
  | n, count, c :: rest =>
    match Text.digitValue? c with
    | some d => spanDigits (n * 10 + d) (count + 1) rest
    | none => (n, count, c :: rest)

/-- A signed exponent up to the end of the text. -/
def exponent? : List Char → Option Int
  | [] => none
  | '+' :: rest =>
    match spanDigits 0 0 rest with
    | (n, count, []) => if count = 0 then none else some n
    | _ => none
  | '-' :: rest =>
    match spanDigits 0 0 rest with
    | (n, count, []) => if count = 0 then none else some (-(n : Int))
    | _ => none
  | s =>
    match spanDigits 0 0 s with
    | (n, count, []) => if count = 0 then none else some n
    | _ => none

/-- Digits with a point and an exponent, either of which may be missing: there is a digit on one
side of the point at least. -/
def ofUnsigned? (negative : Bool) (s : List Char) : Option Decimal :=
  let (whole, wholeCount, rest) := spanDigits 0 0 s
  let (digits, count, places, rest) :=
    match rest with
    | '.' :: rest =>
      let (n, k, rest) := spanDigits whole 0 rest
      (n, wholeCount + k, k, rest)
    | rest => (whole, wholeCount, 0, rest)
  if count = 0 then none
  else
    match rest with
    | [] => some ⟨negative, digits, -(places : Int)⟩
    | c :: rest =>
      if c = 'e' ∨ c = 'E' then (exponent? rest).map fun e => ⟨negative, digits, e - places⟩
      else none

end Decimal

namespace Double

/-- The value of a text after its sign: digits, or the name of a value that is not finite, in either
case. -/
def ofUnsigned? (negative : Bool) (s : List Char) : Option Double :=
  let name := String.ofList (s.map Char.toLower)
  if name = "inf" ∨ name = "infinity" then some (infinite negative)
  else if name = "nan" then some nan
  else (Decimal.ofUnsigned? negative s).map Decimal.toDouble

/-- The value nearest to the number written in a text. -/
def read? : List Char → Option Double
  | '+' :: rest => ofUnsigned? false rest
  | '-' :: rest => ofUnsigned? true rest
  | s => ofUnsigned? false s

end Double

end Courier
