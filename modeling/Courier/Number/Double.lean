/-!
# Number — Double

Binary floating point of 64 bits over exact integers.  A finite value is a sign and a whole number
of units of 2^-1074, the distance of the smallest two; such a number is a value when it has at most
53 significant bits and lies below 2^2098 units.  Every operation takes the exact result and rounds
it once, to the nearest value and on a tie to the one with the even last bit.

* `nearest`: the rounding itself, of a quotient of two natural numbers.
* `mul`, `add`, `divNat`, `power`: arithmetic.
* `bits`: the word that stores the value.
-/

namespace Courier

/-- A 64-bit floating-point value. -/
inductive Double where
  | nan
  | infinite (negative : Bool)
  | finite (negative : Bool) (units : Nat)
  deriving DecidableEq, Repr

namespace Double

/-- The units in one. -/
def one : Nat := Nat.pow 2 1074

/-- The number of units from which on a value is infinite. -/
def limit : Nat := Nat.pow 2 2098

/-- `n / d` rounded to a whole number, a half to the even neighbour. -/
def roundHalfEven (n d : Nat) : Nat :=
  let q := n / d
  let r := n % d
  if 2 * r < d ∨ (2 * r = d ∧ q % 2 = 0) then q else q + 1

/-- The distance between neighbouring values at `n` units. -/
def spacing (n : Nat) : Nat :=
  Nat.pow 2 (n.log2 - 52)

/-- The units nearest to `n / d` that have at most 53 significant bits. -/
def nearest (n d : Nat) : Nat :=
  roundHalfEven n (d * spacing (n / d)) * spacing (n / d)

/-- The value nearest to `n / d` units. -/
def ofQuotient (negative : Bool) (n d : Nat) : Double :=
  if nearest n d < limit then finite negative (nearest n d) else infinite negative

/-- The value nearest to a natural number. -/
def ofNat (n : Nat) : Double :=
  ofQuotient false (n * one) 1

/-- The value nearest to an integer. -/
def ofInt (n : Int) : Double :=
  ofQuotient (decide (n < 0)) (n.natAbs * one) 1

/-- Zero, without a sign. -/
def zero : Double := finite false 0

/-- Whether a value is a number and not infinite. -/
def isFinite : Double → Bool
  | finite _ _ => true
  | _ => false

/-- A finite value in units, with its sign. -/
def signed (negative : Bool) (units : Nat) : Int :=
  if negative then -(units : Int) else units

/-- Whether `a` is below `b`; never when one of them is not a number. -/
def lt : Double → Double → Bool
  | nan, _ => false
  | _, nan => false
  | infinite a, infinite b => a && !b
  | infinite a, finite _ _ => a
  | finite _ _, infinite b => !b
  | finite a u, finite b v => signed a u < signed b v

/-- Whether `a` is at most `b`; never when one of them is not a number. -/
def le : Double → Double → Bool
  | nan, _ => false
  | _, nan => false
  | a, b => !b.lt a

/-- The product.  Zero times infinity is not a number. -/
def mul : Double → Double → Double
  | nan, _ => nan
  | _, nan => nan
  | infinite a, infinite b => infinite (a != b)
  | infinite a, finite b v => if v = 0 then nan else infinite (a != b)
  | finite a u, infinite b => if u = 0 then nan else infinite (a != b)
  | finite a u, finite b v => ofQuotient (a != b) (u * v) one

/-- The sum.  Of two infinities with different signs there is none. -/
def add : Double → Double → Double
  | nan, _ => nan
  | _, nan => nan
  | infinite a, infinite b => if a = b then infinite a else nan
  | infinite a, finite _ _ => infinite a
  | finite _ _, infinite b => infinite b
  | finite a u, finite b v =>
    let sum := signed a u + signed b v
    if sum = 0 then finite (a && b) 0 else ofQuotient (decide (sum < 0)) sum.natAbs 1

/-- Division by a positive whole number. -/
def divNat : Double → Nat → Double
  | nan, _ => nan
  | infinite a, _ => infinite a
  | finite a u, d => ofQuotient a u d

/-- Multiplies `r` by `a` to the `n`, squaring `a` once for each binary digit of `n`. -/
def powerFrom (r a : Double) (n : Nat) : Double :=
  let r := if n % 2 = 1 then r.mul a else r
  if n / 2 = 0 then r else powerFrom r (a.mul a) (n / 2)
termination_by n
decreasing_by omega

/-- `a` to the `n` by repeated squaring. -/
def power (a : Double) (n : Nat) : Double :=
  powerFrom (ofNat 1) a n

/-- The word of a finite magnitude: below 2^53 units the units themselves, from there on the
number of doublings in front of the 52 bits after the leading one. -/
def magnitudeBits (units : Nat) : Nat :=
  let shift := units.log2 - 52
  shift * Nat.pow 2 52 + units / Nat.pow 2 shift

/-- The 64-bit word of a value. -/
def bits : Double → Nat
  | nan => 0x7FF8000000000000
  | infinite a => (if a then 0x8000000000000000 else 0) + 0x7FF0000000000000
  | finite a u => (if a then 0x8000000000000000 else 0) + magnitudeBits u

end Double

end Courier
