import Courier.Number.Double
import Courier.Text.Integer

/-!
# Number — Shortest

The shortest decimal that reads back as a given value.  The numbers that round to a value form an
interval around it, with its ends when the last bit is even.  The two neighbours of the value are
tried on finer and finer grids, from the power of ten above the value on; the first grid with a hit
gives the digits, of two hits the nearer one, of two hits equally near the larger one.
-/

namespace Courier.Double

/-- The decimal `digits·10^exponent`. -/
structure Digits where
  digits : Nat
  exponent : Int
  deriving DecidableEq, Repr

/-- What rounds to a positive value, in quarters of a unit: the value, the ends of its interval and
whether they belong to it. -/
structure Rounding where
  value : Nat
  low : Nat
  high : Nat
  closed : Bool

/-- The interval of `units`: half the spacing to each side, below a power of two half the smaller
spacing there. -/
def rounding (units : Nat) : Rounding :=
  let gap := spacing units
  let below := if Nat.pow 2 53 ≤ units ∧ units = Nat.pow 2 units.log2 then gap else 2 * gap
  ⟨4 * units, 4 * units - below, 4 * units + 2 * gap, decide (units / gap % 2 = 0)⟩

/-- Whether `digits·10^exponent` rounds to the value; a quarter of a unit is 2^-1076. -/
def Rounding.holds (r : Rounding) (d : Digits) : Bool :=
  let scale := 4 * one
  let (lhs, factor) :=
    if 0 ≤ d.exponent then (d.digits * Nat.pow 10 d.exponent.toNat * scale, 1)
    else (d.digits * scale, Nat.pow 10 (-d.exponent).toNat)
  if r.closed then r.low * factor ≤ lhs && lhs ≤ r.high * factor
  else r.low * factor < lhs && lhs < r.high * factor

/-- The exponent of the leading decimal digit of `units`. -/
def leading (units : Nat) : Int :=
  if one ≤ units then ((Text.natDigits (units / one)).length : Int) - 1
  else
    -- The first power of ten that lifts the value to one or more.
    match (List.range 330).find? fun k => one ≤ units * Nat.pow 10 k with
    | some k => -(k : Int)
    | none => -330

/-- The two neighbours of the value on the grid of `10^exponent`, the nearer one first, the larger
one first when they are equally near. -/
def neighbours (units : Nat) (exponent : Int) : List Digits :=
  let (n, d) :=
    if 0 ≤ exponent then (units, one * Nat.pow 10 exponent.toNat)
    else (units * Nat.pow 10 (-exponent).toNat, one)
  let down : Digits := ⟨n / d, exponent⟩
  let up : Digits := ⟨n / d + 1, exponent⟩
  if 2 * (n % d) < d then [down, up] else [up, down]

/-- The fewest digits that round to `units`. -/
def shortest (units : Nat) : Digits :=
  let r := rounding units
  let top := leading units + 1
  let grids := (List.range 18).map fun (k : Nat) => top - (k : Int)
  match grids.findSome? fun e => (neighbours units e).find? r.holds with
  | some d => d
  | none => ⟨0, 0⟩

/-- Digits written out around a point, without an exponent: `0.001`, `12.5`, `1000`. -/
def Digits.positional (d : Digits) : List Char :=
  let text := Text.natDigits d.digits
  if 0 ≤ d.exponent then text ++ List.replicate d.exponent.toNat '0'
  else
    let places := (-d.exponent).toNat
    if places < text.length then
      text.take (text.length - places) ++ '.' :: text.drop (text.length - places)
    else '0' :: '.' :: List.replicate (places - text.length) '0' ++ text

/-- The shortest decimal of a value, written without an exponent. -/
def text : Double → String
  | nan => "NaN"
  | infinite false => "inf"
  | infinite true => "-inf"
  | finite negative units =>
    let digits := if units = 0 then ['0'] else (shortest units).positional
    String.ofList (if negative then '-' :: digits else digits)

end Courier.Double
