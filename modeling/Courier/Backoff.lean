import Courier.Time.Seconds

/-!
# Backoff

The wait before an attempt is made again: an initial delay that grows by a factor with each failed
attempt, up to a longest delay.  The product is taken in double precision and rounded to the nearest
nanosecond.
-/

namespace Courier

/-- How delays grow. -/
structure Backoff where
  initial : Span
  multiplier : Double
  max : Span
  deriving DecidableEq, Repr

namespace Backoff

/-- One second, doubled each time, up to five minutes. -/
def standard : Backoff := ⟨.ofSeconds 1, .ofNat 2, .ofSeconds 300⟩

/-- The factor applies no more often than this. -/
def exponentLimit : Nat := 2147483647

/-- How often the factor applies before attempt `attempt`, counted from one. -/
def exponent (attempt : UInt32) : Nat := min (attempt.toNat - 1) exponentLimit

/-- The product before it is limited. -/
def product (b : Backoff) (attempt : UInt32) : Double :=
  b.initial.seconds.mul (b.multiplier.power (exponent attempt))

/-- The delay before attempt `attempt`; none when the product is negative. -/
def delay? (b : Backoff) (attempt : UInt32) : Option Span :=
  let p := b.product attempt
  if p.isFinite ∧ ¬b.max.seconds.le p then
    match p with
    | .finite negative units => if negative ∧ units ≠ 0 then none else some (.ofUnits units)
    | _ => some b.max
  else some b.max

end Backoff

end Courier
