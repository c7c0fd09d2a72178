import Courier.Number.Double
import Courier.Time.Instant

/-!
# Time — Seconds

Spans as numbers of seconds in double precision, and back to the nearest nanosecond.
-/

namespace Courier.Span

/-- A span in seconds. -/
def seconds (s : Span) : Double :=
  (Double.ofNat (s.nanos / nanosPerSecond)).add
    ((Double.ofNat (s.nanos % nanosPerSecond)).divNat nanosPerSecond)

/-- The span of a number of units, to the nearest nanosecond. -/
def ofUnits (units : Nat) : Span :=
  ⟨Double.roundHalfEven (units * nanosPerSecond) Double.one⟩

end Courier.Span
