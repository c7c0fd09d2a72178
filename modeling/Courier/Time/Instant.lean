import Courier.Time.Calendar

/-!
# Time — Instant

Points in time to the nanosecond, in Coordinated Universal Time, from the start of the year -262143
to the end of 262142.  A leap second is a second 59 that lasts up to two seconds.

* `shift?`: the instant a span later or earlier, none where the years end.
* `since`: the span between two instants.
* `Span`: lengths of time that cannot be negative.
-/

namespace Courier

/-- The nanoseconds in a second. -/
def nanosPerSecond : Nat := 1000000000

/-- A length of time, in nanoseconds. -/
structure Span where
  nanos : Nat
  deriving DecidableEq, Repr

namespace Span

/-- A number of milliseconds. -/
def ofMillis (n : Nat) : Span := ⟨n * 1000000⟩

/-- A number of seconds. -/
def ofSeconds (n : Nat) : Span := ⟨n * nanosPerSecond⟩

/-- The whole milliseconds of a span. -/
def millis (s : Span) : Nat := s.nanos / 1000000

/-- The longer of two spans. -/
def max (a b : Span) : Span := if a.nanos < b.nanos then b else a

end Span

namespace Time

/-- The first second of the year -262143. -/
def minSecond : Int := Date.toDays ⟨-262143, 1, 1⟩ * 86400

/-- The last second of the year 262142. -/
def maxSecond : Int := Date.toDays ⟨262142, 12, 31⟩ * 86400 + 86399

/-- Whether a second since 1970 and its nanoseconds make an instant. -/
def Valid (second : Int) (nano : Nat) : Prop :=
  (minSecond ≤ second ∧ second ≤ maxSecond) ∧
    (nano < nanosPerSecond ∨ (nano < 2 * nanosPerSecond ∧ second % 60 = 59))

instance (second : Int) (nano : Nat) : Decidable (Valid second nano) :=
  inferInstanceAs (Decidable (_ ∧ _))

end Time

/-- A point in time: seconds since 1970-01-01 and nanoseconds within the second. -/
structure Instant where
  second : Int
  nano : Nat
  valid : Time.Valid second nano
  deriving DecidableEq

namespace Instant

/-- The start of 1970. -/
def epoch : Instant := ⟨0, 0, by decide⟩

instance : Inhabited Instant := ⟨epoch⟩

/-- The instant of a second and its nanoseconds, if there is one. -/
def of? (second : Int) (nano : Nat) : Option Instant :=
  if h : Time.Valid second nano then some ⟨second, nano, h⟩ else none

/-- Whether `a` is not after `b`. -/
def le (a b : Instant) : Bool :=
  a.second < b.second || (a.second == b.second && a.nano ≤ b.nano)

/-- Whether `a` is before `b`. -/
def lt (a b : Instant) : Bool :=
  a.second < b.second || (a.second == b.second && a.nano < b.nano)

/-- The second of the day. -/
def secondOfDay (t : Instant) : Int := t.second % 86400

/-- The day that the instant falls on. -/
def date (t : Instant) : Time.Date := Time.Date.ofDays (t.second / 86400)

/-- The seconds and nanoseconds of `nanos` after a second and `nano` that are no leap second. -/
def advance (second : Int) (nano nanos : Int) : Int × Nat :=
  (second + (nano + nanos) / nanosPerSecond, ((nano + nanos) % nanosPerSecond).toNat)

/-- The instant `nanos` nanoseconds later, earlier when negative.  A shift that stays within a leap
second moves along it; one that leaves it forwards starts from the second 59, one that leaves it
backwards by a second or more from the second after. -/
def shift? (t : Instant) (nanos : Int) : Option Instant :=
  if t.nano < nanosPerSecond then
    let (s, n) := advance t.second t.nano nanos
    of? s n
  else
    let part := nanos.tmod nanosPerSecond
    let whole := nanos.tdiv nanosPerSecond
    let leap : Int := t.nano - nanosPerSecond
    if 0 < whole ∨ (0 < part ∧ (2 * nanosPerSecond : Int) ≤ t.nano + part) then
      let (s, n) := advance t.second leap nanos
      of? s n
    else if whole < 0 then
      let (s, n) := advance (t.second + 1) leap nanos
      of? s n
    else of? t.second (t.nano + part).toNat

/-- The instant `millis` milliseconds later, earlier when negative. -/
def shiftMillis? (t : Instant) (millis : Int) : Option Instant :=
  t.shift? (millis * 1000000)

/-- The nanoseconds from `start` to `t`.  A leap second counts only when it lies at the earlier of
the two times of day. -/
def since (t start : Instant) : Int :=
  let leap : Int :=
    if start.secondOfDay < t.secondOfDay ∧ nanosPerSecond ≤ start.nano then 1
    else if t.secondOfDay < start.secondOfDay ∧ nanosPerSecond ≤ t.nano then -1
    else 0
  (t.second - start.second + leap) * nanosPerSecond + (t.nano - start.nano)

/-- The whole seconds from `start` to `t`, towards zero. -/
def secondsSince (t start : Instant) : Int :=
  (t.since start).tdiv nanosPerSecond

end Instant

end Courier
