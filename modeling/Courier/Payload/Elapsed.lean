import Courier.Text.Integer
import Courier.Time.Instant

/-!
# Payload — Elapsed

How long an event lasted, and how that is written: `1d 1h 1m`, or in seconds below a minute.
-/

namespace Courier

/-- The whole seconds from a start to an end, zero when there is no start before it. -/
def elapsedSeconds (start : Option Instant) (finish : Instant) : Int :=
  match start with
  | some start => Max.max (finish.secondsSince start) 0
  | none => 0

/-- The days, hours and minutes of a number of seconds that are not zero, with their units. -/
def durationParts (seconds : Nat) : List (Nat × Char) :=
  [(seconds / 86400, 'd'), (seconds % 86400 / 3600, 'h'), (seconds % 3600 / 60, 'm')].filter
    fun part => part.1 ≠ 0

/-- Parts with a space between them. -/
def partsText : List (Nat × Char) → List Char
  | [] => []
  | [(n, u)] => Text.natDigits n ++ [u]
  | (n, u) :: parts => Text.natDigits n ++ u :: ' ' :: partsText parts

/-- A duration for a reader; a negative one counts as zero. -/
def formatDuration (seconds : Int) : String :=
  let s := seconds.toNat
  let parts := durationParts s
  String.ofList (partsText (if parts.isEmpty then [(s % 60, 's')] else parts))

end Courier
