import Courier.Number.Double
import Courier.Outcome
import Courier.Queue.Stats
import Courier.Table

/-!
# Metrics

What the pipeline counts: the items that workers claimed, how their processing ended, how long the
senders took, and how many items stand in each status.  A series exists from the first time that it
is written or asked for.
-/

namespace Courier

/-- A measured distribution: for each bound the values that reach up to it and to none before, the
number of all values and their sum. -/
structure Histogram where
  buckets : List Nat
  count : Nat
  sum : Double
  deriving DecidableEq, Repr

namespace Histogram

/-- The upper bounds in thousandths of a second. -/
def boundMillis : List Nat := [50, 100, 250, 500, 1000, 2500, 5000, 10000, 30000]

/-- The upper bounds in seconds. -/
def bounds : List Double := boundMillis.map fun n => .ofQuotient false (n * Double.one) 1000

/-- No observations. -/
def empty : Histogram := ⟨bounds.map fun _ => 0, 0, .zero⟩

/-- Counts a value at the first bound that it does not exceed. -/
def countAt (value : Double) : List Double → List Nat → List Nat
  | bound :: bounds, n :: counts =>
    if value.le bound then (n + 1) :: counts else n :: countAt value bounds counts
  | _, counts => counts

/-- Counts an observation, in every bucket that it fits into. -/
def observe (h : Histogram) (value : Double) : Histogram :=
  ⟨countAt value bounds h.buckets, h.count + 1, h.sum.add value⟩

end Histogram

/-- The label of a channel that no longer exists. -/
def unknownChannelLabel : String := "unknown"

/-- Everything that is counted. -/
structure Metrics where
  /-- The items claimed by workers, modulo 2^64. -/
  fetched : UInt64
  /-- The processed items, by the kind of their channel and their outcome. -/
  outcomes : Table (String × Outcome) Nat
  /-- The seconds spent in senders, by kind of channel. -/
  durations : Table String Histogram
  /-- The items in each status. -/
  depths : Table QueueStatus Int64
  deriving DecidableEq

namespace Metrics

/-- Nothing measured yet. -/
def empty : Metrics := ⟨0, .empty, .empty, .empty⟩

/-- Counts items that were claimed. -/
def recordFetched (m : Metrics) (count : Nat) : Metrics :=
  { m with fetched := m.fetched + UInt64.ofNat count }

/-- Counts an outcome under the label of a kind of channel. -/
def recordOutcome (m : Metrics) (label : String) (outcome : Outcome) : Metrics :=
  { m with outcomes := m.outcomes.change 0 (label, outcome) (· + 1) }

/-- Counts how long a sender took, under the label of its kind of channel. -/
def observe (m : Metrics) (label : String) (seconds : Double) : Metrics :=
  { m with durations := m.durations.change .empty label (·.observe seconds) }

/-- Sets how many items have a status. -/
def setDepth (m : Metrics) (status : QueueStatus) (depth : Int64) : Metrics :=
  { m with depths := m.depths.set status depth }

/-- Sets the number of items in every status. -/
def setDepths (m : Metrics) (stats : QueueStats) : Metrics :=
  QueueStatus.all.foldl (fun m status => m.setDepth status (stats.get status)) m

/-- Brings the series of an outcome into being. -/
def touchOutcome (m : Metrics) (label : String) (outcome : Outcome) : Metrics :=
  { m with outcomes := m.outcomes.change 0 (label, outcome) id }

/-- Brings the series of a status into being. -/
def touchDepth (m : Metrics) (status : QueueStatus) : Metrics :=
  { m with depths := m.depths.change 0 status id }

/-- How often an outcome was counted under a label. -/
def outcomeCount (m : Metrics) (label : String) (outcome : Outcome) : Nat :=
  (m.outcomes.get? (label, outcome)).getD 0

/-- How many items had a status when they were last counted. -/
def depth (m : Metrics) (status : QueueStatus) : Int64 :=
  (m.depths.get? status).getD 0

/-- The sum over all outcomes. -/
def totalOutcomes (m : Metrics) : Nat := m.outcomes.entries.foldr (fun entry sum => entry.2 + sum) 0

end Metrics

end Courier
