import Courier.Queue.Item

/-!
# Queue — Stats

How many items stand in each status.
-/

namespace Courier

/-- The number of items in each status. -/
structure QueueStats where
  pending : Int64
  processing : Int64
  sent : Int64
  failed : Int64
  deriving DecidableEq, Repr

namespace QueueStats

/-- An empty queue. -/
def zero : QueueStats := ⟨0, 0, 0, 0⟩

/-- How many items have a status. -/
def get (s : QueueStats) : QueueStatus → Int64
  | .pending => s.pending
  | .processing => s.processing
  | .sent => s.sent
  | .failed => s.failed

/-- The counts with that of a status replaced. -/
def set (s : QueueStats) (status : QueueStatus) (count : Int64) : QueueStats :=
  match status with
  | .pending => { s with pending := count }
  | .processing => { s with processing := count }
  | .sent => { s with sent := count }
  | .failed => { s with failed := count }

/-- The sum of two counts, none beyond their range. -/
def sum? (a b : Int64) : Option Int64 :=
  let n := a.toInt + b.toInt
  if Int64.minValue.toInt ≤ n ∧ n ≤ Int64.maxValue.toInt then some (Int64.ofInt n) else none

/-- Adds to one count; none beyond its range. -/
def add? (s : QueueStats) (status : QueueStatus) (count : Int64) : Option QueueStats :=
  (sum? (s.get status) count).map (s.set status)

/-- Counts the items in one status. -/
def countOf (items : List QueueItem) (status : QueueStatus) : Int64 :=
  Int64.ofInt (items.countP fun item => item.status = status)

/-- Counts the items of a queue. -/
def ofItems (items : List QueueItem) : QueueStats :=
  ⟨countOf items .pending, countOf items .processing, countOf items .sent, countOf items .failed⟩

/-- Counts as JSON. -/
def toJson (s : QueueStats) : Json :=
  .object
    [("pending", .integer s.pending.toInt), ("processing", .integer s.processing.toInt),
      ("sent", .integer s.sent.toInt), ("failed", .integer s.failed.toInt)]

/-- The counts that a JSON value stands for. -/
def ofJson? (j : Json) : Option QueueStats := do
  let r ← Json.Record.of? 4 j
  return {
    pending := ← r.required Json.toInt64? 0 "pending"
    processing := ← r.required Json.toInt64? 1 "processing"
    sent := ← r.required Json.toInt64? 2 "sent"
    failed := ← r.required Json.toInt64? 3 "failed" }

end QueueStats

end Courier
