import Courier.Metrics
import Courier.Number.Shortest
import Courier.Order

/-!
# Metrics — Exposition

The metrics as text: for each family a line of help, a line for its type and a line for each series,
series ordered by the values of their labels.  A family without series is left out.
-/

namespace Courier.Exposition

/-- The value of a label, with the backslash, the quote and the line feed escaped. -/
def escapeChar (c : Char) : List Char :=
  if c = '\\' then ['\\', '\\']
  else if c = '\n' then ['\\', 'n']
  else if c = '\x22' then ['\\', '\x22']
  else [c]

/-- A label and its value: `status="pending"`. -/
def label (name value : String) : String :=
  name ++ "=\x22" ++ String.ofList (value.toList.flatMap escapeChar) ++ "\x22"

/-- A line with the value of one series. -/
def sample (name : String) (labels : List (String × String)) (value : Double) : String :=
  let inner := String.intercalate "," (labels.map fun (n, v) => label n v)
  name ++ (if labels.isEmpty then "" else "\x7b" ++ inner ++ "\x7d") ++ " " ++ value.text ++ "\n"

/-- A family with the lines of its series. -/
def family (name help type : String) (samples : List String) : String :=
  if samples.isEmpty then ""
  else "# HELP " ++ name ++ " " ++ help ++ "\n# TYPE " ++ name ++ " " ++ type ++ "\n" ++
    String.join samples

/-- The lines of a histogram: the values up to each bound, all values, their sum and their
number. -/
def histogramSamples (name : String) (labels : List (String × String)) (h : Histogram) :
    List String :=
  let step := fun (state : Nat × List String) (bucket : Double × Nat) =>
    let total := state.1 + bucket.2
    (total,
      sample (name ++ "_bucket") (labels ++ [("le", bucket.1.text)]) (.ofNat total) :: state.2)
  let buckets := ((Histogram.bounds.zip h.buckets).foldl step (0, [])).2.reverse
  buckets ++
    [sample (name ++ "_bucket") (labels ++ [("le", "+Inf")]) (.ofNat h.count),
      sample (name ++ "_sum") labels h.sum, sample (name ++ "_count") labels (.ofNat h.count)]

/-- How many items stand in each status. -/
def depths (m : Metrics) : String :=
  let name := "beacon_notification_queue_depth"
  family name "Number of notification queue items by status" "gauge"
    ((sortBy (fun a b => decide (a.1.name ≤ b.1.name)) m.depths.entries).map fun (status, n) =>
      sample name [("status", status.name)] (.ofInt n.toInt))

/-- How many items workers claimed. -/
def fetched (m : Metrics) : String :=
  let name := "beacon_notification_queue_items_fetched_total"
  family name "Queue items claimed by workers" "counter"
    [sample name [] (.ofNat m.fetched.toNat)]

/-- How long senders took. -/
def durations (m : Metrics) : String :=
  let name := "beacon_notification_send_duration_seconds"
  family name "Time spent in the channel sender per delivery attempt" "histogram"
    ((sortBy (fun a b => decide (a.1 ≤ b.1)) m.durations.entries).flatMap fun (channelType, h) =>
      histogramSamples name [("channel_type", channelType)] h)

/-- How the processing of items ended. -/
def outcomes (m : Metrics) : String :=
  let name := "beacon_notifications_total"
  let notAfter := fun (a b : (String × Outcome) × Nat) =>
    decide (a.1.1 < b.1.1 ∨ (a.1.1 = b.1.1 ∧ a.1.2.name ≤ b.1.2.name))
  family name "Processed notification queue items by channel type and outcome" "counter"
    ((sortBy notAfter m.outcomes.entries).map fun ((channelType, outcome), n) =>
      sample name [("channel_type", channelType), ("outcome", outcome.name)] (.ofNat n))

/-- The text of all metrics. -/
def text (m : Metrics) : String := depths m ++ fetched m ++ durations m ++ outcomes m

end Courier.Exposition
