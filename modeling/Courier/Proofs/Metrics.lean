import Courier.World

/-!
# Proofs — Metrics

What a request does to the two counts that have to agree: the items fetched, and the sum over all
outcomes.

* `Request.fetched`, `Request.outcomes`: how much a request counts.
* `fetched_handle`, `totalOutcomes_handle`: the counts go on by that, whatever the request is.
-/

namespace Courier

namespace Request

/-- How many items a request counts as fetched. -/
def fetched : Request → Nat
  | measure (.fetched count) => count
  | _ => 0

/-- How many outcomes a request counts. -/
def outcomes : Request → Nat
  | measure (.outcome _ _) => 1
  | _ => 0

end Request

/-- To count one more under a key adds one to the sum. -/
theorem Table.sum_put_succ {κ : Type} [DecidableEq κ] (key : κ) (entries : List (κ × Nat)) :
    (Table.put 0 key (· + 1) entries).foldr (fun entry sum => entry.2 + sum) 0 =
      entries.foldr (fun entry sum => entry.2 + sum) 0 + 1 := by
  induction entries with
  | nil => rfl
  | cons entry rest ih =>
      obtain ⟨k, count⟩ := entry
      by_cases hk : k = key
      · rw [Table.put, if_pos hk, List.foldr_cons, List.foldr_cons]
        exact Nat.add_right_comm count 1 _
      · rw [Table.put, if_neg hk, List.foldr_cons, List.foldr_cons, ih]
        exact (Nat.add_assoc count _ 1).symm

/-- Each outcome that is recorded counts once. -/
theorem Metrics.totalOutcomes_recordOutcome (m : Metrics) (label : String) (o : Outcome) :
    (m.recordOutcome label o).totalOutcomes = m.totalOutcomes + 1 :=
  Table.sum_put_succ (label, o) m.outcomes.entries

/-- The metrics at a request: only a measurement changes them. -/
theorem World.metrics_handle (w : World) (r : Request) :
    (w.handle r).1.metrics =
      match r with
      | .measure m => m.record w.metrics
      | _ => w.metrics := by
  cases r with
  | store call =>
      simp only [handle]
      split <;> rfl
  | send sender notification =>
      simp only [handle]
      split <;> rfl
  | _ => rfl

/-- A request counts the items that it fetches. -/
theorem World.fetched_handle (w : World) (r : Request) :
    (w.handle r).1.metrics.fetched = w.metrics.fetched + UInt64.ofNat r.fetched := by
  rw [w.metrics_handle r]
  cases r with
  | measure m =>
      cases m with
      | fetched count => rfl
      | _ => exact (UInt64.add_zero _).symm
  | _ => exact (UInt64.add_zero _).symm

/-- A request counts the outcomes that it measures. -/
theorem World.totalOutcomes_handle (w : World) (r : Request) :
    (w.handle r).1.metrics.totalOutcomes = w.metrics.totalOutcomes + r.outcomes := by
  rw [w.metrics_handle r]
  cases r with
  | measure m =>
      cases m with
      | outcome label o => exact w.metrics.totalOutcomes_recordOutcome label o
      | _ => rfl
  | _ => rfl

end Courier
