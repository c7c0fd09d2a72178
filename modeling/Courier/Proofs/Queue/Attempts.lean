import Courier.Store

/-!
# Proofs — Queue — Attempts

The count of attempts of an item as an integer, and its bound.

* `QueueItem.budget`: how often an item may be claimed.  An item whose limit is zero or less gets one
  attempt, as one whose limit is one.
* `Within`: the failed attempts leave room for one more.  Within the budget no count ends
  (`Within.nextAttempt?`, `Within.isSome_isLastAttempt?`).
-/

namespace Courier

/-- A counted attempt is one more: the counter that is full has no next one. -/
theorem toInt_nextAttempt {a b : Int32} (h : nextAttempt? a = some b) :
    b.toInt = a.toInt + 1 := by
  by_cases hlt : a.toInt < Int32.maxValue.toInt
  · rw [nextAttempt?, if_pos hlt] at h
    have hmin := a.le_toInt
    have hmax : Int32.maxValue.toInt = 2 ^ 31 - 1 := rfl
    rw [← Option.some.inj h]
    exact Int32.toInt_ofInt_of_le (by omega) (by omega)
  · rw [nextAttempt?, if_neg hlt] at h
    exact nomatch h

namespace QueueItem

/-- How often the item may be claimed. -/
def budget (item : QueueItem) : Int := max item.maxAttempts.toInt 1

/-- The failed attempts leave room for one more. -/
def Within (item : QueueItem) : Prop :=
  0 ≤ item.attempts.toInt ∧ item.attempts.toInt ≤ item.budget - 1

/-- While the counter is within its limit, the next attempt can be counted. -/
theorem Within.nextAttempt? {item : QueueItem} (h : item.Within) :
    nextAttempt? item.attempts = some (Int32.ofInt (item.attempts.toInt + 1)) := by
  have hmax := item.maxAttempts.toInt_lt
  have hbound : Int32.maxValue.toInt = 2 ^ 31 - 1 := rfl
  have hlt : item.attempts.toInt < Int32.maxValue.toInt := by
    have hw := h.2
    rw [budget] at hw
    omega
  exact if_pos hlt

/-- Whether an attempt is the last can be told where the attempts can be counted on. -/
theorem isSome_isLastAttempt? (item : QueueItem) :
    item.isLastAttempt?.isSome = (Courier.nextAttempt? item.attempts).isSome :=
  Option.isSome_map

/-- Where the worker could tell that, the store can count on. -/
theorem isSome_nextAttempt? {item : QueueItem} {last : Bool} (h : item.isLastAttempt? = some last) :
    (Courier.nextAttempt? item.attempts).isSome = true := by
  rw [← item.isSome_isLastAttempt?, h, Option.isSome_some]

/-- The worker's question always has an answer. -/
theorem Within.isSome_isLastAttempt? {item : QueueItem} (h : item.Within) :
    item.isLastAttempt?.isSome = true := by
  rw [QueueItem.isSome_isLastAttempt?, h.nextAttempt?, Option.isSome_some]

/-- An item that is put back has more than one attempt left. -/
theorem lt_of_isLastAttempt? {item : QueueItem} (h : item.isLastAttempt? = some false) :
    item.attempts.toInt + 1 < item.maxAttempts.toInt := by
  obtain ⟨next, hn, hlast⟩ := Option.map_eq_some_iff.mp h
  have hle := of_decide_eq_false hlast
  rw [toInt_nextAttempt hn] at hle
  exact Int.not_le.mp hle

end QueueItem

/-- A report for another attempt breaks down over no row but a `processing` one whose attempts
cannot be counted on. -/
theorem Store.canRetry_iff {s : Store} {id : Uuid} :
    s.canRetry id = true ↔
      ∀ row, s.findIn? id .processing = some row → (nextAttempt? row.attempts).isSome = true := by
  cases h : s.findIn? id .processing with
  | none => simp [canRetry, h]
  | some row => simp [canRetry, h]

end Courier
