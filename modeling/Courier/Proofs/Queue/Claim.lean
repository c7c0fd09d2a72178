import Courier.Proofs.Queue.Due
import Courier.Store.Call

/-!
# Proofs — Queue — Claim

What a claim takes: the first of the rows that are due, in the order of their times and then of
their places, and no more of them than its limit (`claim_takes_first_due`).  Rows are told apart by
their places, since nothing keeps two of them from having one identifier.
-/

namespace Courier

namespace QueueItem

/-- The item waits, and its time has come. -/
def Due (now : Instant) (row : QueueItem) : Prop :=
  row.status = .pending ∧ row.nextAttemptAt.le now = true

instance (now : Instant) (row : QueueItem) : Decidable (row.Due now) :=
  inferInstanceAs (Decidable (_ ∧ _))

theorem decide_due (now : Instant) (row : QueueItem) : decide (row.Due now) = row.isDue now := by
  rw [Bool.eq_iff_iff, decide_eq_true_iff, isDue_iff, Due]

end QueueItem

/-- The row at the place `i` is due before the one at `j`, or at the same time and nearer to the
front. -/
def Precedes (rows : List QueueItem) (i j : Nat) : Prop :=
  ∃ a b, rows[i]? = some a ∧ rows[j]? = some b ∧
    (a.nextAttemptAt.lt b.nextAttemptAt = true ∨ a.nextAttemptAt = b.nextAttemptAt ∧ i < j)

/-- What a claim of up to `limit` rows makes of a queue: what it takes, from which places in turn,
and what it leaves. -/
structure TakesFirst (now : Instant) (limit : Nat) (rows : List QueueItem) (places : List Nat)
    (taken after : List QueueItem) : Prop where
  length : taken.length = min limit (rows.countP fun row => row.Due now)
  /-- What is handed out is what stands in the queue afterwards. -/
  stored : taken.map some = places.map (after[·]?)
  claimed : ∀ i ∈ places, ∃ row, rows[i]? = some row ∧ row.Due now ∧
    after[i]? = some { row with status := .processing, updatedAt := now }
  order : places.Pairwise (Precedes rows)
  /-- What is due and not taken comes after all that is taken. -/
  behind : ∀ {i row}, rows[i]? = some row → row.Due now → i ∉ places →
    ∀ j ∈ places, Precedes rows j i
  others : ∀ i, i ∉ places → after[i]? = rows[i]?

namespace Store

variable {s : Store} {now : Instant} {limit : UInt32}

/-- The places from which a claim takes, in turn. -/
def claimedPlaces (s : Store) (now : Instant) (limit : UInt32) : List Nat :=
  (s.claimable now limit).map (·.2)

/-- Of two rows that are both due, the one earlier in the sorted line goes before the other. -/
theorem precedes_of_ahead {x y : QueueItem × Nat} (hx : s.items[x.2]? = some x.1)
    (hy : s.items[y.2]? = some y.1) (h : Ahead x y) : Precedes s.items x.2 y.2 := by
  refine ⟨x.1, y.1, hx, hy, ?_⟩
  rcases Instant.lt_or_eq_of_le h.1 with hlt | heq
  · exact .inl hlt
  · refine .inr ⟨heq, h.2 ?_⟩
    rw [QueueItem.dueBefore, heq]
    exact Instant.le_refl _

/-- The row at a place after a claim. -/
theorem getElem?_claimDue (s : Store) (now : Instant) (limit : UInt32) (i : Nat) :
    (s.claimDue now limit).items[i]? =
      s.items[i]?.map fun row => if i ∈ s.claimedPlaces now limit then row.claim now else row := by
  show (s.items.zipIdx.map _)[i]? = _
  rw [List.getElem?_map, List.getElem?_zipIdx, Option.map_map, Nat.zero_add]
  rfl

/-- Each row taken is in the store the claim leaves, marked as being worked on. -/
theorem getElem?_claimDue_of_mem {entry : QueueItem × Nat} (h : entry ∈ s.claimable now limit) :
    (s.claimDue now limit).items[entry.2]? = some (entry.1.claim now) := by
  have hplace : entry.2 ∈ s.claimedPlaces now limit := List.mem_map_of_mem h
  rw [getElem?_claimDue, (mem_claimable h).1, Option.map_some, if_pos hplace]

/-- A claim takes as many rows as are due, up to its limit. -/
theorem length_claimed (s : Store) (now : Instant) (limit : UInt32) :
    (s.claimed now limit).length = min limit.toNat (s.items.countP (·.isDue now)) := by
  rw [claimed, List.length_map, claimable, List.length_take, length_due]

/-- The rows that a claim takes stand before the due rows that it leaves. -/
theorem ahead_of_not_claimable {x y : QueueItem × Nat} (hx : x ∈ s.claimable now limit)
    (hy : y ∈ s.due now) (hleft : y ∉ s.claimable now limit) : Ahead x y :=
  rel_of_mem_take (s.due_ahead now) hx hy hleft

end Store

/-- **A claim takes the first of the rows that are due.**  It takes as many as there are, up to its
limit, those that are due longest before the others and of equal ones those nearer to the front; it
hands them out as they stand in the queue afterwards, where they are `processing` from now on, and
it leaves all else. -/
theorem claim_takes_first_due (s : Store) (now : Instant) (limit : UInt32) :
    ∃ places taken after,
      (StoreCall.claimDue limit).answer? now s = some taken ∧
      (StoreCall.claimDue limit).serve now s = { s with items := after } ∧
      TakesFirst now limit.toNat s.items places taken after := by
  refine ⟨s.claimedPlaces now limit, s.claimed now limit, (s.claimDue now limit).items, rfl, rfl,
    ?_, ?_, ?_, ?_, ?_, ?_⟩
  · simp only [QueueItem.decide_due]
    exact s.length_claimed now limit
  · rw [Store.claimed, Store.claimedPlaces, List.map_map, List.map_map]
    exact List.map_congr_left fun entry h => (Store.getElem?_claimDue_of_mem h).symm
  · intro i hi
    obtain ⟨entry, hentry, rfl⟩ := List.mem_map.mp hi
    obtain ⟨hrow, hdue⟩ := Store.mem_claimable hentry
    exact ⟨entry.1, hrow, QueueItem.isDue_iff.mp hdue, Store.getElem?_claimDue_of_mem hentry⟩
  · refine List.pairwise_map.mpr (((s.due_ahead now).sublist (List.take_sublist _ _)).imp_of_mem ?_)
    intro x y hx hy hxy
    exact Store.precedes_of_ahead (Store.mem_claimable hx).1 (Store.mem_claimable hy).1 hxy
  · intro i row hrow hdue hi j hj
    obtain ⟨entry, hentry, rfl⟩ := List.mem_map.mp hj
    have hin : (row, i) ∈ s.due now := Store.mem_due.mpr ⟨hrow, QueueItem.isDue_iff.mpr hdue⟩
    have hleft : (row, i) ∉ s.claimable now limit := fun h => hi (List.mem_map_of_mem h)
    exact Store.precedes_of_ahead (y := (row, i)) (Store.mem_claimable hentry).1 hrow
      (Store.ahead_of_not_claimable hentry hin hleft)
  · intro i hi
    rw [Store.getElem?_claimDue]
    simp only [if_neg hi, Option.map_id']

end Courier
