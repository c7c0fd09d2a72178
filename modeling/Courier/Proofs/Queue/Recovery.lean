import Mathlib.Data.List.Perm.Subperm
import Courier.Proofs.Queue.History
import Courier.Proofs.Time.Instant
import Courier.Proofs.World

/-!
# Proofs — Queue — Recovery

What becomes of claims whose workers are gone.  A recovery does not touch the time at which an item
is due, so that it has to be past already: a row that is `processing` was due when it was claimed,
and nothing but a step out of that status makes it due later (`QueueItem.Overdue`).

* `Operation.Alters.overdue`: no step of a row breaks this, `Store.overdue_after`: nor do any
  number of operations, as long as time does not go back.
* `stale_claims_are_claimed_again`: so a recovery puts exactly the abandoned claims back, and the
  next claim gets them.
-/

namespace Courier

namespace QueueItem

/-- If a worker has the item, it is past the time at which it was due. -/
def Overdue (now : Instant) (row : QueueItem) : Prop :=
  row.status = .processing → row.nextAttemptAt.le now = true

/-- What is past its time stays so. -/
theorem Overdue.later {now later : Instant} {row : QueueItem} (h : row.Overdue now)
    (hle : now.le later = true) : row.Overdue later :=
  fun hs => Instant.le_trans (h hs) hle

/-- Only a row that a worker has can miss it. -/
theorem overdue_of_status {now : Instant} {row : QueueItem} (h : row.status ≠ .processing) :
    row.Overdue now :=
  fun hs => absurd hs h

/-- A worker has had the item since before a time. -/
def Stale (olderThan : Instant) (row : QueueItem) : Prop :=
  row.status = .processing ∧ row.updatedAt.lt olderThan = true

instance (olderThan : Instant) (row : QueueItem) : Decidable (row.Stale olderThan) :=
  inferInstanceAs (Decidable (_ ∧ _))

theorem decide_stale (olderThan : Instant) (row : QueueItem) :
    decide (row.Stale olderThan) = row.isStale olderThan := by
  rw [Bool.eq_iff_iff, decide_eq_true_iff, isStale_iff, Stale]

end QueueItem

/-- **No step of a row makes a claim due later.** -/
theorem Operation.Alters.overdue {op : Operation} {now : Instant} {row row' : QueueItem}
    (h : op.Alters now row row') (hrow : row.Overdue now) : row'.Overdue now := by
  cases h with
  | leave => exact hrow
  | claim hdue => exact fun _ => (QueueItem.isDue_iff.mp hdue).2
  | succeed => exact QueueItem.overdue_of_status nofun
  | fail => exact QueueItem.overdue_of_status nofun
  | putBack hs error nextAttemptAt =>
      refine QueueItem.overdue_of_status ?_
      rw [Store.putBack_status]
      exact nofun
  | requeue => exact QueueItem.overdue_of_status nofun
  | recover => exact QueueItem.overdue_of_status nofun
  | makeDue hs =>
      refine QueueItem.overdue_of_status fun hs' => ?_
      exact nomatch hs.symm.trans hs'
  | backdate => exact hrow

namespace Store

variable {s : Store} {now : Instant}

/-- No operation makes a claim due later. -/
theorem overdue_apply (op : Operation) (h : ∀ row ∈ s.items, row.Overdue now) :
    ∀ row ∈ (op.apply now s).items, row.Overdue now := by
  intro row hrow
  obtain ⟨rows, hitems, hrows⟩ := op.alters_apply now s
  rw [hitems, List.mem_append] at hrow
  rcases hrow with hrow | hrow
  · obtain ⟨i, hi', rfl⟩ := List.getElem_of_mem hrow
    have hi : i < s.items.length := hrows.length_eq ▸ hi'
    exact (hrows.get hi hi').overdue (h _ (List.getElem_mem hi))
  · obtain ⟨item, -, rfl⟩ := List.mem_map.mp hrow
    exact QueueItem.overdue_of_status nofun

/-- The operations are done one after another, and the last of them no later than `now`. -/
def InTime (ops : List (Instant × Operation)) (now : Instant) : Prop :=
  (ops.map (·.1) ++ [now]).Pairwise fun a b => a.le b = true

/-- While time does not go back, no claim gets due later. -/
theorem overdue_after {ops : List (Instant × Operation)} (h : InTime ops now)
    (hs : ∀ t ∈ ops.map (·.1) ++ [now], ∀ row ∈ s.items, row.Overdue t) :
    ∀ row ∈ (s.after ops).items, row.Overdue now := by
  induction ops generalizing s with
  | nil => exact hs now (List.mem_singleton_self now)
  | cons op rest ih =>
      obtain ⟨hfirst, hrest⟩ := List.pairwise_cons.mp h
      refine ih hrest fun t ht row hrow => ?_
      exact (overdue_apply op.2 (hs op.1 List.mem_cons_self) row hrow).later (hfirst t ht)

/-! ### A recovery and the claim after it -/

theorem forall₂_recoverStale (s : Store) (now olderThan : Instant) :
    List.Forall₂ (fun row row' =>
      (row.Stale olderThan → row' = { row with status := .pending, updatedAt := now }) ∧
        (¬row.Stale olderThan → row' = row)) s.items (s.recoverStale now olderThan).items := by
  refine Operation.forall₂_map fun row _ => ?_
  rw [← QueueItem.decide_stale]
  exact ⟨fun h => if_pos (decide_eq_true h), fun h => if_neg (by simpa using h)⟩

/-- The abandoned claims are among the rows that are due after they were recovered. -/
theorem recovered_sublist {olderThan later : Instant} (hs : ∀ row ∈ s.items, row.Overdue later) :
    ((s.items.filter fun row => row.Stale olderThan).map (·.recover now)).Sublist
      ((s.recoverStale now olderThan).items.filter (·.isDue later)) := by
  show List.Sublist _ ((s.items.map (recoverRow now olderThan)).filter _)
  generalize s.items = items at hs
  induction items with
  | nil => exact List.Sublist.refl _
  | cons row rest ih =>
      have hsome := ih fun other hother => hs other (List.mem_cons_of_mem row hother)
      by_cases h : row.Stale olderThan
      · have hrow : recoverRow now olderThan row = row.recover now :=
          if_pos (QueueItem.isStale_iff.mpr h)
        have hdue : (row.recover now).isDue later = true :=
          QueueItem.isDue_iff.mpr ⟨rfl, hs row List.mem_cons_self h.1⟩
        rw [List.filter_cons_of_pos (by simpa using h), List.map_cons, List.map_cons, hrow,
          List.filter_cons_of_pos hdue]
        exact hsome.cons_cons _
      · rw [List.filter_cons_of_neg (by simpa using h), List.map_cons]
        exact hsome.trans (List.Sublist.filter _ (List.sublist_cons_self _ _))

/-- The claim after a recovery gets the abandoned claims. -/
theorem recovered_subperm {olderThan later : Instant} {limit : UInt32}
    (hs : ∀ row ∈ s.items, row.Overdue later)
    (hlimit : (s.recoverStale now olderThan).items.countP (·.isDue later) ≤ limit.toNat) :
    ((s.items.filter fun row => row.Stale olderThan).map fun row =>
      { row with updatedAt := later }).Subperm
        ((s.recoverStale now olderThan).claimed later limit) := by
  have hsame : ((s.items.filter fun row => row.Stale olderThan).map fun row =>
      { row with updatedAt := later }) =
        ((s.items.filter fun row => row.Stale olderThan).map (·.recover now)).map
          (·.claim later) := by
    rw [List.map_map]
    refine List.map_congr_left fun row hrow => ?_
    have hstatus := (of_decide_eq_true (List.mem_filter.mp hrow).2 : row.Stale olderThan).1
    simp only [Function.comp_apply, QueueItem.recover, QueueItem.claim, ← hstatus]
  rw [hsame]
  exact ((recovered_sublist hs).map _).subperm.trans (claimed_perm hlimit).symm.subperm

end Store

/-- **No claim is lost with its worker, nor delayed.**  In a queue that operations have made while
time did not go back, every item that a worker has is past the time at which it was due.  So a
recovery puts exactly those items back that a worker has had since before the time asked for, as
they are but for their status and the time of the change, leaves all else, and tells their number;
and a claim that comes next and may take as many as are due gets all of them. -/
theorem stale_claims_are_claimed_again {ops : List (Instant × Operation)} {now : Instant}
    (h : Store.InTime ops now) :
    let s := Store.empty.after ops
    (∀ row ∈ s.items, row.status = .processing → row.nextAttemptAt.le now = true) ∧
      ∀ olderThan, ∃ rows,
        (StoreCall.recoverStale olderThan).serve now s = { s with items := rows } ∧
        (StoreCall.recoverStale olderThan).answer? now s =
          some (s.items.filter fun row => row.Stale olderThan).length ∧
        List.Forall₂ (fun row row' =>
          (row.Stale olderThan → row' = { row with status := .pending, updatedAt := now }) ∧
            (¬row.Stale olderThan → row' = row)) s.items rows ∧
        ∀ later limit, now.le later = true → rows.countP (·.isDue later) ≤ limit.toNat →
          ∃ taken, (StoreCall.claimDue limit).answer? later { s with items := rows } = some taken ∧
            ((s.items.filter fun row => row.Stale olderThan).map fun row =>
              { row with updatedAt := later }).Subperm taken := by
  intro s
  have hoverdue : ∀ row ∈ s.items, row.Overdue now :=
    Store.overdue_after h fun _ _ => List.forall_mem_nil _
  refine ⟨hoverdue, fun olderThan => ⟨_, rfl, ?_, s.forall₂_recoverStale now olderThan, ?_⟩⟩
  · rw [← List.countP_eq_length_filter]
    simp only [QueueItem.decide_stale]
    rfl
  · intro later limit hlater hlimit
    refine ⟨_, rfl, ?_⟩
    exact Store.recovered_subperm (fun row hrow => (hoverdue row hrow).later hlater) hlimit

namespace Sample

/-- Two messages are claimed; the first is put back and claimed again two seconds later. -/
def claims : List (Instant × Operation) :=
  [(.epoch, .call (.enqueueBatch [item 5, { item 5 with id := id 4 }])),
    (.epoch, .call (.claimDue 2)),
    (.epoch, .call (.markForRetry (id 3) "timeout" ⟨1, 0, by decide⟩)),
    (⟨2, 0, by decide⟩, .call (.claimDue 2))]

/-- The second message in the hands of its worker. -/
def abandoned : QueueItem :=
  { { item 5 with id := id 4 }.enter .epoch with status := .processing }

end Sample

/-- Of two claims the older is recovered, and the next claim gets it. -/
theorem abandoned_message_is_claimed_again :
    let now : Instant := ⟨2, 0, by decide⟩
    let s := Store.empty.after Sample.claims
    Store.InTime Sample.claims now ∧ s.items.map (·.status) = [.processing, .processing] ∧
      ∃ rows taken,
        (StoreCall.recoverStale ⟨1, 0, by decide⟩).serve now s = { s with items := rows } ∧
        (StoreCall.recoverStale ⟨1, 0, by decide⟩).answer? now s = some 1 ∧
        (StoreCall.claimDue 2).answer? now { s with items := rows } = some taken ∧
        [{ Sample.abandoned with updatedAt := now }].Subperm taken := by
  intro now s
  have hintime : Store.InTime Sample.claims now := by
    simp [Store.InTime, Sample.claims, now, Instant.le, Instant.epoch]
  obtain ⟨-, hrecover⟩ := stale_claims_are_claimed_again hintime
  obtain ⟨rows, hserve, hanswer, hrows, hclaim⟩ := hrecover ⟨1, 0, by decide⟩
  have hlimit : rows.countP (·.isDue now) ≤ UInt32.toNat 2 :=
    calc rows.countP (·.isDue now) ≤ rows.length := List.countP_le_length
      _ = UInt32.toNat 2 := hrows.length_eq.symm
  obtain ⟨taken, htaken, hall⟩ := hclaim now 2 (Instant.le_refl now) hlimit
  exact ⟨hintime, rfl, rows, taken, hserve, hanswer, htaken, hall⟩

end Courier
