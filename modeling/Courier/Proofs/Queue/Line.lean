import Courier.Proofs.Order
import Courier.Proofs.Queue.Rows
import Courier.Proofs.Time.Instant

/-!
# Proofs — Queue — Line

A queue to which nothing has come back: the rows that wait stand behind all others, in the order
in which they are due (`Store.Line`).

* `Line.claimed`, `Line.claimDue`: a claim takes the first of those that wait, in their order, and
  leaves a line.
* `Line.enqueueBatch`: new rows go to the end.
* `Line.map`: what is done with the other rows leaves a line, as long as none of them waits again.
-/

namespace Courier.Store

/-- The rows that wait stand behind all others, in the order in which they are due. -/
structure Line (s : Store) (done waiting : List QueueItem) : Prop where
  items : s.items = done ++ waiting
  past : ∀ row ∈ done, row.status ≠ .pending
  pending : ∀ row ∈ waiting, row.status = .pending
  rising : waiting.Pairwise fun a b => a.dueBefore b = true

namespace Line

variable {s : Store} {done waiting : List QueueItem} {now : Instant} {limit : UInt32}

/-- The identifiers of a line are those of the finished rows, then those of the waiting ones. -/
theorem ids_eq (h : s.Line done waiting) :
    s.ids = done.map (·.id) ++ waiting.map (·.id) := by
  rw [ids, h.items, List.map_append]

/-- Only rows that wait are due. -/
theorem filter_isDue (h : s.Line done waiting) (now : Instant) :
    s.items.filter (·.isDue now) = waiting.filter (·.isDue now) := by
  have hdone : done.filter (·.isDue now) = [] :=
    List.filter_eq_nil_iff.mpr fun row hrow hdue => h.past row hrow (pending_of_isDue hdue)
  rw [h.items, List.filter_append, hdone, List.nil_append]

/-- The due rows of a line are its waiting rows that are due, in the order of the line. -/
theorem map_fst_due (h : s.Line done waiting) (now : Instant) :
    (s.due now).map (·.1) = waiting.filter (·.isDue now) := by
  have hrows : (s.items.zipIdx.filter fun entry => entry.1.isDue now).map (·.1) =
      waiting.filter (·.isDue now) := by
    rw [map_fst_filter_isDue, h.filter_isDue]
  have hrising : (s.items.zipIdx.filter fun entry => entry.1.isDue now).Pairwise
      fun a b => a.1.dueBefore b.1 = true := by
    have hsome := h.rising.sublist (List.filter_sublist (p := (·.isDue now)))
    rw [← hrows] at hsome
    exact List.pairwise_map.mp hsome
  rw [due, sortBy_eq_self hrising, hrows]

/-- Who is due later, waits behind. -/
theorem pairwise_isDue (h : s.Line done waiting) (now : Instant) :
    waiting.Pairwise fun a b => b.isDue now = true → a.isDue now = true := by
  refine h.rising.imp_of_mem fun {a b} ha hb hab hdue => ?_
  have hle := Instant.le_trans hab (QueueItem.isDue_iff.mp hdue).2
  exact QueueItem.isDue_iff.mpr ⟨h.pending a ha, hle⟩

/-- How many rows a claim takes. -/
def share (waiting : List QueueItem) (now : Instant) (limit : UInt32) : Nat :=
  min limit.toNat (waiting.countP (·.isDue now))

/-- Where all that waits is due, only the limit counts. -/
theorem share_of_due (h : s.Line done waiting)
    (hdue : ∀ row ∈ waiting, row.nextAttemptAt.le now = true) :
    share waiting now limit = min limit.toNat waiting.length := by
  rw [share, List.countP_eq_length.mpr fun row hrow =>
    QueueItem.isDue_iff.mpr ⟨h.pending row hrow, hdue row hrow⟩]

/-- **A claim takes the first of those that wait,** in their order. -/
theorem claimed (h : s.Line done waiting) :
    s.claimed now limit = (waiting.take (share waiting now limit)).map (·.claim now) := by
  have hrows : (s.claimable now limit).map (·.1) = waiting.take (share waiting now limit) := by
    rw [claimable, List.map_take, h.map_fst_due, filter_eq_take_countP (h.pairwise_isDue now),
      List.take_take, share]
  rw [Store.claimed, ← hrows, List.map_map]
  rfl

/-- A claim leaves a line, with the claimed rows before those that go on waiting. -/
theorem claimDue (h : s.Line done waiting) (hd : s.Distinct) :
    (s.claimDue now limit).Line
      (done ++ (waiting.take (share waiting now limit)).map (·.claim now))
      (waiting.drop (share waiting now limit)) := by
  generalize hn : share waiting now limit = n
  have hids : (s.claimed now limit).map (·.id) = (waiting.take n).map (·.id) := by
    rw [h.claimed, hn, List.map_map]
    rfl
  have hnodup :
      (done.map (·.id) ++ ((waiting.take n).map (·.id) ++ (waiting.drop n).map (·.id))).Nodup := by
    rw [← List.map_append, List.take_append_drop, ← h.ids_eq]
    exact hd
  obtain ⟨-, htail, hdone⟩ := List.nodup_append.mp hnodup
  obtain ⟨-, -, hrest⟩ := List.nodup_append.mp htail
  -- a row that is not among the first of those that wait is not changed
  have hkept : ∀ {rows : List QueueItem}, (∀ row ∈ rows, row.id ∉ (waiting.take n).map (·.id)) →
      rows.map (claimRow now ((waiting.take n).map (·.id))) = rows := by
    intro rows hrows
    refine (List.map_congr_left fun row hrow => ?_).trans (List.map_id _)
    exact if_neg (hrows row hrow)
  refine ⟨?_, fun row hrow => ?_, fun row hrow => h.pending row (List.mem_of_mem_drop hrow),
    h.rising.sublist (List.drop_sublist n waiting)⟩
  · rw [items_claimDue hd, hids, h.items, ← List.take_append_drop n waiting, List.map_append,
      List.map_append, List.take_append_drop, List.append_assoc]
    congr 1
    · refine hkept fun row hrow hin => ?_
      exact hdone _ (List.mem_map_of_mem hrow) _ (List.mem_append_left _ hin) rfl
    · congr 1
      · exact List.map_congr_left fun row hrow => if_pos (List.mem_map_of_mem hrow)
      · exact hkept fun row hrow hin => hrest _ hin _ (List.mem_map_of_mem hrow) rfl
  · rcases List.mem_append.mp hrow with hrow | hrow
    · exact h.past row hrow
    · obtain ⟨before, -, rfl⟩ := List.mem_map.mp hrow
      exact nofun

/-- Where all that waits is due, a claim takes as many as it may. -/
theorem claimed_of_due (h : s.Line done waiting)
    (hdue : ∀ row ∈ waiting, row.nextAttemptAt.le now = true) :
    s.claimed now limit = (waiting.take limit.toNat).map (·.claim now) := by
  rw [h.claimed, h.share_of_due hdue, ← List.take_eq_take_min]

/-- When all that wait are due, a claim takes the head of the line and leaves the rest waiting. -/
theorem claimDue_of_due (h : s.Line done waiting) (hd : s.Distinct)
    (hdue : ∀ row ∈ waiting, row.nextAttemptAt.le now = true) :
    (s.claimDue now limit).Line (done ++ (waiting.take limit.toNat).map (·.claim now))
      (waiting.drop limit.toNat) := by
  have hline : (s.claimDue now limit).Line _ _ := h.claimDue hd
  rwa [h.share_of_due hdue, ← List.take_eq_take_min, ← List.drop_eq_drop_min] at hline

/-- New rows go to the end of the line. -/
theorem enqueueBatch (h : s.Line done waiting)
    (hpast : ∀ row ∈ waiting, row.nextAttemptAt.le now = true) (items : List NewItem) :
    (s.enqueueBatch now items).Line done (waiting ++ items.map (·.enter now)) where
  items := by rw [Store.enqueueBatch, h.items, List.append_assoc]
  past := h.past
  pending := by
    intro row hrow
    rcases List.mem_append.mp hrow with hrow | hrow
    · exact h.pending row hrow
    · obtain ⟨item, -, rfl⟩ := List.mem_map.mp hrow
      rfl
  rising := by
    refine List.pairwise_append.mpr ⟨h.rising, ?_, fun a ha b hb => ?_⟩
    · rw [List.pairwise_map]
      exact List.pairwise_of_forall fun _ _ => Instant.le_refl now
    · obtain ⟨item, -, rfl⟩ := List.mem_map.mp hb
      exact hpast a ha

/-- The other rows change, and none of them waits again. -/
theorem map (h : s.Line done waiting) {s' : Store} {g : QueueItem → QueueItem}
    (hitems : s'.items = s.items.map g) (hkept : ∀ row, row.status = .pending → g row = row)
    (hdone : ∀ row ∈ done, (g row).status ≠ .pending) : s'.Line (done.map g) waiting where
  items := by
    have hsame : waiting.map g = waiting :=
      (List.map_congr_left fun row hrow => hkept row (h.pending row hrow)).trans (List.map_id _)
    rw [hitems, h.items, List.map_append, hsame]
  past := by
    intro row hrow
    obtain ⟨before, hbefore, rfl⟩ := List.mem_map.mp hrow
    exact hdone before hbefore
  pending := h.pending
  rising := h.rising

/-- A line is a matter of the rows alone. -/
theorem of_items (h : s.Line done waiting) {s' : Store} (hi : s'.items = s.items) :
    s'.Line done waiting :=
  ⟨hi.trans h.items, h.past, h.pending, h.rising⟩

end Line

end Courier.Store
