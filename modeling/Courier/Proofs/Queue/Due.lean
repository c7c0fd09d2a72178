import Courier.Proofs.Queue.Rows
import Courier.Proofs.Time.Instant

/-!
# Proofs — Queue — Due

The order in which due rows are claimed: by the time at which they are due, and by their place in
the queue where that is the same (`Ahead`).

* `Store.due_perm`, `Store.due_ahead`: the due rows stand in this order, each once.
* `Store.due_eq`: there is only one such order.
* `Store.due_tail`: once the first of them is no longer due, and nothing else has changed, the
  others are due as before.
-/

namespace Courier

/-- Due earlier, or at the same time and nearer to the front of the queue. -/
def Ahead (a b : QueueItem × Nat) : Prop :=
  a.1.dueBefore b.1 = true ∧ (b.1.dueBefore a.1 = true → a.2 < b.2)

theorem pairwise_zipIdx {α : Type} (l : List α) (k : Nat) :
    (l.zipIdx k).Pairwise fun a b => a.2 < b.2 := by
  induction l generalizing k with
  | nil => exact .nil
  | cons a rest ih =>
      refine List.pairwise_cons.mpr ⟨fun b hb => ?_, ih (k + 1)⟩
      exact List.le_snd_of_mem_zipIdx hb

namespace Store

variable {s s' : Store} {now : Instant}

/-- The due rows, each with its place and once. -/
theorem due_perm (s : Store) (now : Instant) :
    (s.due now).Perm (s.items.zipIdx.filter fun entry => entry.1.isDue now) :=
  sortBy_perm _ _

/-- The due rows stand in the order a claim takes them: by time, then by place. -/
theorem due_ahead (s : Store) (now : Instant) : (s.due now).Pairwise Ahead := by
  refine pairwise_sortBy (fun a b => ?_) (fun {a b c} hab hbc => ?_)
    ((pairwise_zipIdx s.items 0).filter _)
  · exact Instant.le_total a.1.nextAttemptAt b.1.nextAttemptAt
  · exact Instant.le_trans hab hbc

/-- There is one order of the due rows. -/
theorem due_eq {l : List (QueueItem × Nat)}
    (hp : l.Perm (s.items.zipIdx.filter fun entry => entry.1.isDue now))
    (h : l.Pairwise Ahead) : s.due now = l := by
  refine ((s.due_perm now).trans hp.symm).eq_of_pairwise ?_ (s.due_ahead now) h
  intro a b _ _ hab hba
  exact absurd (hab.2 hba.1) (Nat.lt_asymm (hba.2 hab.1))

/-- Sorting loses no row: as many are listed as are due. -/
theorem length_due (s : Store) (now : Instant) :
    (s.due now).length = s.items.countP (·.isDue now) := by
  rw [(s.due_perm now).length_eq, ← List.length_map (f := (·.1)), map_fst_filter_isDue,
    List.countP_eq_length_filter]

/-- The entries listed are the due rows with their places. -/
theorem mem_due {entry : QueueItem × Nat} :
    entry ∈ s.due now ↔ s.items[entry.2]? = some entry.1 ∧ entry.1.isDue now = true := by
  rw [(s.due_perm now).mem_iff, List.mem_filter, List.mk_mem_zipIdx_iff_getElem?]

/-- Where identifiers are distinct, no due row is listed twice. -/
theorem nodup_due (hd : s.Distinct) (now : Instant) : ((s.due now).map (·.1.id)).Nodup := by
  have hrows : ((s.due now).map (·.1.id)).Perm ((s.items.filter (·.isDue now)).map (·.id)) := by
    rw [← s.map_fst_filter_isDue now, List.map_map]
    exact (s.due_perm now).map _
  exact hrows.nodup_iff.mpr (hd.sublist (List.filter_sublist.map _))

/-- Once the first of the due rows is no longer due, the others are due as before. -/
theorem due_tail (hd : s.Distinct) {row : QueueItem} {place : Nat}
    {rest : List (QueueItem × Nat)} (h : s.due now = (row, place) :: rest)
    {f : QueueItem → QueueItem} (hitems : s'.items = s.items.map f)
    (hothers : ∀ other ∈ s.items, other.id ≠ row.id → f other = other)
    (hgone : ¬(f row).isDue now = true) : s'.due now = rest := by
  have hfirst : row ∈ s.items :=
    List.mem_of_getElem? (mem_due.mp (h ▸ List.mem_cons_self)).1
  have hnodup := nodup_due hd now
  have hahead := s.due_ahead now
  have hperm := s.due_perm now
  rw [h] at hnodup hahead hperm
  refine due_eq ?_ (List.pairwise_cons.mp hahead).2
  -- what is due now was due before, and is not the first
  have hsame : ∀ other ∈ s.items, (f other).isDue now =
      (decide (other.id ≠ row.id) && other.isDue now) := by
    intro other hin
    by_cases hid : other.id = row.id
    · have hother : other = row :=
        Option.some.inj ((hd.getItem?_of_mem hin).symm.trans (hid ▸ hd.getItem?_of_mem hfirst))
      rw [hother, Bool.eq_false_iff.mpr hgone]
      simp
    · rw [hothers other hin hid]
      simp [hid]
  have hrest : ((row, place) :: rest).filter (fun entry => decide (entry.1.id ≠ row.id)) =
      rest := by
    rw [List.filter_cons_of_neg (by simp), List.filter_eq_self]
    intro entry hentry
    rw [decide_eq_true_iff]
    exact fun he => (List.nodup_cons.mp hnodup).1 (List.mem_map.mpr ⟨entry, hentry, he⟩)
  have hrows : s'.items.zipIdx.filter (fun entry => entry.1.isDue now) =
      (s.items.zipIdx.filter fun entry => entry.1.isDue now).filter
        fun entry => decide (entry.1.id ≠ row.id) := by
    have hin : ∀ entry ∈ s.items.zipIdx, entry.1 ∈ s.items := fun entry he =>
      List.mem_of_getElem? (List.mk_mem_zipIdx_iff_getElem?.mp he)
    rw [hitems, List.zipIdx_map, List.filter_map, List.filter_filter]
    refine (congrArg _ (List.filter_congr fun entry he => hsame entry.1 (hin entry he))).trans ?_
    refine (List.map_congr_left fun entry he => ?_).trans (List.map_id _)
    obtain ⟨he, hne⟩ := List.mem_filter.mp he
    have hid : entry.1.id ≠ row.id := of_decide_eq_true (Bool.and_eq_true_iff.mp hne).1
    exact Prod.ext (hothers entry.1 (hin entry he) hid) rfl
  rw [hrows, ← hrest]
  exact hperm.filter _

end Store

end Courier
