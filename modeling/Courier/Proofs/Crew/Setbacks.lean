import Courier.Proofs.Crew.Custody
import Courier.Proofs.Delivery.Retry

/-!
# Proofs — Crew — Setbacks

How many attempts at an item have failed.  A worker knows that from the count that the row had when
it was claimed, and the history has each failure.

* `failedAttempts`: the failures since an item came or was requeued, and what the queue began with.
* `Counted`: a row that waits has as many attempts as have failed, and so has what a worker is still
  to process, until its own attempt fails.  With `Custody` it is an invariant of all that happens
  but recoveries (`Happens.counted`).
-/

namespace Courier

namespace Deed

/-- An attempt at the item failed: its channel was not found out, or its sender did not take the
message. -/
def fails (id : Uuid) : Deed → Bool
  | looked _ item (.error _) => item.id = id
  | sent _ item _ _ (.error _) => item.id = id
  | _ => false

/-- The item starts anew. -/
def requeues (id : Uuid) : Deed → Bool
  | requeued k => k = id
  | _ => false

/-- No attempt fails, and no item starts anew. -/
def Smooth (d : Deed) : Prop := ∀ id, d.fails id = false ∧ d.requeues id = false

end Deed

/-- How many attempts at an item failed since it was last requeued, and those `before` the history
while it has not been. -/
def failedAttempts (id : Uuid) (before : Int) : List Deed → Int
  | [] => before
  | d :: log =>
    if d.requeues id then 0
    else failedAttempts id before log + if d.fails id then 1 else 0

/-- The count of attempts in the row of an item, and none for an item that is not in the queue. -/
def Store.attempts (s : Store) (id : Uuid) : Int :=
  ((s.getItem? id).map (·.attempts.toInt)).getD 0

section Counting

variable {id : Uuid} {before : Int} {d : Deed} {log deeds : List Deed}

/-- An attempt that fails counts on. -/
theorem failedAttempts_cons (h : d.requeues id = false) :
    failedAttempts id before (d :: log) =
      failedAttempts id before log + if d.fails id then 1 else 0 := by
  rw [failedAttempts, h, if_neg Bool.false_ne_true]

/-- What is no failed attempt does not count. -/
theorem failedAttempts_cons_of_not_fails (h : d.requeues id = false) (hf : d.fails id = false) :
    failedAttempts id before (d :: log) = failedAttempts id before log := by
  rw [failedAttempts_cons h, hf, if_neg Bool.false_ne_true, Int.add_zero]

/-- Deeds without a failed attempt do not count. -/
theorem failedAttempts_append (h : ∀ d ∈ deeds, d.Smooth) :
    failedAttempts id before (deeds ++ log) = failedAttempts id before log := by
  induction deeds with
  | nil => rfl
  | cons d deeds ih =>
      have hd := h d List.mem_cons_self id
      exact (failedAttempts_cons_of_not_fails hd.2 hd.1).trans
        (ih fun e he => h e (List.mem_cons_of_mem d he))

end Counting

/-! ### What a worker knows -/

namespace Stage

/-- The attempt at the present item has failed. -/
def failed : Stage → Bool
  | looked _ _ (.error _) => true
  | tried _ _ _ (.error _) => true
  | timed _ _ _ _ => true
  | _ => false

/-- How many attempts at an item have failed, as far as its worker knows. -/
def failures (t : Stage) (x : QueueItem) : Int :=
  x.attempts.toInt + if t.failed = true ∧ t.item? = some x then 1 else 0

variable {t : Stage} {x : QueueItem}

/-- A stage without a failed attempt adds none. -/
theorem failures_of_not_failed (h : t.failed = false) : t.failures x = x.attempts.toInt := by
  rw [failures, h, if_neg fun hf => Bool.false_ne_true hf.1, Int.add_zero]

/-- Only the attempt at the present item can have failed. -/
theorem failures_of_item?_ne (h : t.item? ≠ some x) : t.failures x = x.attempts.toInt := by
  rw [failures, if_neg fun hf => h hf.2, Int.add_zero]

/-- A stage with a failed attempt at the item adds one. -/
theorem failures_of_item? (h : t.item? = some x) :
    t.failures x = x.attempts.toInt + if t.failed then 1 else 0 := by
  simp only [failures, h, and_true]

/-- An attempt that waiting may mend has failed. -/
theorem failed_of_setback? {setback : Setback} (h : t.setback? = some setback) :
    t.failed = true := by
  cases t with
  | looked item rest answer =>
      cases answer with
      | error e => rfl
      | ok found => exact nomatch h
  | tried item rest channel result =>
      cases result with
      | error e => rfl
      | ok _ => exact nomatch h
  | timed item rest setback now => rfl
  | _ => exact nomatch h

end Stage

/-- To count something or to read the clock fails no attempt. -/
theorem Passes.failures {s t : Stage} (h : Passes s t) {x : QueueItem} (hx : x ∈ t.todo) :
    t.failures x = s.failures x := by
  cases h with
  | stay => rfl
  | stop => exact nomatch hx
  | count =>
      cases s with
      | claimed items =>
          exact (Stage.failures_of_not_failed rfl).trans (Stage.failures_of_not_failed rfl).symm
      | ended rest =>
          exact (Stage.failures_of_not_failed rfl).trans (Stage.failures_of_not_failed rfl).symm
      | _ => rfl
  | time now =>
      rw [Stage.time]
      split
      · rename_i item setback hi hs
        -- the attempt has failed before the clock is read
        have hread : (Stage.timed item s.todo.tail setback now).item? = s.item? := hi.symm
        have hfailed : (Stage.timed item s.todo.tail setback now).failed = s.failed :=
          (Stage.failed_of_setback? hs).symm
        rw [Stage.failures, Stage.failures, hread, hfailed]
      · rfl

/-! ### The invariant -/

/-- The counts of attempts tell how many have failed. -/
structure Counted (before : Uuid → Int) (s : Scene) : Prop where
  known : ∀ {id}, s.store.getItem? id = none → failedAttempts id (before id) s.log = 0
  /-- An item that waits. -/
  waiting : ∀ {id row}, s.store.getItem? id = some row → row.status = .pending →
    failedAttempts id (before id) s.log = row.attempts.toInt
  /-- An item that a worker is still to process. -/
  todo : ∀ {n x}, x ∈ (s.stages n).todo →
    failedAttempts x.id (before x.id) s.log = (s.stages n).failures x

namespace Counted

variable {before : Uuid → Int} {s : Scene} {n : Nat} {t : Stage}

/-- At first each row has the attempts that it came with. -/
theorem first (store : Store) : Counted store.attempts (.first store) where
  known := by
    intro id hid
    replace hid : store.getItem? id = none := hid
    show store.attempts id = 0
    rw [Store.attempts, hid]
    rfl
  waiting := by
    intro id row hrow _
    replace hrow : store.getItem? id = some row := hrow
    show store.attempts id = _
    rw [Store.attempts, hrow]
    rfl
  todo := fun h => nomatch h

/-- A worker goes on without an attempt. -/
theorem advance (h : Counted before s) {deeds : List Deed}
    (ht : ∀ x ∈ t.todo, x ∈ (s.stages n).todo ∧ t.failures x = (s.stages n).failures x)
    (hd : ∀ d ∈ deeds, d.Smooth) : Counted before (s.advance n t deeds) where
  known := fun hid => (failedAttempts_append hd).trans (h.known hid)
  waiting := fun hrow hs => (failedAttempts_append hd).trans (h.waiting hrow hs)
  todo := by
    intro m x hx
    refine (failedAttempts_append hd).trans ?_
    by_cases hm : m = n
    · subst hm
      rw [Scene.stages_advance, if_pos rfl] at hx ⊢
      exact (h.todo (ht x hx).1).trans (ht x hx).2.symm
    · rw [Scene.stages_advance, if_neg hm] at hx ⊢
      exact h.todo hx

/-- A worker makes an attempt at the present item, or a part of one, which fails or does not. -/
theorem attempt (h : Counted before s) (hc : Custody s) {item : QueueItem}
    (hs : (s.stages n).item? = some item) (hs' : (s.stages n).failed = false)
    (ht : t.item? = some item) (htodo : t.todo = (s.stages n).todo) {d : Deed}
    (hf : ∀ id, d.fails id = true ↔ t.failed = true ∧ item.id = id)
    (hr : ∀ id, d.requeues id = false) : Counted before (s.advance n t [d]) := by
  have hheld := hc.mem_held_of_item? hs
  -- the attempt counts for no other item
  have hother : ∀ {id}, id ≠ item.id →
      failedAttempts id (before id) (d :: s.log) = failedAttempts id (before id) s.log :=
    fun hid => failedAttempts_cons_of_not_fails (hr _)
      (Bool.eq_false_iff.mpr fun he => hid ((hf _).mp he).2.symm)
  refine ⟨fun {id} hid => ?_, fun {id row} hrow hstatus => ?_, fun {m x} hx => ?_⟩
  · have hne : id ≠ item.id := by
      rintro rfl
      cases hid.symm.trans (hc.row hheld)
    exact (hother hne).trans (h.known hid)
  · have hne : id ≠ item.id := by
      rintro rfl
      obtain rfl := Option.some.inj ((hc.row hheld).symm.trans hrow)
      cases (hc.processing hheld).symm.trans hstatus
    exact (hother hne).trans (h.waiting hrow hstatus)
  · show failedAttempts x.id (before x.id) (d :: s.log) = _
    by_cases hm : m = n
    · subst hm
      rw [Scene.stages_advance, if_pos rfl] at hx ⊢
      rw [htodo] at hx
      have hbefore := h.todo hx
      rw [Stage.failures_of_not_failed hs'] at hbefore
      by_cases hxi : x = item
      · subst hxi
        rw [failedAttempts_cons (hr _), hbefore, Stage.failures_of_item? ht]
        simp only [hf, and_true]
      · have hin : x ∈ (s.stages m).todo.tail := by
          rw [Stage.todo_of_item? hs] at hx
          exact (List.mem_cons.mp hx).resolve_left hxi
        rw [hother (hc.tail_ne hs hin), hbefore,
          Stage.failures_of_item?_ne fun he => hxi (Option.some.inj (he.symm.trans ht))]
    · rw [Scene.stages_advance, if_neg hm] at hx ⊢
      have hne : x.id ≠ item.id := fun hid => hm (hc.apart (hc.mem_held hx) hheld hid)
      exact (hother hne).trans (h.todo hx)

/-- A claim leaves the attempts alone. -/
theorem claim (h : Counted before s) (hd : s.store.Distinct) {now : Instant} {limit : UInt32} :
    Counted before (s.claim n now limit) := by
  have hlog : ∀ {id}, failedAttempts id (before id)
      (.claimed n (s.store.claimed now limit) :: s.log) = failedAttempts id (before id) s.log :=
    failedAttempts_cons_of_not_fails rfl rfl
  refine ⟨fun {id} hid => ?_, fun {id row'} hrow' hs => ?_, fun {m x} hx => ?_⟩
  · rw [Scene.claim, Store.getItem?_claimDue hd, Option.map_eq_none_iff] at hid
    exact hlog.trans (h.known hid)
  · rw [Scene.claim, Store.getItem?_claimDue hd, Option.map_eq_some_iff] at hrow'
    obtain ⟨row, hrow, rfl⟩ := hrow'
    refine hlog.trans ?_
    rw [Store.claimRow] at hs ⊢
    split at hs
    · cases hs
    · rename_i hout
      rw [if_neg hout]
      exact h.waiting hrow hs
  · refine hlog.trans ?_
    rw [Scene.stages_claim] at hx ⊢
    split at hx
    · rename_i hm
      obtain ⟨row, hrow, hdue, rfl⟩ := Store.mem_claimed hd hx
      rw [if_pos hm, Stage.failures_of_not_failed rfl]
      exact (h.waiting hrow (Store.pending_of_isDue hdue) :)
    · rename_i hm
      rw [if_neg hm]
      exact h.todo hx

/-- A worker writes the present item back, with all failed attempts where it is to wait. -/
theorem report (h : Counted before s) (hc : Custody s) {x : QueueItem}
    (hx : (s.stages n).item? = some x) {f : QueueItem → QueueItem} (hf : KeepsId f)
    (hrow : (f x).status = .pending → (f x).attempts.toInt = (s.stages n).failures x)
    (ht : t.todo ⊆ (s.stages n).todo.tail) (ht' : t.failed = false) :
    Counted before (s.report n x.id f t) := by
  have hsmooth : ∀ d ∈ s.reported n x.id, d.Smooth := by
    intro d hd
    rw [Scene.eq_of_mem_reported hd]
    exact fun _ => ⟨rfl, rfl⟩
  have hheld := hc.mem_held_of_item? hx
  refine ⟨fun {id} hid => ?_, fun {id row'} hrow' hs => ?_, fun {m y} hy => ?_⟩
  · rw [Scene.report, Store.getItem?_change hc.distinct hf, Option.map_eq_none_iff] at hid
    exact (failedAttempts_append hsmooth).trans (h.known hid)
  · rw [Scene.report, Store.getItem?_change hc.distinct hf, Option.map_eq_some_iff] at hrow'
    obtain ⟨row, hget, rfl⟩ := hrow'
    refine (failedAttempts_append hsmooth).trans ?_
    have hid := Store.id_of_getItem? hget
    by_cases hin : row.isIn x.id .processing = true
    · -- the row that is written back is the one that the worker knows
      have hsame : x = row := by
        have hxrow := hc.row hheld
        rw [← (isIn_iff.mp hin).1, hid, hget] at hxrow
        exact (Option.some.inj hxrow).symm
      subst hsame
      rw [changeIn_of_isIn hin] at hs ⊢
      rw [hrow hs, ← h.todo (Stage.todo_of_item? hx ▸ List.mem_cons_self), hid]
    · rw [changeIn_of_not_isIn hin] at hs ⊢
      exact h.waiting hget hs
  · refine (failedAttempts_append hsmooth).trans ?_
    rw [Scene.stages_report] at hy ⊢
    split at hy
    · rename_i hm
      subst hm
      have hin := ht hy
      rw [if_pos rfl, Stage.failures_of_not_failed ht', h.todo (List.mem_of_mem_tail hin)]
      refine Stage.failures_of_item?_ne fun he => hc.tail_ne hx hin ?_
      rw [Option.some.inj (hx.symm.trans he)]
    · rename_i hm
      rw [if_neg hm]
      exact h.todo hy

/-- The store changes from outside, and what comes to wait there is new. -/
theorem visit (h : Counted before s) {store : Store}
    (hknown : ∀ {id}, store.getItem? id = none → s.store.getItem? id = none)
    (hwaiting : ∀ {id row}, store.getItem? id = some row → s.store.getItem? id = some row ∨
      s.store.getItem? id = none ∧ row.attempts = 0) : Counted before (s.visit store []) where
  known := fun hid => h.known (hknown hid)
  waiting := by
    intro id row hrow hs
    rcases hwaiting hrow with hrow | ⟨hnone, hzero⟩
    · exact h.waiting hrow hs
    · rw [hzero]
      exact h.known hnone
  todo := h.todo

/-- An item that is put on its way again starts anew. -/
theorem requeue (h : Counted before s) (hc : Custody s) (now : Instant) (id : Uuid) :
    Counted before (s.visit (s.store.requeue now id)
      (if (s.store.findIn? id .failed).isSome then [.requeued id] else [])) := by
  have hd := hc.distinct
  have hf := Store.keepsId_requeue now
  cases hfind : s.store.findIn? id .failed with
  | none =>
      rw [Store.requeue_eq_change, Store.change_of_findIn?_eq_none _ hfind]
      exact h
  | some found =>
      -- the row that starts anew is nobody's
      rw [hd.findIn?_eq, Option.filter_eq_some_iff] at hfind
      have hfailed := of_decide_eq_true hfind.2
      have hother : ∀ {k}, k ≠ id → failedAttempts k (before k) (.requeued id :: s.log) =
          failedAttempts k (before k) s.log :=
        fun hk => failedAttempts_cons_of_not_fails (decide_eq_false fun e => hk e.symm) rfl
      refine ⟨fun {k} hk => ?_, fun {k row'} hrow' hs => ?_, fun {m x} hx => ?_⟩
      · rw [Scene.visit, Store.requeue_eq_change, Store.getItem?_change hd hf,
          Option.map_eq_none_iff] at hk
        have hne : k ≠ id := by
          rintro rfl
          cases hk.symm.trans hfind.1
        exact (hother hne).trans (h.known hk)
      · rw [Scene.visit, Store.requeue_eq_change, Store.getItem?_change hd hf,
          Option.map_eq_some_iff] at hrow'
        obtain ⟨row, hrow, rfl⟩ := hrow'
        show failedAttempts k (before k) (.requeued id :: s.log) = _
        by_cases hk : k = id
        · subst hk
          have hin : row.isIn k .failed = true := by
            rw [Option.some.inj (hrow.symm.trans hfind.1)]
            exact isIn_iff.mpr ⟨Store.id_of_getItem? hfind.1, hfailed⟩
          have hstart : Deed.requeues k (.requeued k) = true := decide_eq_true rfl
          rw [changeIn_of_isIn hin, failedAttempts, if_pos hstart]
          rfl
        · have hout : ¬row.isIn id .failed = true :=
            fun hin => hk ((Store.id_of_getItem? hrow).symm.trans (isIn_iff.mp hin).1)
          rw [changeIn_of_not_isIn hout] at hs ⊢
          exact (hother hk).trans (h.waiting hrow hs)
      · have hne : x.id ≠ id := by
          intro he
          have hheld := hc.mem_held hx
          obtain rfl := Option.some.inj (hfind.1.symm.trans (he ▸ hc.row hheld))
          cases hfailed.symm.trans (hc.processing hheld)
        exact (hother hne).trans (h.todo hx)

end Counted

/-- **With custody, the counts of attempts tell how many have failed**, by all that happens but
recoveries. -/
theorem Happens.counted {team : Nat → Worker} {before : Uuid → Int} {s s' : Scene}
    (hs : Happens team s s') (hc : Custody s) (h : Counted before s) : Counted before s' := by
  cases hs with
  | claim n now hs => exact h.claim hc.distinct
  | look n hs answer ha =>
      refine h.attempt hc (by rw [hs]; rfl) (by rw [hs]; rfl) rfl (by rw [hs]; rfl)
        (fun id => ?_) fun _ => rfl
      cases answer <;> simp [Deed.fails, Stage.failed]
  | send n hs hv he hm hp result =>
      refine h.attempt hc (by rw [hs]; rfl) (by rw [hs]; rfl) rfl (by rw [hs]; rfl)
        (fun id => ?_) fun _ => rfl
      cases result <;> simp [Deed.fails, Stage.failed]
  | succeed n now hs =>
      exact h.report hc (by rw [hs]; rfl) (Store.keepsId_succeed now) nofun
        (List.Subset.refl _) rfl
  | fail n now hr =>
      exact h.report hc hr.item? (Store.keepsId_fail now _) nofun (List.Subset.refl _) rfl
  | @putBack n now item rest setback read at_ wait t hs hl hw ha ht =>
      have hitem : (s.stages n).item? = some item := by rw [hs]; rfl
      have hnext := QueueItem.isSome_nextAttempt? hl
      refine h.report hc hitem (Store.keepsId_putBack now _ _) (fun _ => ?_) ?_ ?_
      · rw [(Store.waits_putBack hnext now setback.reason at_).attempts,
          Stage.failures_of_item? hitem, hs]
        rfl
      · rcases ht with rfl | rfl
        · exact List.Subset.refl _
        · exact List.nil_subset _
      · rcases ht with rfl | rfl <;> rfl
  | lose n =>
      refine h.advance (t := .ended _) (fun x hx => ?_) (List.forall_mem_nil _)
      refine ⟨List.mem_of_mem_tail hx, (Stage.failures_of_not_failed rfl).trans ?_⟩
      exact (Stage.failures_of_item?_ne fun he => hc.tail_ne he hx rfl).symm
  | pass n ht =>
      exact h.advance (fun x hx => ⟨ht.todo.subset hx, ht.failures hx⟩) (List.forall_mem_nil _)
  | enqueue now hf =>
      refine h.visit (fun {id} hid => ?_) fun {id row} hrow => ?_
      · rw [Store.getItem?_enqueueBatch, Option.or_eq_none_iff] at hid
        exact hid.1
      · rw [Store.getItem?_enqueueBatch, Option.or_eq_some_iff] at hrow
        refine hrow.imp_right fun ⟨hnone, hnew⟩ => ⟨hnone, ?_⟩
        obtain ⟨item, -, rfl⟩ := Option.map_eq_some_iff.mp hnew
        rfl
  | requeue now id => exact h.requeue hc now id
  | edit hi =>
      refine h.visit (fun {id} hid => ?_) fun {id row} hrow => .inl ?_
      · exact (Store.getItem?_of_items hi id).symm.trans hid
      · exact (Store.getItem?_of_items hi id).symm.trans hrow

end Courier
