import Courier.Proofs.Crew.Custody
import Courier.Proofs.Queue.Attempts

/-!
# Proofs — Crew — Budget

How often an item is claimed.

* `Budget`: the claims since an item came or was requeued are its failed attempts and the open or
  last one.  With `Custody` it is an invariant of all that happens but recoveries
  (`Happens.budget`): the bound is enforced on what a worker knows of an item, and the count goes up
  on its row.
* `attempts_within_budget`: in every run from an empty queue without recoveries no item is tried
  beyond its budget, and no count of attempts ends.
-/

namespace Courier

/-- How often an item was claimed since it was last requeued. -/
def claimsSince (id : Uuid) : List Deed → Nat
  | [] => 0
  | .requeued k :: log => if k = id then 0 else claimsSince id log
  | d :: log => (if d.claims id then 1 else 0) + claimsSince id log

/-- An item that was claimed so often has its attempts in order. -/
structure InBudget (claims : Nat) (row : QueueItem) : Prop where
  within : row.Within
  /-- The claims are the failed attempts and, unless the item waits, one more. -/
  count : (claims : Int) = row.attempts.toInt + if row.status = .pending then 0 else 1

namespace InBudget

variable {claims : Nat} {row : QueueItem}

/-- An item is claimed no more often than its budget allows. -/
theorem le_budget (h : InBudget claims row) : (claims : Int) ≤ row.budget := by
  -- without the open claim there is one to spare
  have hcount := h.count
  have hwithin := h.within.2
  split at hcount <;> omega

/-- A claim counts as one more. -/
theorem claim (h : InBudget claims row) (hs : row.status = .pending) (now : Instant) :
    InBudget (claims + 1) (row.claim now) := by
  have hcount := h.count
  rw [if_pos hs] at hcount
  refine ⟨h.within, ?_⟩
  show ((claims + 1 : Nat) : Int) = row.attempts.toInt + 1
  omega

/-- The row is no longer `processing` and was not put back. -/
theorem close (h : InBudget claims row) (hs : row.status = .processing) {row' : QueueItem}
    (ha : row'.attempts = row.attempts) (hm : row'.maxAttempts = row.maxAttempts)
    (hs' : row'.status ≠ .pending) : InBudget claims row' := by
  have hcount := h.count
  rw [hs, if_neg nofun] at hcount
  refine ⟨?_, ?_⟩
  · rw [QueueItem.Within, QueueItem.budget, ha, hm]
    exact h.within
  · rw [ha, if_neg hs']
    exact hcount

/-- An item that is put back has a failed attempt for each claim. -/
theorem putBack (h : InBudget claims row) (hs : row.status = .processing)
    (hl : row.isLastAttempt? = some false) (now : Instant) (error : String) (at_ : Instant) :
    InBudget claims (Store.putBack now error at_ row) := by
  -- the limit is above the count by more than one, and so above one
  have hnext := h.within.nextAttempt?
  have hcount := h.count
  rw [hs, if_neg nofun] at hcount
  have hrow : Store.putBack now error at_ row =
      { row with
        status := .pending, attempts := Int32.ofInt (row.attempts.toInt + 1),
        lastError := some error, nextAttemptAt := at_, updatedAt := now } := by
    rw [Store.putBack, QueueItem.retry?, hnext]
    rfl
  have hint := toInt_nextAttempt hnext
  have hlast := QueueItem.lt_of_isLastAttempt? hl
  have hlow := h.within.1
  rw [hrow]
  refine ⟨?_, ?_⟩
  · show 0 ≤ (Int32.ofInt _).toInt ∧ (Int32.ofInt _).toInt ≤ max row.maxAttempts.toInt 1 - 1
    omega
  · show (claims : Int) = (Int32.ofInt _).toInt + 0
    omega

/-- An item that is due for the first time. -/
theorem fresh (ha : row.attempts = 0) (hs : row.status = .pending) : InBudget 0 row := by
  refine ⟨?_, ?_⟩
  · rw [QueueItem.Within, QueueItem.budget, ha]
    show (0 : Int) ≤ 0 ∧ (0 : Int) ≤ _
    omega
  · rw [ha, if_pos hs]
    rfl

end InBudget

/-! ### Counting -/

/-- A claim counts for each item that it takes. -/
theorem claimsSince_claimed (id : Uuid) (n : Nat) (items : List QueueItem) (log : List Deed) :
    claimsSince id (.claimed n items :: log) =
      (if id ∈ items.map (·.id) then 1 else 0) + claimsSince id log := by
  simp [claimsSince, Deed.claims]

/-- A deed that neither claims nor requeues. -/
def Deed.Uncounted : Deed → Prop
  | claimed _ _ => False
  | requeued _ => False
  | _ => True

/-- Deeds that neither claim nor requeue do not count. -/
theorem claimsSince_append {deeds : List Deed} (hd : ∀ d ∈ deeds, d.Uncounted) (id : Uuid)
    (log : List Deed) : claimsSince id (deeds ++ log) = claimsSince id log := by
  induction deeds with
  | nil => rfl
  | cons d deeds ih =>
      have ih := ih fun e he => hd e (List.mem_cons_of_mem d he)
      have hq := hd d List.mem_cons_self
      cases d with
      | claimed n items => exact hq.elim
      | requeued k => exact hq.elim
      | _ => exact (Nat.zero_add _).trans ih

/-- Every row has its attempts in order, and what is not in the queue was not claimed. -/
structure Budget (s : Scene) : Prop where
  known : ∀ {id}, s.store.getItem? id = none → claimsSince id s.log = 0
  row : ∀ {id row}, s.store.getItem? id = some row → InBudget (claimsSince id s.log) row

namespace Budget

variable {s : Scene}

/-- An empty queue is within budget. -/
theorem first {store : Store} (h : store.items = []) : Budget (.first store) where
  known := fun _ => rfl
  row := by
    intro id row hrow
    simp [Store.getItem?, Scene.first, h] at hrow

/-- A worker that goes on claims nothing. -/
theorem advance (h : Budget s) {n : Nat} {t : Stage} {deeds : List Deed}
    (hd : ∀ d ∈ deeds, d.Uncounted) : Budget (s.advance n t deeds) where
  known := fun hid => (claimsSince_append hd _ _).trans (h.known hid)
  row := fun hrow => by
    rw [Scene.advance, claimsSince_append hd]
    exact h.row hrow

/-- A claim counts for the items that it takes. -/
theorem claim (h : Budget s) (hd : s.store.Distinct) {n : Nat} {now : Instant} {limit : UInt32} :
    Budget (s.claim n now limit) where
  known := by
    intro id hid
    have hnone : s.store.getItem? id = none := by
      rw [Scene.claim, Store.getItem?_claimDue hd, Option.map_eq_none_iff] at hid
      exact hid
    have hnot : id ∉ (s.store.claimed now limit).map (·.id) := by
      intro hin
      obtain ⟨x, hx, rfl⟩ := List.mem_map.mp hin
      obtain ⟨row, hrow, -⟩ := Store.mem_claimed hd hx
      exact nomatch hnone.symm.trans hrow
    rw [Scene.claim, claimsSince_claimed, if_neg hnot, h.known hnone]
  row := by
    intro id row' hrow'
    rw [Scene.claim, Store.getItem?_claimDue hd, Option.map_eq_some_iff] at hrow'
    obtain ⟨row, hrow, rfl⟩ := hrow'
    have hid := Store.id_of_getItem? hrow
    rw [Scene.claim, claimsSince_claimed, Store.claimRow, hid]
    by_cases hin : id ∈ (s.store.claimed now limit).map (·.id)
    · have hs : row.status = .pending := by
        by_contra hs
        exact Store.not_claimed hd hrow hs hin
      rw [if_pos hin, if_pos hin, Nat.add_comm]
      exact (h.row hrow).claim hs now
    · rw [if_neg hin, if_neg hin, Nat.zero_add]
      exact h.row hrow

/-- A worker writes the present item back, which leaves its attempts in order. -/
theorem report (h : Budget s) (hc : Custody s) {n : Nat} {x : QueueItem}
    (hx : (s.stages n).item? = some x) {f : QueueItem → QueueItem} (hf : KeepsId f)
    (hrow : ∀ {k}, x.status = .processing → InBudget k x → InBudget k (f x)) {t : Stage} :
    Budget (s.report n x.id f t) := by
  have hq : ∀ d ∈ s.reported n x.id, d.Uncounted := by
    intro d hd
    rw [Scene.eq_of_mem_reported hd]
    trivial
  have hheld := hc.mem_held_of_item? hx
  refine ⟨fun {id} hid => ?_, fun {id row'} hrow' => ?_⟩
  · rw [Scene.report, Store.getItem?_change hc.distinct hf, Option.map_eq_none_iff] at hid
    exact (claimsSince_append hq _ _).trans (h.known hid)
  · rw [Scene.report, Store.getItem?_change hc.distinct hf, Option.map_eq_some_iff] at hrow'
    obtain ⟨row, hget, rfl⟩ := hrow'
    rw [Scene.report, claimsSince_append hq]
    by_cases hin : row.isIn x.id .processing = true
    · -- the row that is written back is the one that the worker knows
      have hid := Store.id_of_getItem? hget
      have hsame : x = row := by
        have hxrow := hc.row hheld
        rw [← (isIn_iff.mp hin).1, hid, hget] at hxrow
        exact (Option.some.inj hxrow).symm
      rw [changeIn_of_isIn hin]
      exact hsame ▸ hrow (hc.processing hheld) (hsame ▸ h.row hget)
    · rw [changeIn_of_not_isIn hin]
      exact h.row hget

/-- New items were not claimed before. -/
theorem enqueue (h : Budget s) {now : Instant} {items : List NewItem} :
    Budget (s.visit (s.store.enqueueBatch now items) []) where
  known := by
    intro id hid
    rw [Scene.visit, Store.getItem?_enqueueBatch, Option.or_eq_none_iff] at hid
    exact h.known hid.1
  row := by
    intro id row hrow
    rw [Scene.visit, Store.getItem?_enqueueBatch, Option.or_eq_some_iff] at hrow
    rcases hrow with hrow | ⟨hnone, hnew⟩
    · exact h.row hrow
    · obtain ⟨item, -, rfl⟩ := Option.map_eq_some_iff.mp hnew
      show InBudget (claimsSince id s.log) _
      rw [h.known hnone]
      exact .fresh rfl rfl

/-- The count starts anew with an item that is put on its way again. -/
theorem requeue (h : Budget s) (hd : s.store.Distinct) (now : Instant) (id : Uuid) :
    Budget (s.visit (s.store.requeue now id)
      (if (s.store.findIn? id .failed).isSome then [.requeued id] else [])) := by
  have hf := Store.keepsId_requeue now
  cases hfind : s.store.findIn? id .failed with
  | none =>
      rw [Store.requeue_eq_change, Store.change_of_findIn?_eq_none _ hfind]
      exact h
  | some found =>
      have hcount : ∀ k, claimsSince k (.requeued id :: s.log) =
          if id = k then 0 else claimsSince k s.log := fun _ => rfl
      refine ⟨fun {k} hk => ?_, fun {k row'} hrow' => ?_⟩
      · rw [Scene.visit, Store.requeue_eq_change, Store.getItem?_change hd hf,
          Option.map_eq_none_iff] at hk
        show claimsSince k (.requeued id :: s.log) = 0
        rw [hcount, h.known hk, ite_self]
      · rw [Scene.visit, Store.requeue_eq_change, Store.getItem?_change hd hf,
          Option.map_eq_some_iff] at hrow'
        obtain ⟨row, hrow, rfl⟩ := hrow'
        show InBudget (claimsSince k (.requeued id :: s.log)) _
        have hid := Store.id_of_getItem? hrow
        by_cases hk : id = k
        · rw [hd.findIn?_eq, hk, hrow, Option.filter_eq_some_iff] at hfind
          have hfailed := of_decide_eq_true (Option.some.inj hfind.1 ▸ hfind.2)
          rw [hcount, if_pos hk, changeIn_of_isIn (isIn_iff.mpr ⟨hid.trans hk.symm, hfailed⟩)]
          exact .fresh rfl rfl
        · rw [hcount, if_neg hk,
            changeIn_of_not_isIn fun hin => hk ((isIn_iff.mp hin).1.symm.trans hid)]
          exact h.row hrow

end Budget

/-- **With custody, the attempts stay in order**, by all that happens but recoveries. -/
theorem Happens.budget {team : Nat → Worker} {s s' : Scene} (hs : Happens team s s')
    (hc : Custody s) (h : Budget s) : Budget s' := by
  cases hs with
  | claim n now hs => exact h.claim hc.distinct
  | look n hs answer ha => exact h.advance (List.forall_mem_singleton.mpr trivial)
  | send n hs hv he hm hp result => exact h.advance (List.forall_mem_singleton.mpr trivial)
  | succeed n now hs =>
      exact h.report hc (by rw [hs]; rfl) (Store.keepsId_succeed now) fun hx hb =>
        hb.close hx rfl rfl nofun
  | fail n now hr =>
      exact h.report hc hr.item? (Store.keepsId_fail now _) fun hx hb =>
        hb.close hx rfl rfl nofun
  | putBack n now hs hl hw ha ht =>
      exact h.report hc (by rw [hs]; rfl) (Store.keepsId_putBack now _ _) fun hx hb =>
        hb.putBack hx hl now _ _
  | lose n => exact h.advance (List.forall_mem_nil _)
  | pass n ht => exact h.advance (List.forall_mem_nil _)
  | enqueue now hf => exact h.enqueue
  | requeue now id => exact h.requeue hc.distinct now id
  | edit hi =>
      refine ⟨fun hid => ?_, fun hrow => ?_⟩
      · rw [Scene.visit, Store.getItem?_of_items hi] at hid
        exact h.known hid
      · rw [Scene.visit, Store.getItem?_of_items hi] at hrow
        exact h.row hrow

/-! ### Every run without recoveries -/

/-- In a run from an empty queue items are in custody and within budget. -/
theorem Run.custody_and_budget {team : Nat → Worker} {w : World} {c : Crew}
    (h : Run team Calm w c) (he : w.store.items = []) : Custody c.scene ∧ Budget c.scene := by
  have hd : w.store.Distinct := by
    rw [Store.Distinct, Store.ids, he]
    exact List.nodup_nil
  refine h.scene_induction (I := fun s => Custody s ∧ Budget s) ⟨.first hd, .first he⟩ ?_ ?_
  · exact fun hs ih => ⟨hs.custody ih.1, hs.budget ih.1 ih.2⟩
  · exact fun hr _ => hr.elim

/-- No item is tried beyond its budget, and no count of attempts ends. -/
structure WithinBudget (c : Crew) : Prop where
  /-- The failed attempts leave room for one more. -/
  attempts : ∀ {row}, row ∈ c.world.store.items →
    0 ≤ row.attempts.toInt ∧ row.attempts.toInt ≤ max row.maxAttempts.toInt 1 - 1
  /-- An item is claimed no more often than its limit allows since it came or was requeued. -/
  claims : ∀ {row}, row ∈ c.world.store.items →
    (claimsSince row.id c.log : Int) ≤ max row.maxAttempts.toInt 1
  /-- Whether an attempt is the last has an answer for all that a worker is still to process. -/
  last : ∀ {n x}, x ∈ (c.desks n).stage.todo → x.isLastAttempt?.isSome = true
  /-- The store can put every item back. -/
  retry : ∀ id, c.world.store.canRetry id = true

/-- **From an empty queue no item is tried beyond its budget**, whatever its limit, whatever the
senders answer and whichever calls of the store fail, and no count of attempts ends. -/
theorem attempts_within_budget {team : Nat → Worker} {w : World} {c : Crew}
    (he : w.store.items = []) (h : Run team Calm w c) : WithinBudget c := by
  obtain ⟨hc, hb⟩ := h.custody_and_budget he
  have hrow : ∀ {row}, row ∈ c.world.store.items → InBudget (claimsSince row.id c.log) row :=
    fun hin => hb.row (hc.distinct.getItem?_of_mem hin)
  refine ⟨fun hin => (hrow hin).within, fun hin => (hrow hin).le_budget, fun hx => ?_,
    fun id => Store.canRetry_iff.mpr fun row hfind => ?_⟩
  · exact (hb.row (hc.row (hc.mem_held hx))).within.isSome_isLastAttempt?
  · rw [(hrow (List.mem_of_find?_eq_some hfind)).within.nextAttempt?, Option.isSome_some]

/-- A message with a negative limit that is sent once. -/
theorem sample_within_budget :
    let c := ((Sample.loaded (-3)).step Sample.team (.begin 0)).proceeds Sample.team 0 4
    claimsSince (Sample.id 3) c.log = 1 ∧ WithinBudget c :=
  ⟨rfl, attempts_within_budget (w := Sample.world) rfl
    (.proceeds (.step (Sample.run_loaded Calm _ fun _ _ => trivial) (.begin 0) trivial trivial) 0 4
      fun _ => trivial)⟩

end Courier
