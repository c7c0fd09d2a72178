import Courier.Proofs.Crew.Reach
import Courier.Proofs.Queue.Line

/-!
# Proofs — Crew — Lined

Workers that take turns over a queue to which nothing comes back.  The queue stays a line, and the
senders are called in its order.

* `Stage.ahead`: the items for which a worker may still call a sender.
* `Lined`: what was sent, and then what a worker has ahead of it, stands in this order among the
  rows that no longer wait.
* `Happens.lined`: all that happens preserves it, as long as no row comes back.
-/

namespace Courier

/-- The item for which a sender was called. -/
def Deed.sentItem? : Deed → Option QueueItem
  | sent _ item _ _ _ => some item
  | _ => none

/-- The items for which senders were called, in the order of the calls. -/
def sendsOf (log : List Deed) : List QueueItem := log.reverse.filterMap Deed.sentItem?

/-- What is done later is sent later. -/
theorem sendsOf_append (deeds log : List Deed) :
    sendsOf (deeds ++ log) = sendsOf log ++ sendsOf deeds := by
  rw [sendsOf, List.reverse_append, List.filterMap_append, sendsOf, sendsOf]

namespace Stage

/-- The items for which a sender may still be called. -/
def ahead : Stage → List QueueItem
  | start => []
  | claimed items => items
  | ready items => items
  | looked item rest _ => item :: rest
  | tried _ rest _ _ => rest
  | timed _ rest _ _ => rest
  | ended rest => rest

/-- When the present item is done with, the others are still ahead. -/
theorem tail_todo_sublist_ahead (s : Stage) : s.todo.tail.Sublist s.ahead := by
  cases s with
  | start => exact .slnil
  | claimed items => exact items.tail_sublist
  | ready items => exact items.tail_sublist
  | looked item rest answer => exact List.sublist_cons_self item rest
  | tried item rest channel result => exact .refl rest
  | timed item rest setback now => exact .refl rest
  | ended rest => exact rest.tail_sublist

theorem ahead_count (s : Stage) : s.count.ahead = s.ahead := by cases s <;> rfl

/-- While time passes, no more items may still be sent. -/
theorem ahead_time (s : Stage) (now : Instant) : (s.time now).ahead.Sublist s.ahead := by
  rw [time]
  split
  · exact s.tail_todo_sublist_ahead
  · exact .refl _

end Stage

/-- When a worker goes on, no more items may still be sent. -/
theorem Passes.ahead {s t : Stage} (h : Passes s t) : t.ahead.Sublist s.ahead := by
  cases h with
  | stay => exact .refl _
  | stop => exact List.nil_sublist _
  | count => exact s.ahead_count ▸ .refl _
  | time now => exact s.ahead_time now

namespace Store

/-- No row goes back to wait. -/
def Onward (s s' : Store) : Prop :=
  ∀ {id row row'}, s.getItem? id = some row → row.status ≠ .pending →
    s'.getItem? id = some row' → row'.status ≠ .pending

variable {s : Store} {done waiting : List QueueItem}

/-- A map over the rows that leaves those that wait. -/
theorem Line.map_onward (h : s.Line done waiting) (hd : s.Distinct) {s' : Store}
    {g : QueueItem → QueueItem} (hitems : s'.items = s.items.map g) (hid : KeepsId g)
    (hkept : ∀ row, row.status = .pending → g row = row) (ho : s.Onward s') :
    s'.Line (done.map g) waiting := by
  refine h.map hitems hkept fun row hrow => ?_
  have hget : s.getItem? row.id = some row :=
    hd.getItem?_of_mem (h.items ▸ List.mem_append_left waiting hrow)
  have hget' : s'.getItem? row.id = some (g row) := by
    rw [getItem?, hitems, find?_map_of_keepsId hid]
    exact congrArg (Option.map g) hget
  exact ho hget (h.past row hrow) hget'

/-- A step from another status leaves a line. -/
theorem Line.change (h : s.Line done waiting) (hd : s.Distinct) {f : QueueItem → QueueItem}
    (hf : KeepsId f) (id : Uuid) {status : QueueStatus} (hs : status ≠ .pending)
    (ho : s.Onward (s.change id status f)) :
    (s.change id status f).Line (done.map (QueueItem.changeIn id status f)) waiting := by
  refine h.map_onward hd (changeFirst_eq_map hd id status f) (hf.changeIn id status) ?_ ho
  exact fun row hrow => changeIn_of_not_isIn fun hin => hs ((isIn_iff.mp hin).2.symm.trans hrow)

end Store

/-- Only one worker at a time has a batch. -/
def Scene.Solo (s : Scene) : Prop :=
  ∀ {m n}, s.stages m ≠ .start → s.stages n ≠ .start → m = n

/-- The queue is a line, and what was sent, with what a worker has ahead of it, is in its order. -/
structure Lined (s : Scene) (now : Instant) (done waiting : List QueueItem) : Prop where
  distinct : s.store.Distinct
  line : s.store.Line done waiting
  due : ∀ row ∈ waiting, row.nextAttemptAt.le now = true
  order : ∀ n, ((sendsOf s.log ++ (s.stages n).ahead).map (·.id)).Sublist (done.map (·.id))

namespace Lined

variable {team : Nat → Worker} {s : Scene} {now : Instant} {done waiting : List QueueItem} {n : Nat}

/-- Nothing is sent and nothing waits at first. -/
theorem first {store : Store} (h : store.items = []) (now : Instant) :
    Lined (.first store) now [] [] where
  distinct := by
    rw [Store.Distinct, Store.ids]
    show (store.items.map _).Nodup
    rw [h]
    exact List.nodup_nil
  line := ⟨h, List.forall_mem_nil _, List.forall_mem_nil _, .nil⟩
  due := List.forall_mem_nil _
  order := fun _ => .slnil

/-- Time that passes leaves the order of the queue. -/
theorem wait (h : Lined s now done waiting) {later : Instant} (hl : now.le later = true) :
    Lined s later done waiting :=
  ⟨h.distinct, h.line, fun row hrow => Instant.le_trans (h.due row hrow) hl, h.order⟩

/-- What was sent is in order. -/
theorem sent (h : Lined s now done waiting) :
    ((sendsOf s.log).map (·.id)).Sublist (done.map (·.id)) :=
  ((List.sublist_append_left _ _).map _).trans (h.order 0)

/-- The store changes, and the senders do not notice. -/
theorem keep (h : Lined s now done waiting) {s' : Scene} {done' waiting' : List QueueItem}
    (hd : s'.store.Distinct) (hline : s'.store.Line done' waiting')
    (hdue : ∀ row ∈ waiting', row.nextAttemptAt.le now = true)
    (hsent : sendsOf s'.log = sendsOf s.log)
    (hahead : ∀ m, (s'.stages m).ahead.Sublist (s.stages m).ahead)
    (hids : (done.map (·.id)).Sublist (done'.map (·.id))) : Lined s' now done' waiting' := by
  refine ⟨hd, hline, hdue, fun m => ?_⟩
  rw [hsent]
  exact ((((List.Sublist.refl _).append (hahead m)).map _).trans (h.order m)).trans hids

/-- A worker goes on, and no sender was called. -/
theorem advance (h : Lined s now done waiting) {t : Stage} {deeds : List Deed}
    (ht : t.ahead.Sublist (s.stages n).ahead) (hdeeds : sendsOf deeds = []) :
    Lined (s.advance n t deeds) now done waiting := by
  refine h.keep h.distinct h.line h.due ?_ (fun m => ?_) (.refl _)
  · show sendsOf (deeds ++ s.log) = sendsOf s.log
    rw [sendsOf_append, hdeeds, List.append_nil]
  · by_cases hm : m = n
    · rw [Scene.stages_advance, if_pos hm, hm]
      exact ht
    · rw [Scene.stages_advance, if_neg hm]

/-- A worker reports the end of an attempt. -/
theorem report (h : Lined s now done waiting) {id : Uuid} {f : QueueItem → QueueItem} {t : Stage}
    (hf : KeepsId f) (ht : t.ahead.Sublist (s.stages n).ahead)
    (ho : s.store.Onward (s.store.change id .processing f)) :
    Lined (s.report n id f t) now (done.map (QueueItem.changeIn id .processing f)) waiting := by
  refine h.keep (h.distinct.change hf id .processing) (h.line.change h.distinct hf id nofun ho)
    h.due ?_ (fun m => ?_) (by rw [map_id_map (hf.changeIn id .processing)])
  · show sendsOf (s.reported n id ++ s.log) = sendsOf s.log
    have hreported : sendsOf (s.reported n id) = [] := by
      rw [Scene.reported]
      split <;> rfl
    rw [sendsOf_append, hreported, List.append_nil]
  · by_cases hm : m = n
    · rw [Scene.stages_report, if_pos hm, hm]
      exact ht
    · rw [Scene.stages_report, if_neg hm]

/-- The store changes from outside. -/
theorem visit (h : Lined s now done waiting) {store : Store} {deeds : List Deed}
    {done' waiting' : List QueueItem} (hd : store.Distinct) (hline : store.Line done' waiting')
    (hdue : ∀ row ∈ waiting', row.nextAttemptAt.le now = true) (hdeeds : sendsOf deeds = [])
    (hids : (done.map (·.id)).Sublist (done'.map (·.id))) :
    Lined (s.visit store deeds) now done' waiting' := by
  refine h.keep hd hline hdue ?_ (fun m => .refl _) hids
  show sendsOf (deeds ++ s.log) = sendsOf s.log
  rw [sendsOf_append, hdeeds, List.append_nil]

/-- Something beside the queue changes. -/
theorem edit (h : Lined s now done waiting) {store : Store} (hi : store.items = s.store.items) :
    Lined (s.visit store []) now done waiting :=
  h.visit (h.distinct.of_items hi) (h.line.of_items hi) h.due rfl (.refl _)

/-- New items come in. -/
theorem enqueue (h : Lined s now done waiting) {items : List NewItem} (hf : s.store.Fresh items) :
    Lined (s.visit (s.store.enqueueBatch now items) []) now done
      (waiting ++ items.map (·.enter now)) := by
  refine h.visit (h.distinct.enqueueBatch hf now) (h.line.enqueueBatch h.due items)
    (fun row hrow => ?_) rfl (.refl _)
  rcases List.mem_append.mp hrow with hrow | hrow
  · exact h.due row hrow
  · obtain ⟨item, -, rfl⟩ := List.mem_map.mp hrow
    exact Instant.le_refl now

/-- A worker takes the first of those that wait. -/
theorem claim (h : Lined s now done waiting) (n : Nat) (at_ : Instant) (limit : UInt32) :
    ∃ done' waiting', Lined (s.claim n at_ limit) now done' waiting' := by
  refine ⟨_, _, h.distinct.claimDue at_ limit, h.line.claimDue h.distinct, fun row hrow => ?_,
    fun m => ?_⟩
  · exact h.due row (List.mem_of_mem_drop hrow)
  · show ((sendsOf (.claimed n _ :: s.log) ++ _).map _).Sublist _
    have hsent : sendsOf (.claimed n (s.store.claimed at_ limit) :: s.log) = sendsOf s.log := by
      rw [← List.singleton_append, sendsOf_append]
      exact List.append_nil _
    rw [hsent, List.map_append, List.map_append, Scene.stages_claim]
    by_cases hm : m = n
    · rw [if_pos hm, ← h.line.claimed]
      exact h.sent.append (.refl _)
    · rw [if_neg hm, ← List.map_append]
      exact (h.order m).trans (List.sublist_append_left _ _)

/-- A sender is called for the item that is next, and nobody else has a batch. -/
theorem send (h : Lined s now done waiting) (hsolo : s.Solo) {item : QueueItem}
    {rest : List QueueItem} {channel : Channel}
    (hs : s.stages n = .looked item rest (.ok (some channel))) (place : Nat)
    (notification : Notification) (result : Except SendError Unit) :
    Lined (s.advance n (.tried item rest channel result) [.sent n item place notification result])
      now done waiting := by
  refine ⟨h.distinct, h.line, h.due, fun m => ?_⟩
  have hn := h.order n
  have hsent : sendsOf (.sent n item place notification result :: s.log) =
      sendsOf s.log ++ [item] := by
    rw [← List.singleton_append, sendsOf_append]
    rfl
  rw [hs] at hn
  show ((sendsOf (.sent n item place notification result :: s.log) ++ _).map _).Sublist _
  rw [hsent, Scene.stages_advance, List.append_assoc]
  by_cases hm : m = n
  · rw [if_pos hm]
    exact hn
  · have hstart : s.stages m = .start :=
      Classical.byContradiction fun hne => hm (hsolo hne (by rw [hs]; exact nofun))
    rw [if_neg hm, hstart]
    exact (((List.Sublist.refl _).append (List.singleton_sublist.mpr List.mem_cons_self)).map
      _).trans hn

end Lined

/-- **All that happens leaves a line in which the senders are called in order,** if workers take
turns, no row comes back and none comes in. -/
theorem Happens.lined {team : Nat → Worker} {s s' : Scene} {now : Instant}
    {done waiting : List QueueItem} (hs : Happens team s s') (h : Lined s now done waiting)
    (hsolo : s.Solo) (ho : s.store.Onward s'.store) (hids : s'.store.ids = s.store.ids) :
    ∃ done' waiting', Lined s' now done' waiting' := by
  cases hs with
  | claim n at_ => exact h.claim n at_ _
  | look n hs answer => exact ⟨_, _, h.advance (by rw [hs]; exact .refl _) rfl⟩
  | send n hs hv he hm hp result => exact ⟨_, _, h.send hsolo hs _ _ result⟩
  | succeed n at_ hs =>
      exact ⟨_, _, h.report (Store.keepsId_succeed at_) (s.stages n).tail_todo_sublist_ahead ho⟩
  | fail n at_ hr =>
      exact ⟨_, _, h.report (Store.keepsId_fail at_ _) (s.stages n).tail_todo_sublist_ahead ho⟩
  | putBack n at_ hs hl hw ha ht =>
      refine ⟨_, _, h.report (Store.keepsId_putBack at_ _ _) ?_ ho⟩
      rcases ht with rfl | rfl
      · exact (s.stages n).tail_todo_sublist_ahead
      · exact List.nil_sublist _
  | lose n => exact ⟨_, _, h.advance (s.stages n).tail_todo_sublist_ahead rfl⟩
  | pass n ht => exact ⟨_, _, h.advance ht.ahead rfl⟩
  | @enqueue at_ items hf =>
      -- nothing comes in
      have hnone : items = [] := by
        have hlength := congrArg List.length (Store.ids_enqueueBatch s.store at_ items)
        rw [show (s.store.enqueueBatch at_ items).ids = s.store.ids from hids] at hlength
        simpa using hlength
      have hsame : (s.store.enqueueBatch at_ items).items = s.store.items := by
        rw [hnone]
        exact List.append_nil _
      exact ⟨_, _, h.edit hsame⟩
  | requeue at_ id =>
      have hf := Store.keepsId_requeue at_
      refine ⟨_, _, h.visit (h.distinct.change hf id .failed)
        (h.line.change h.distinct hf id nofun ho) h.due (by split <;> rfl) ?_⟩
      rw [map_id_map (hf.changeIn id .failed)]
  | edit hi => exact ⟨_, _, h.edit hi⟩

/-- So does a recovery, if it brings no row back. -/
theorem Lined.recover {s : Scene} {now : Instant} {done waiting : List QueueItem}
    (h : Lined s now done waiting) {at_ olderThan : Instant}
    (ho : s.store.Onward (s.store.recoverStale at_ olderThan)) :
    ∃ done' waiting', Lined (s.recover at_ olderThan) now done' waiting' := by
  have hf := Store.keepsId_recoverRow at_ olderThan
  have hd : (s.store.recoverStale at_ olderThan).Distinct := by
    rw [Store.Distinct, Store.ids_recoverStale]
    exact h.distinct
  have hkept : ∀ row : QueueItem,
      row.status = .pending → Store.recoverRow at_ olderThan row = row :=
    fun row hrow => if_neg fun hstale => by simp [QueueItem.isStale, hrow] at hstale
  have hline : (s.store.recoverStale at_ olderThan).Line
      (done.map (Store.recoverRow at_ olderThan)) waiting :=
    h.line.map_onward h.distinct rfl hf hkept ho
  exact ⟨_, _, h.visit hd hline h.due rfl (by rw [map_id_map hf])⟩

/-! ### No worker brings items -/

/-- Only arrivals bring items. -/
theorem Crew.Kept.ids_step {team : Nat → Worker} {c : Crew} (h : c.Kept team) {m : Move}
    (hm : ∀ items, m ≠ .enqueue items) : (c.step team m).world.store.ids = c.world.store.ids := by
  have hnews : m.news = [] := by
    cases m with
    | enqueue items => exact absurd rfl (hm items)
    | _ => rfl
  rw [h.ids_step_eq, hnews, List.map_nil, List.append_nil]

end Courier
