import Courier.Proofs.Delivery.Stage
import Courier.Proofs.Queue.Attempts
import Courier.Proofs.Queue.Rows
import Courier.Proofs.World

/-!
# Proofs — Delivery — Batch

A batch over a store that answers every call.

* `Worker.pass?`: whether an item comes to an end, told from the channels, from what the senders are
  going to answer and from the clock.  All that can stop a worker is a failed attempt that waiting may
  mend, whose next attempt has no time or no number (`Worker.canPutOff`).
* `processBatch_settles_iff`: a batch ends with none of its items `processing` exactly if each of
  them comes to an end.
-/

namespace Courier

/-- What lies ahead: the answers of the senders, and the time. -/
structure Outlook where
  replies : Table Nat (List Reply)
  now : Instant

/-- What lies ahead in a world. -/
def World.outlook (w : World) : Outlook := ⟨w.replies, w.now⟩

namespace Worker

/-- The sender that gets the message of a payload for a channel. -/
def place? (w : Worker) (channel : Channel) (payload : Payload) : Option Nat :=
  match w.renderer.render channel.channelType payload with
  | .error _ => none
  | .ok _ => w.registry.sender? channel.channelType

/-- The sender that gets a message for the item; none when the item fails before. -/
def aim? (w : Worker) (s : Store) (item : QueueItem) : Option Nat :=
  match s.getChannel? item.channelId with
  | none => none
  | some channel =>
    if channel.verified ∧ channel.enabled then w.place? channel item.payload else none

/-- Whether the item can be put back, or fails because this was its last attempt. -/
def canPutOff (w : Worker) (item : QueueItem) (now : Instant) (retryAfter : Option Span) : Bool :=
  match item.isLastAttempt? with
  | none => false
  | some true => true
  | some false => ((w.wait? item retryAfter).bind (retryTime? now)).isSome

/-- Whether the store can be told how an attempt ended. -/
def canSettle (w : Worker) (item : QueueItem) (now : Instant) : Except SendError Unit → Bool
  | .ok () => true
  | .error e => !e.isRetryable || w.canPutOff item now e.retryAfter

/-- What lies ahead after a sender has answered; none when the worker does not get over it. -/
def hear? (w : Worker) (o : Outlook) (item : QueueItem) (sender : Nat) : Option Outlook :=
  let reply := (World.takeNext sender o.replies).1.getD .success
  match o.now.shift? reply.took.nanos with
  | none => none
  | some now =>
    bif w.canSettle item now reply.result then some ⟨(World.takeNext sender o.replies).2, now⟩
    else none

/-- What lies ahead after an item; none when the worker does not get over it. -/
def pass? (w : Worker) (s : Store) (o : Outlook) (item : QueueItem) : Option Outlook :=
  match w.aim? s item with
  | none => some o
  | some sender => w.hear? o item sender

/-- Whether the worker gets over all the items. -/
def clears (w : Worker) (s : Store) (o : Outlook) (items : List QueueItem) : Bool :=
  (items.foldlM (w.pass? s) o).isSome

end Worker

/-- The row of `id` is written back, if it is `processing`, and nothing else changes. -/
def Store.Closes (id : Uuid) (s s' : Store) : Prop :=
  ∃ f, KeepsId f ∧ (∀ row, (f row).status ≠ .processing) ∧ s' = s.change id .processing f

namespace Store.Closes

variable {id : Uuid} {s s' : Store}

theorem distinct (h : s.Closes id s') (hd : s.Distinct) : s'.Distinct := by
  obtain ⟨f, hf, -, rfl⟩ := h
  exact hd.change hf id .processing

/-- The rows under other identifiers stay as they are. -/
theorem getItem?_of_ne (h : s.Closes id s') (hd : s.Distinct) {k : Uuid} (hk : k ≠ id) :
    s'.getItem? k = s.getItem? k := by
  obtain ⟨f, hf, -, rfl⟩ := h
  exact getItem?_change_of_ne hd hf hk _

/-- The row that is written back is no longer `processing`. -/
theorem not_processing (h : s.Closes id s') (hd : s.Distinct) {row : QueueItem}
    (hrow : s'.getItem? id = some row) : row.status ≠ .processing := by
  obtain ⟨f, hf, hstatus, rfl⟩ := h
  rw [getItem?_change hd hf, Option.map_eq_some_iff] at hrow
  obtain ⟨before, hbefore, rfl⟩ := hrow
  by_cases hin : before.isIn id .processing = true
  · rw [changeIn_of_isIn hin]
    exact hstatus before
  · rw [changeIn_of_not_isIn hin]
    exact fun hs => hin (isIn_iff.mpr ⟨id_of_getItem? hbefore, hs⟩)

theorem getChannel? (h : s.Closes id s') (k : Uuid) : s'.getChannel? k = s.getChannel? k := by
  obtain ⟨f, -, -, rfl⟩ := h
  rfl

end Store.Closes

/-- Where a program leads that brings an item to its end. -/
def World.Leads {α : Type} (w : World) (p : Program α) (id : Uuid) : Option Outlook → Prop
  | none => (w.run p).2 = none
  | some o => ∃ w' a, w.run p = (w', some a) ∧ w'.faults = w.faults ∧ w'.outlook = o ∧
      Store.Closes id w.store w'.store

/-- A program that ends and that neither the store nor the senders notice. -/
def Program.Quiet {α : Type} (p : Program α) : Prop :=
  ∀ w : World, ∃ w' a, w.run p = (w', some a) ∧ w'.faults = w.faults ∧ w'.outlook = w.outlook ∧
    w'.store = w.store

section

variable {α β : Type}

theorem Program.quiet_done (a : α) : (Program.done a).Quiet :=
  fun w => ⟨w, a, rfl, rfl, rfl, rfl⟩

theorem Program.quiet_measure (m : Measurement) (a : α) :
    ((Program.measure m).bind fun _ => .done a).Quiet :=
  fun _ => ⟨_, a, rfl, rfl, rfl, rfl⟩

/-- What comes before an item's end may take time and messages, and leaves the store. -/
theorem World.Leads.of_run {w w' : World} {p q : Program α} {id : Uuid} {o : Option Outlook}
    (h : w'.Leads p id o) (hrun : w.run q = w'.run p) (hf : w'.faults = w.faults)
    (hs : w'.store = w.store) : w.Leads q id o := by
  cases o with
  | none => exact (congrArg Prod.snd hrun).trans h
  | some o =>
      obtain ⟨w'', a, hrun', hfaults, ho, hstore⟩ := h
      exact ⟨w'', a, hrun.trans hrun', hfaults.trans hf, ho, hs ▸ hstore⟩

/-- What leads an item to its end does so also when quiet steps follow. -/
theorem World.Leads.bind {w : World} {p : Program α} {f : α → Program β} {id : Uuid}
    {o : Option Outlook} (h : w.Leads p id o) (hf : ∀ a, (f a).Quiet) :
    w.Leads (p.bind f) id o := by
  cases o with
  | none => exact World.run_bind_none h f
  | some o =>
      obtain ⟨w', a, hrun, hfaults, ho, hstore⟩ := h
      obtain ⟨w'', b, hrun', hfaults', ho', hstore'⟩ := hf a w'
      exact ⟨w'', b, (World.run_bind_some hrun f).trans hrun', hfaults'.trans hfaults,
        ho'.trans ho, hstore'.symm ▸ hstore⟩

end

namespace Worker
open Program

variable {w : World} {worker : Worker} {item : QueueItem}

/-! ### One item -/

/-- To fail an item leads it to its end. -/
theorem fail_leads (hf : w.faults = .empty) (reason : String) :
    w.Leads (fail item reason) item.id (some w.outlook) := by
  refine ⟨_, (), World.run_call hf rfl _, rfl, rfl, ?_⟩
  exact ⟨_, Store.keepsId_fail w.now reason, fun _ => nofun, rfl⟩

/-- A report of an item whose row the worker knows does not break the store down. -/
theorem canRetry_of_row (hd : w.store.Distinct) (hrow : w.store.getItem? item.id = some item)
    {last : Bool} (hl : item.isLastAttempt? = some last) : w.store.canRetry item.id = true := by
  refine Store.canRetry_iff.mpr fun row hfind => ?_
  rw [hd.findIn?_eq, hrow, Option.filter_eq_some_iff] at hfind
  exact Option.some.inj hfind.1 ▸ QueueItem.isSome_nextAttempt? hl

/-- The item is put back, if there is a time for it. -/
theorem putBack_leads (hf : w.faults = .empty) (hcan : w.store.canRetry item.id = true)
    (error : String) (wait? : Option Span) :
    w.Leads ((orCrash wait?).bind fun wait => (request .clock).bind fun now =>
        (orCrash (retryTime? now wait)).bind fun at_ =>
          (call (.markForRetry item.id error at_)).bind fun _ => done Outcome.retry) item.id
      (bif (wait?.bind (retryTime? w.now)).isSome then some w.outlook else none) := by
  cases wait? with
  | none => simp only [World.run_orCrash_none, Option.bind_none, Option.isSome_none, cond_false,
      World.Leads]
  | some wait =>
      cases ht : retryTime? w.now wait with
      | none =>
          simp only [Option.bind_some, ht, Option.isSome_none, cond_false, World.Leads,
            World.run_orCrash_some]
          rw [World.run_clock, ht, World.run_orCrash_none]
      | some at_ =>
          simp only [Option.bind_some, ht, Option.isSome_some, cond_true, World.Leads,
            World.run_orCrash_some]
          rw [World.run_clock, ht, World.run_orCrash_some]
          have hanswer : (StoreCall.markForRetry item.id error at_).answer? w.now w.store =
              some () := if_pos hcan
          refine ⟨_, .retry, World.run_call hf hanswer _, rfl, rfl, _,
            Store.keepsId_putBack w.now error at_, fun row => ?_, rfl⟩
          exact Store.putBack_status w.now error at_ row ▸ nofun

/-- A failed attempt leads the item to its end, where the item can be put off or given up. -/
theorem retryOrFail_leads (hf : w.faults = .empty) (hd : w.store.Distinct)
    (hrow : w.store.getItem? item.id = some item) (error : String) (retryAfter : Option Span) :
    w.Leads (worker.retryOrFail item error retryAfter) item.id
      (bif worker.canPutOff item w.now retryAfter then some w.outlook else none) := by
  -- the wait is a power of floats, which is not to be evaluated
  simp only [canPutOff, retryOrFail, bind_eq_bind, pure_eq_done]
  generalize worker.wait? item retryAfter = wait?
  cases hl : item.isLastAttempt? with
  | none => simp only [World.Leads, World.run_orCrash_none, cond_false]
  | some last =>
      cases last with
      | true => exact (fail_leads hf _).bind fun _ => quiet_done _
      | false =>
          rw [orCrash_some_bind]
          simp only [Bool.false_eq_true, if_false]
          exact putBack_leads hf (canRetry_of_row hd hrow hl) error wait?

/-- What the sender answers leads the item to its end, where it can be settled. -/
theorem settle_leads (hf : w.faults = .empty) (hd : w.store.Distinct)
    (hrow : w.store.getItem? item.id = some item) (result : Except SendError Unit) :
    w.Leads (worker.settle item result) item.id
      (bif worker.canSettle item w.now result then some w.outlook else none) := by
  cases result with
  | ok _ =>
      refine ⟨_, _, World.run_call hf rfl _, rfl, rfl, ?_⟩
      exact ⟨_, Store.keepsId_succeed w.now, fun _ => nofun, rfl⟩
  | error e =>
      by_cases hr : e.isRetryable = true
      · rw [settle, if_pos hr, canSettle, hr]
        exact retryOrFail_leads hf hd hrow _ _
      · rw [settle, if_neg hr, canSettle, Bool.eq_false_iff.mpr hr]
        exact (fail_leads hf _).bind fun _ => quiet_done _

/-- To call a sender leads the item to its end, where the answer can be settled. -/
theorem attempt_leads (hf : w.faults = .empty) (hd : w.store.Distinct)
    (hrow : w.store.getItem? item.id = some item) (channel : Channel) (message : Message)
    (sender : Nat) :
    w.Leads (worker.attempt item channel message sender) item.id
      (worker.hear? w.outlook item sender) := by
  simp only [attempt, bind_eq_bind, hear?]
  cases hnow : w.now.shift? ((World.takeNext sender w.replies).1.getD .success).took.nanos with
  | none =>
      simp only [World.outlook, hnow, World.Leads]
      exact World.run_send_none hnow _
  | some now =>
      -- all that matters to the end of the attempt are the store, its faults and the time
      have hsettle : ∀ w' : World, w'.faults = w.faults → w'.store = w.store → w'.now = now →
          ∀ result, w'.Leads (worker.settle item result) item.id
            (bif worker.canSettle item now result then some w'.outlook else none) := by
        intro w' hfaults hstore hnow' result
        rw [← hnow']
        exact settle_leads (hfaults.trans hf) (hstore.symm ▸ hd) (hstore.symm ▸ hrow) result
      simp only [World.outlook, hnow]
      refine World.Leads.of_run ?_ (World.run_send hnow _) rfl rfl
      refine World.Leads.of_run ?_ (World.run_measure _ _ _) rfl rfl
      refine hsettle _ ?_ ?_ ?_ _ <;> rfl

/-- To deliver to a channel leads the item to its end, where the answer can be settled. -/
theorem deliverTo_leads (hf : w.faults = .empty) (hd : w.store.Distinct)
    (hrow : w.store.getItem? item.id = some item) (channel : Channel) :
    w.Leads (worker.deliverTo item channel) item.id
      (match worker.place? channel item.payload with
        | none => some w.outlook
        | some sender => worker.hear? w.outlook item sender) := by
  rw [deliverTo, place?]
  cases worker.renderer.render channel.channelType item.payload with
  | error e => exact (fail_leads hf _).bind fun _ => quiet_done _
  | ok message =>
      simp only
      cases worker.registry.sender? channel.channelType with
      | none => exact (fail_leads hf _).bind fun _ => quiet_done _
      | some sender => exact attempt_leads hf hd hrow channel message sender

/-- To deliver an item leads it to its end, where the worker passes it. -/
theorem deliver_leads (hf : w.faults = .empty) (hd : w.store.Distinct)
    (hrow : w.store.getItem? item.id = some item) :
    w.Leads (worker.deliver item) item.id (worker.pass? w.store w.outlook item) := by
  simp only [deliver, bind_eq_bind, pure_eq_done]
  refine World.Leads.of_run ?_ (World.run_call hf rfl _) rfl rfl
  rw [pass?, aim?]
  cases w.store.getChannel? item.channelId with
  | none => exact (fail_leads hf _).bind fun _ => quiet_done _
  | some channel =>
      by_cases hv : channel.verified = true
      · by_cases he : channel.enabled = true
        · simp only [hv, he, not_true, if_false, and_self, if_true]
          exact (deliverTo_leads hf hd hrow channel).bind fun _ => quiet_done _
        · simp only [hv, he, not_true, if_false]
          exact (fail_leads hf _).bind fun _ => quiet_done _
      · simp only [hv]
        exact (fail_leads hf _).bind fun _ => quiet_done _

/-- To process an item leads it to its end, where the worker passes it. -/
theorem processItem_leads (hf : w.faults = .empty) (hd : w.store.Distinct)
    (hrow : w.store.getItem? item.id = some item) :
    w.Leads (worker.processItem item) item.id (worker.pass? w.store w.outlook item) :=
  (deliver_leads hf hd hrow).bind fun _ => quiet_measure _ _

/-! ### All items -/

/-- Only the channels of the store matter to how an item ends. -/
theorem pass?_congr {s s' : Store} (h : ∀ k, s'.getChannel? k = s.getChannel? k) :
    worker.pass? s' = worker.pass? s := by
  funext o item
  simp only [pass?, aim?, h]

/-- Where the items lead: a worker that gets over them leaves none `processing`, and leaves all
others alone. -/
def Finishes (w : World) (worker : Worker) (items : List QueueItem) : Option Outlook → Prop
  | none => (w.run (worker.processAll items)).2 = none
  | some _ => ∃ w', w.run (worker.processAll items) = (w', some ()) ∧
      (∀ x ∈ items, ∀ {row}, w'.store.getItem? x.id = some row → row.status ≠ .processing) ∧
      ∀ {k}, k ∉ items.map (·.id) → w'.store.getItem? k = w.store.getItem? k

/-- A batch is finished where the worker passes each of its items in turn. -/
theorem processAll_finishes (worker : Worker) (items : List QueueItem) {s : Store} {w : World}
    (hf : w.faults = .empty) (hd : w.store.Distinct) (hn : (items.map (·.id)).Nodup)
    (hrow : ∀ x ∈ items, w.store.getItem? x.id = some x)
    (hs : ∀ k, w.store.getChannel? k = s.getChannel? k) :
    Finishes w worker items (items.foldlM (worker.pass? s) w.outlook) := by
  induction items generalizing w with
  | nil => exact ⟨w, rfl, fun _ hx => (nomatch hx), fun _ => rfl⟩
  | cons item rest ih =>
      obtain ⟨hitem, hn⟩ := List.nodup_cons.mp hn
      have hleads : w.Leads (worker.processItem item) item.id (worker.pass? s w.outlook item) :=
        pass?_congr hs ▸ processItem_leads hf hd (hrow item List.mem_cons_self)
      have hcons : worker.processAll (item :: rest) =
          (worker.processItem item).bind fun _ => worker.processAll rest := rfl
      rw [List.foldlM_cons]
      cases hpass : worker.pass? s w.outlook item with
      | none =>
          rw [hpass] at hleads
          show (w.run (worker.processAll (item :: rest))).2 = none
          rw [hcons]
          exact World.run_bind_none hleads _
      | some o =>
          rw [hpass] at hleads
          obtain ⟨w', a, hr, hfaults, ho, hclose⟩ := hleads
          have hrun := World.run_bind_some hr fun _ => worker.processAll rest
          rw [← hcons] at hrun
          -- the rest finds its own rows as they were claimed, and the same channels
          have hne : ∀ x ∈ rest, x.id ≠ item.id :=
            fun x hx he => hitem (List.mem_map.mpr ⟨x, hx, he⟩)
          have ih := ih (hfaults.trans hf) (hclose.distinct hd) hn
            (fun x hx => (hclose.getItem?_of_ne hd (hne x hx)).trans
              (hrow x (List.mem_cons_of_mem item hx)))
            (fun k => (hclose.getChannel? k).trans (hs k))
          rw [ho] at ih
          show Finishes w worker (item :: rest) (rest.foldlM (worker.pass? s) o)
          cases hrest : rest.foldlM (worker.pass? s) o with
          | none =>
              rw [hrest] at ih
              exact (congrArg Prod.snd hrun).trans ih
          | some o' =>
              rw [hrest] at ih
              obtain ⟨w'', hrun', hdone, hothers⟩ := ih
              refine ⟨w'', hrun.trans hrun', fun x hx row hget => ?_, fun {k} hk => ?_⟩
              · rcases List.mem_cons.mp hx with rfl | hx
                · -- no later item has the identifier of this one
                  rw [hothers hitem] at hget
                  exact hclose.not_processing hd hget
                · exact hdone x hx hget
              · rw [List.map_cons, List.mem_cons, not_or] at hk
                exact (hothers hk.2).trans (hclose.getItem?_of_ne hd hk.1)

/-- A batch without items is over at once. -/
theorem run_processBatch_nil (hf : w.faults = .empty)
    (hc : w.store.claimed w.now worker.batchSize = []) :
    (w.run worker.processBatch).2 = some (.ok 0) := by
  simp only [processBatch, bind_eq_bind, pure_eq_done]
  rw [World.run_call hf rfl, hc]
  rfl

/-- A batch of items is processed after it was claimed. -/
theorem run_processBatch_cons (hf : w.faults = .empty) {items : List QueueItem}
    (hc : w.store.claimed w.now worker.batchSize = item :: items) :
    w.run worker.processBatch =
      World.run ((worker.processAll (item :: items)).bind fun _ => done (.ok (items.length + 1)))
        { w with
          store := w.store.claimDue w.now worker.batchSize
          metrics := (Measurement.fetched (items.length + 1)).record w.metrics } := by
  simp only [processBatch, bind_eq_bind, pure_eq_done]
  rw [World.run_call hf rfl, hc]
  rfl

/-- **A batch ends with none of its items `processing` exactly if the worker gets over each of
them**, where the store answers every call and whatever the senders answer.  What it does not get over
is a failed attempt that waiting may mend, and for whose next attempt there is no time. -/
theorem processBatch_settles_iff (hd : w.store.Distinct) (hf : w.faults = .empty) :
    ((∃ n, (w.run worker.processBatch).2 = some (.ok n)) ∧
        ∀ x ∈ w.store.claimed w.now worker.batchSize, ∀ {row},
          (w.run worker.processBatch).1.store.getItem? x.id = some row →
            row.status ≠ .processing) ↔
      worker.clears w.store w.outlook (w.store.claimed w.now worker.batchSize) = true := by
  cases hc : w.store.claimed w.now worker.batchSize with
  | nil => exact ⟨fun _ => rfl, fun _ => ⟨⟨0, run_processBatch_nil hf hc⟩, fun _ hx => nomatch hx⟩⟩
  | cons item items =>
      rw [run_processBatch_cons hf hc]
      -- the claim leaves the channels, the time and the answers to come
      have hfinish := processAll_finishes worker (item :: items) (s := w.store)
        (w := { w with
          store := w.store.claimDue w.now worker.batchSize
          metrics := (Measurement.fetched (items.length + 1)).record w.metrics })
        hf (hd.claimDue _ _) (hc ▸ Store.nodup_claimed hd)
        (fun x hx => Store.getItem?_claimDue_of_mem hd (hc ▸ hx)) (fun _ => rfl)
      change Finishes _ worker _ ((item :: items).foldlM (worker.pass? w.store) w.outlook)
        at hfinish
      rw [clears]
      cases hfold : (item :: items).foldlM (worker.pass? w.store) w.outlook with
      | none =>
          rw [hfold] at hfinish
          refine ⟨fun ⟨⟨n, hn⟩, _⟩ => ?_, fun h => nomatch h⟩
          rw [World.run_bind_none hfinish] at hn
          exact nomatch hn
      | some o =>
          rw [hfold] at hfinish
          obtain ⟨w', hrun, hdone, -⟩ := hfinish
          rw [World.run_bind_some hrun]
          exact ⟨fun _ => rfl, fun _ => ⟨⟨items.length + 1, rfl⟩, fun x hx => hdone x hx⟩⟩

end Worker

namespace Sample

/-- One message, and a sender that asks to wait so many seconds. -/
def limited (seconds : Nat) : World :=
  { world with
    store := world.store.enqueueBatch world.now [item 5]
    replies := Table.empty.set 0 [⟨.error (.rateLimited (some (.ofSeconds seconds))), ⟨0⟩⟩] }

end Sample

/-- A message that is put back for half a minute. -/
theorem limited_batch_settles :
    (∃ n, ((Sample.limited 30).run (Sample.team 0).processBatch).2 = some (.ok n)) ∧
      ∀ x ∈ (Sample.limited 30).store.claimed (Sample.limited 30).now (Sample.team 0).batchSize,
        ∀ {row}, ((Sample.limited 30).run (Sample.team 0).processBatch).1.store.getItem? x.id =
          some row → row.status ≠ .processing :=
  (Worker.processBatch_settles_iff (w := Sample.limited 30) (List.nodup_singleton _) rfl).mpr
    (by decide +kernel)

/-- A wait that leads beyond the end of time: the batch crashes, and its message stays
`processing`. -/
theorem limited_beyond_time :
    ((Sample.limited 1000000000000000).run (Sample.team 0).processBatch).2.isNone = true ∧
      ((Sample.limited 1000000000000000).run (Sample.team 0).processBatch).1.store.items.map
        (·.status) = [.processing] := by
  decide +kernel

end Courier
