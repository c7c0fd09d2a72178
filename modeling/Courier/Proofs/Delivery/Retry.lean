import Courier.Proofs.Delivery.Batch
import Courier.Proofs.Queue.History
import Courier.Proofs.Settings
import Courier.Proofs.Time.Instant

/-!
# Proofs — Delivery — Retry

What becomes of an item whose attempt fails for now, under settings without a fault.

* `Worker.Stumbles`: the attempt fails in a way that waiting may mend, and nobody names a time.
* `Worker.Stumbles.run_processItem`: all that the worker then does is to put the item back.
* `put_back_on_time_iff`: it comes to wait for as long as the backoff says exactly where that time is
  on the calendar.
-/

namespace Courier

/-- The row of an item that waits for its next attempt until `t`. -/
structure QueueItem.Waits (item : QueueItem) (reason : String) (t : Instant) (row : QueueItem) :
    Prop where
  origin : row.origin = item.origin
  status : row.status = .pending
  attempts : row.attempts.toInt = item.attempts.toInt + 1
  lastError : row.lastError = some reason
  nextAttemptAt : row.nextAttemptAt = t

/-- A row that is put back waits. -/
theorem Store.waits_putBack {item : QueueItem} (h : (nextAttempt? item.attempts).isSome = true)
    (now : Instant) (reason : String) (t : Instant) :
    item.Waits reason t (putBack now reason t item) := by
  rcases putBack_eq now reason t item with he | ⟨attempts, ha, he⟩
  · rw [putBack, QueueItem.retry?] at he
    obtain ⟨attempts, ha⟩ := Option.isSome_iff_exists.mp h
    rw [putBack, QueueItem.retry?, ha]
    exact ⟨rfl, rfl, toInt_nextAttempt ha, rfl, rfl⟩
  · rw [he]
    exact ⟨rfl, rfl, toInt_nextAttempt ha, rfl, rfl⟩

/-! ### Delays -/

/-- A delay of less than 2^63 milliseconds is added as it is. -/
theorem retryTime?_of_lt {now : Instant} {delay : Span} (h : delay.millis < 2 ^ 63) :
    retryTime? now delay = now.shiftMillis? delay.millis := by
  have hsize : (UInt64.size : Int) = 2 ^ 64 := rfl
  have hbmod : (delay.millis : Int).bmod UInt64.size = delay.millis := by
    refine Int.bmod_eq_of_le ?_ ?_ <;> omega
  rw [retryTime?, hbmod]

/-- A delay of less than 2^64 milliseconds leads to a time that is not before the present exactly
where that time is on the calendar: a count of 2^63 or more is taken for one below zero. -/
theorem retryTime?_iff {now t : Instant} {delay : Span} (hd : delay.millis < 2 ^ 64) :
    (retryTime? now delay = some t ∧ now.le t = true) ↔
      now.shiftMillis? delay.millis = some t := by
  have hsize : (UInt64.size : Int) = 2 ^ 64 := rfl
  rcases Nat.lt_or_ge delay.millis (2 ^ 63) with hlt | hge
  · rw [retryTime?_of_lt hlt, Instant.shiftMillis?]
    exact ⟨fun h => h.1, fun h => ⟨h, Instant.le_of_shift? h (by omega)⟩⟩
  · -- the count wraps around, and leads back from the present
    rw [retryTime?, Instant.shiftMillis?, Instant.shiftMillis?]
    have hbmod : (delay.millis : Int).bmod UInt64.size = delay.millis - 2 ^ 64 := by
      rw [Int.bmod_def, hsize, Int.emod_eq_of_lt (by omega) (by omega), if_neg (by omega)]
    rw [hbmod]
    constructor
    · rintro ⟨h, hle⟩
      exact absurd hle (Instant.not_le_of_shift? h (by omega))
    · intro h
      rw [Instant.shift?_eq_none_of_le (by omega)] at h
      cases h

/-- The delay before an attempt depends on how often the factor applies. -/
theorem Backoff.delay?_congr {b : Backoff} {m n : UInt32} (h : exponent m = exponent n) :
    b.delay? m = b.delay? n := by
  rw [delay?, delay?, product, product, h]

namespace Worker
open Program

/-- The number of the next attempt, and one for an item that has no attempt behind it. -/
theorem delay?_attemptNumber {item : QueueItem} {n : UInt32}
    (h : (n.toNat : Int) = item.attempts.toInt + 1) (b : Backoff) :
    b.delay? (attemptNumber item) = b.delay? n := by
  have hn : n.toNat < UInt32.size := n.toNat_lt_size
  have hnumber : (attemptNumber item).toNat = Max.max n.toNat 1 := by
    rw [attemptNumber, ← h, Int.toNat_natCast]
    refine UInt32.toNat_ofNat_of_lt' ?_
    have hsize : UInt32.size = 4294967296 := rfl
    omega
  refine Backoff.delay?_congr ?_
  rw [Backoff.exponent, Backoff.exponent, hnumber]
  congr 1
  omega

/-- Without a time that the service asks for, the wait is the delay before the next attempt. -/
theorem wait?_none {worker : Worker} {item : QueueItem} {n : UInt32}
    (h : (n.toNat : Int) = item.attempts.toInt + 1) :
    worker.wait? item none = worker.backoff.delay? n := by
  rw [wait?, delay?_attemptNumber h]
  exact Option.map_id'

/-! ### Attempts that fail for now -/

/-- The channel of the item is not found out, or its sender fails in a way that waiting may mend and
asks for no time.  With the reason, and the world in which the worker then is. -/
inductive Stumbles (worker : Worker) (w : World) (item : QueueItem) : World → String → Prop where
  | look {e : StoreError} (h : w.nextFault? "get_channel" = some e) :
      Stumbles worker w item (w.afterCall "get_channel") ("channel lookup failed: " ++ e.message)
  | send {channel : Channel} {message : Message} {place : Nat} {e : SendError} {now : Instant}
      (hf : w.nextFault? "get_channel" = none)
      (hc : w.store.getChannel? item.channelId = some channel) (hv : channel.verified = true)
      (he : channel.enabled = true)
      (hm : worker.renderer.render channel.channelType item.payload = .ok message)
      (hs : worker.registry.sender? channel.channelType = some place)
      (hr : (w.nextReply place).result = .error e) (hretry : e.isRetryable = true)
      (hask : e.retryAfter = none) (ht : w.now.shift? (w.nextReply place).took.nanos = some now) :
      Stumbles worker w item
        { (w.afterCall "get_channel").afterSend place
            ⟨channel.recipient, message.subject, message.body⟩ now with
          metrics := (Measurement.sendTime channel.channelType.name (w.nextReply place).took).record
            w.metrics }
        e.message

variable {worker : Worker} {w w' : World} {item : QueueItem} {reason : String}

theorem Stumbles.store (h : worker.Stumbles w item w' reason) : w'.store = w.store := by
  cases h <;> rfl

theorem Stumbles.nextFault? (h : worker.Stumbles w item w' reason) :
    w'.nextFault? "mark_for_retry" = w.nextFault? "mark_for_retry" := by
  cases h <;> exact World.nextFault?_afterCall (by decide) w

/-- Puts the item back, and counts that. -/
def retry (worker : Worker) (item : QueueItem) (reason label : String) : Program Outcome :=
  (worker.retryOrFail item reason none).bind fun outcome =>
    (measure (.outcome label outcome)).bind fun _ => done outcome

/-- After an attempt that fails for now, all that is left to do is to put the item back. -/
theorem Stumbles.run_processItem (h : worker.Stumbles w item w' reason) :
    ∃ label, w.run (worker.processItem item) = w'.run (worker.retry item reason label) := by
  cases h with
  | @look e hf =>
      have hfault : w.nextFault? (StoreCall.getChannel item.channelId).name = some e := hf
      refine ⟨unknownChannelLabel, ?_⟩
      simp only [processItem, deliver, bind_eq_bind, bind_assoc]
      rw [World.run_call_failed hfault]
      simp only [bind_assoc, pure_eq_done, done_bind]
      rfl
  | @send channel message place e now hf hc hv he hm hs hr hretry hask ht =>
      have hfault : w.nextFault? (StoreCall.getChannel item.channelId).name = none := hf
      have hchannel : (StoreCall.getChannel item.channelId).answer? w.now w.store =
          some (some channel) := congrArg some hc
      have hsettle : worker.settle item (w.nextReply place).result =
          worker.retryOrFail item e.message none := by
        rw [hr, settle, if_pos hretry, hask]
      refine ⟨channel.channelType.name, ?_⟩
      simp only [processItem, deliver, bind_eq_bind, bind_assoc]
      rw [World.run_call_served hfault hchannel]
      simp only [hv, he, not_true_eq_false, if_false, bind_assoc, pure_eq_done, done_bind,
        deliverTo, hm, hs, attempt, bind_eq_bind]
      have hsent : (w.afterCall "get_channel").now.shift?
          (w.nextReply place).took.nanos = some now := ht
      refine (World.run_send hsent _).trans ((World.run_measure _ _ _).trans ?_)
      show World.run ((worker.settle item (w.nextReply place).result).bind _) _ = _
      rw [hsettle]
      rfl

/-! ### Putting an item back -/

/-- What has to be so for an item that can be put back: it is in the worker's hands, this was not
its last attempt, and the report of that does not fail. -/
structure Holds (w : World) (item : QueueItem) : Prop where
  distinct : w.store.Distinct
  row : w.store.getItem? item.id = some item
  status : item.status = .processing
  notLast : item.isLastAttempt? = some false
  report : w.nextFault? "mark_for_retry" = none

/-- An attempt that fails for now leaves the item with its worker. -/
theorem Stumbles.holds (h : worker.Stumbles w item w' reason) (hw : Holds w item) :
    Holds w' item where
  distinct := h.store.symm ▸ hw.distinct
  row := h.store.symm ▸ hw.row
  status := hw.status
  notLast := hw.notLast
  report := h.nextFault?.trans hw.report

/-- The worker ends with the item put back, and its row waits until `t`. -/
def PutsBack (worker : Worker) (w : World) (item : QueueItem) (reason : String) (t : Instant) :
    Prop :=
  (w.run (worker.processItem item)).2 = some .retry ∧
    ∃ row, (w.run (worker.processItem item)).1.store.getItem? item.id = some row ∧
      item.Waits reason t row

variable {label : String} {delay : Span}

/-- Where there is a time for it, the item is put back for then. -/
theorem run_retry_some (hw : Holds w item) (hd : worker.wait? item none = some delay)
    {t : Instant} (ht : retryTime? w.now delay = some t) :
    (w.run (worker.retry item reason label)).2 = some .retry ∧
      ∃ row, (w.run (worker.retry item reason label)).1.store.getItem? item.id = some row ∧
        item.Waits reason t row := by
  have hanswer : (StoreCall.markForRetry item.id reason t).answer? w.now w.store = some () :=
    if_pos (canRetry_of_row hw.distinct hw.row hw.notLast)
  have hnext := QueueItem.isSome_nextAttempt? hw.notLast
  have hin : item.isIn item.id .processing = true := isIn_iff.mpr ⟨rfl, hw.status⟩
  have hreport : w.nextFault? (StoreCall.markForRetry item.id reason t).name = none := hw.report
  simp only [retry, retryOrFail, bind_eq_bind, pure_eq_done, hw.notLast, hd,
    orCrash_some_bind, Bool.false_eq_true, if_false, bind_assoc]
  rw [World.run_clock, ht, orCrash_some_bind, World.run_call_served hreport hanswer]
  refine ⟨rfl, _, ?_, Store.waits_putBack hnext w.now reason t⟩
  show (w.store.change item.id .processing (Store.putBack w.now reason t)).getItem? item.id = _
  rw [Store.getItem?_change hw.distinct (Store.keepsId_putBack _ _ _), hw.row, Option.map_some,
    changeIn_of_isIn hin]

/-- Where there is none, the worker crashes with the item in its hands. -/
theorem run_retry_none (hw : Holds w item) (hd : worker.wait? item none = some delay)
    (ht : retryTime? w.now delay = none) :
    w.run (worker.retry item reason label) = (w, none) := by
  simp only [retry, retryOrFail, bind_eq_bind, pure_eq_done, hw.notLast, hd,
    orCrash_some_bind, Bool.false_eq_true, if_false, bind_assoc]
  rw [World.run_clock, ht, World.run_orCrash_none]

/-- The item is put back for the time that the worker comes to, or not at all. -/
theorem putsBack_iff (h : worker.Stumbles w item w' reason) (hw : Holds w item)
    (hd : worker.wait? item none = some delay) (t : Instant) :
    worker.PutsBack w item reason t ↔ retryTime? w'.now delay = some t := by
  obtain ⟨label, hrun⟩ := h.run_processItem
  rw [PutsBack, hrun]
  cases ht : retryTime? w'.now delay with
  | none =>
      rw [run_retry_none (h.holds hw) hd ht]
      constructor
      · rintro ⟨hcrash, -⟩
        cases hcrash
      · intro he
        cases he
  | some t' =>
      obtain ⟨hend, row', hrow', hwaits'⟩ := run_retry_some (h.holds hw) hd ht
      constructor
      · rintro ⟨-, row, hrow, hwaits⟩
        rw [hrow] at hrow'
        rw [← hwaits.nextAttemptAt, ← hwaits'.nextAttemptAt, Option.some.inj hrow']
      · intro he
        exact Option.some.inj he ▸ ⟨hend, row', hrow', hwaits'⟩

end Worker

/-- **An item is put back for a time that is not before the present exactly where the present and
the delay add up to that time.**  So under settings without a fault each item whose attempt fails for
now, and was not the last, waits as long as the backoff says, unless that leads beyond the last
year. -/
theorem put_back_on_time_iff {settings : Settings} {worker : Worker} {w w' : World}
    {item : QueueItem} {reason : String} {n : UInt32} (hs : settings.check = .ok settings)
    (hb : worker.backoff = settings.pool.backoff) (hw : Worker.Holds w item)
    (h : worker.Stumbles w item w' reason) (hn : (n.toNat : Int) = item.attempts.toInt + 1) :
    ∃ delay, worker.backoff.delay? n = some delay ∧ ∀ t,
      (worker.PutsBack w item reason t ∧ w'.now.le t = true ↔
        w'.now.shiftMillis? delay.millis = some t) := by
  obtain ⟨delay, hdelay⟩ := Option.isSome_iff_exists.mp (Settings.isSome_delay?_of_check hs n)
  rw [← hb] at hdelay
  refine ⟨delay, hdelay, fun t => ?_⟩
  rw [Worker.putsBack_iff h hw (Worker.wait?_none hn ▸ hdelay),
    retryTime?_iff (Settings.millis_lt_of_delay? (hb ▸ hdelay))]

namespace Sample

/-- Settings under which every delay is that of so many milliseconds. -/
def pausing (millis : UInt64) : Settings :=
  { Settings.standard with initialBackoffMs := millis, maxBackoffMs := millis }

/-- A worker that waits a number of milliseconds before every attempt. -/
def pauser (millis : UInt64) : Worker := { team 0 with backoff := (pausing millis).pool.backoff }

/-- A message that a worker has claimed. -/
def claimed : QueueItem := ((item 5).enter .epoch).claim .epoch

/-- The message, and a sender that gets no answer. -/
def unanswered : World :=
  { world with
    store := { world.store with items := [claimed] }
    replies := Table.empty.set 0 [⟨.error (.timeout "no answer"), ⟨0⟩⟩] }

theorem unanswered_holds : Worker.Holds unanswered claimed :=
  ⟨List.nodup_singleton _, rfl, rfl, rfl, rfl⟩

/-- The sample is such an attempt. -/
theorem unanswered_stumbles (millis : UInt64) :
    ∃ w', w'.now = .epoch ∧
      (pauser millis).Stumbles unanswered claimed w' (SendError.timeout "no answer").message := by
  refine ⟨_, ?_, @Worker.Stumbles.send (pauser millis) unanswered claimed channel _ 0
    (.timeout "no answer") .epoch rfl rfl rfl rfl rfl rfl rfl rfl rfl rfl⟩
  rfl

end Sample

/-- A message that waits for a second. -/
theorem put_back_after_a_second :
    (Sample.pauser 1000).PutsBack Sample.unanswered Sample.claimed
      (SendError.timeout "no answer").message ⟨1, 0, by decide⟩ := by
  obtain ⟨w', hnow, h⟩ := Sample.unanswered_stumbles 1000
  have hn : ((1 : UInt32).toNat : Int) = Sample.claimed.attempts.toInt + 1 := by decide
  obtain ⟨delay, hdelay, hiff⟩ := @put_back_on_time_iff (Sample.pausing 1000) _ _ _ _ _ 1
    (by decide +kernel) rfl Sample.unanswered_holds h hn
  have hsecond : (Sample.pauser 1000).backoff.delay? 1 = some (.ofMillis 1000) := by
    decide +kernel
  rw [hdelay] at hsecond
  refine ((hiff _).mpr ?_).1
  rw [Option.some.inj hsecond, hnow]
  decide +kernel

/-- Settings that have no fault, with a delay of 2^64 - 1 milliseconds: the message is put back for
a time before the present. -/
theorem put_back_before_now :
    (Sample.pausing 18446744073709551615).fault? = none ∧
      (Sample.unanswered.run
        ((Sample.pauser 18446744073709551615).processItem Sample.claimed)).1.store.items.map
          (fun row => (row.status, row.nextAttemptAt.lt Sample.unanswered.now)) =
        [(.pending, true)] := by
  decide +kernel

end Courier
