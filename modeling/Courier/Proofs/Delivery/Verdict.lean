import Courier.Proofs.Delivery.Retry

/-!
# Proofs — Delivery — Verdict

What the outcome of an item tells about the row that it leaves.  The outcome and the row come from
two places, the worker and the store, and between them is one call.

* `Program.Yields`: what holds wherever a run of a program ends.
* `Verdict`: the call that goes with each outcome, and when a worker comes to it.
* `Worker.Concluded`, `processItem_concludes`: a worker that gets over an item has made the call of
  its outcome, and has called a sender exactly when there was one for the item (`dispatch?`).
* `outcome_tells_row`: so the outcome tells the row, and nothing else in the store has changed.
-/

namespace Courier

/-! ### Runs that end -/

theorem World.exists_run {α : Type} {p : Program α} {w : World} {a : α}
    (h : (w.run p).2 = some a) : ∃ w', w.run p = (w', some a) :=
  ⟨(w.run p).1, Prod.ext rfl h⟩

namespace Program

variable {α β : Type}

/-- Wherever the run of the program ends, the world and the value meet the post-condition. -/
def Yields (Q : World → α → Prop) (p : Program α) (w : World) : Prop :=
  ∀ w' a, w.run p = (w', some a) → Q w' a

namespace Yields

variable {P : World → α → Prop} {Q : World → β → Prop} {w : World}

theorem done {b : β} (h : Q w b) : (Program.done b).Yields Q w := by
  intro w' a hrun
  obtain ⟨rfl, hb⟩ := Prod.mk.inj hrun
  exact Option.some.inj hb ▸ h

/-- What one program yields is what the next may rely on. -/
theorem bind {p : Program α} {f : α → Program β} (h : p.Yields P w)
    (hf : ∀ w' a, P w' a → (f a).Yields Q w') : (p.bind f).Yields Q w := by
  intro w'' b hrun
  cases hp : w.run p with
  | mk w' result =>
      cases result with
      | none =>
          have hnone := World.run_bind_none (congrArg Prod.snd hp) f
          rw [hrun] at hnone
          cases hnone
      | some a =>
          rw [World.run_bind_some hp] at hrun
          exact hf w' a (h w' a hp) w'' b hrun

/-- A program that runs as another does from elsewhere. -/
theorem of_run {p q : Program β} {w' : World} (hrun : w.run q = w'.run p) (h : p.Yields Q w') :
    q.Yields Q w :=
  fun w'' b he => h w'' b (hrun.symm.trans he)

/-- A value that has to be there. -/
theorem orCrash {o : Option α} {f : α → Program β} (h : ∀ a, o = some a → (f a).Yields Q w) :
    ((Program.orCrash o).bind f).Yields Q w := by
  cases o with
  | none => exact fun _ _ hrun => nomatch (Prod.mk.inj hrun).2
  | some a => exact h a rfl

/-- A call over which the store breaks down. -/
theorem run_call_broken {c : StoreCall} (h : w.nextFault? c.name = none)
    (ha : c.answer? w.now w.store = none) (f : Except StoreError c.Result → Program β) :
    (w.run ((Program.call c).bind f)).2 = none := by
  show (World.run (.ask (.store c) f) w).2 = none
  rw [World.nextFault?] at h
  simp only [World.run, World.handle]
  cases hfault : (World.takeNext c.name w.faults).1 with
  | none => simp only [ha, Option.map_none]
  | some fault =>
      cases fault with
      | none => simp only [ha, Option.map_none]
      | some e =>
          rw [hfault] at h
          cases h

/-- A call of the store fails as it is to fail, or is served. -/
theorem call {c : StoreCall} {f : Except StoreError c.Result → Program β}
    (hfail : ∀ e, w.nextFault? c.name = some e → (f (.error e)).Yields Q (w.afterCall c.name))
    (hserve : ∀ a, w.nextFault? c.name = none → c.answer? w.now w.store = some a →
      (f (.ok a)).Yields Q { w.afterCall c.name with store := c.serve w.now w.store }) :
    ((Program.call c).bind f).Yields Q w := by
  cases hfault : w.nextFault? c.name with
  | some e => exact of_run (World.run_call_failed hfault f) (hfail e hfault)
  | none =>
      cases ha : c.answer? w.now w.store with
      | some a => exact of_run (World.run_call_served hfault ha f) (hserve a hfault ha)
      | none =>
          intro w' b hrun
          have hnone := run_call_broken hfault ha f
          rw [hrun] at hnone
          cases hnone

/-- A sender answers as it is to answer, and the time that it takes passes. -/
theorem send {sender : Nat} {notification : Notification}
    {f : Except SendError Unit × Span → Program β}
    (h : ∀ now, w.now.shift? (w.nextReply sender).took.nanos = some now →
      (f ((w.nextReply sender).result, (w.nextReply sender).took)).Yields Q
        (w.afterSend sender notification now)) :
    ((request (.send sender notification)).bind f).Yields Q w := by
  cases ht : w.now.shift? (w.nextReply sender).took.nanos with
  | some now => exact of_run (World.run_send ht f) (h now ht)
  | none =>
      intro w' b hrun
      have hnone : (w.run ((request (.send sender notification)).bind f)).2 = none :=
        World.run_send_none ht f
      rw [hrun] at hnone
      cases hnone

end Yields

end Program

/-! ### What a delivery comes to -/

/-- The setback that a sender's answer is. -/
def Setback.ofResult? : Except SendError Unit → Option Setback
  | .ok () => none
  | .error e => if e.isRetryable then some ⟨e.message, e.retryAfter⟩ else none

/-- The call that goes with an outcome, by name. -/
def Outcome.report : Outcome → String
  | .success => "mark_sent"
  | .retry => "mark_for_retry"
  | _ => "mark_failed"

/-- The call that tells the store the outcome of an item, and when a worker comes to it: with a
setback or without, and at what time. -/
inductive Verdict (worker : Worker) (item : QueueItem) (now : Instant) :
    Option Setback → Outcome → StoreCall → Prop where
  | success : Verdict worker item now none .success (.markSent item.id)
  | retry {setback : Setback} {wait : Span} {t : Instant} (hl : item.isLastAttempt? = some false)
      (hw : worker.wait? item setback.retryAfter = some wait) (ht : retryTime? now wait = some t) :
      Verdict worker item now (some setback) .retry (.markForRetry item.id setback.reason t)
  | maxAttempts {setback : Setback} (hl : item.isLastAttempt? = some true) :
      Verdict worker item now (some setback) .maxAttempts
        (.markFailed item.id (Worker.exhausted item setback.reason))
  | refused {o : Outcome} (h : o ≠ .success ∧ o ≠ .retry ∧ o ≠ .maxAttempts) (reason : String) :
      Verdict worker item now none o (.markFailed item.id reason)

/-- An outcome goes with one call of the store. -/
theorem Verdict.name_eq {worker : Worker} {item : QueueItem} {now : Instant}
    {setback : Option Setback} {o : Outcome} {call : StoreCall}
    (h : Verdict worker item now setback o call) : call.name = o.report := by
  cases h with
  | success => rfl
  | retry hl hw ht => rfl
  | maxAttempts hl => rfl
  | refused h reason => cases o <;> simp_all [Outcome.report, StoreCall.name]

/-- A call of the store, which fails as it is to fail or is served, and nothing else. -/
structure World.Told (w : World) (call : StoreCall) (w' : World) : Prop where
  store : w'.store = if w.nextFault? call.name = none then call.serve w.now w.store else w.store
  now : w'.now = w.now
  sent : w'.sent = w.sent

/-- A call that ends tells the store. -/
theorem World.call_tells (w : World) (c : StoreCall) :
    (Program.call c).Yields (fun w' _ => w.Told c w') w := by
  rw [← Program.bind_done (Program.call c)]
  refine .call (fun e hfault => .done ⟨?_, rfl, rfl⟩) fun a hfault _ => .done ⟨?_, rfl, rfl⟩
  · exact (if_neg (hfault ▸ nofun)).symm
  · exact (if_pos hfault).symm

namespace Worker
open Program

variable {worker : Worker} {w w' : World} {item : QueueItem}

/-- To fail an item tells the store so. -/
theorem fail_tells (item : QueueItem) (reason : String) (w : World) :
    (fail item reason).Yields (fun w' _ => w.Told (.markFailed item.id reason) w') w :=
  Yields.bind (w.call_tells _) fun _ _ h => .done h

/-- Where a worker has got over an item: the store was told the outcome, and the senders got what
was sent. -/
structure Concluded (worker : Worker) (w : World) (item : QueueItem) (setback : Option Setback)
    (sends : List Sent) (w' : World) (o : Outcome) : Prop where
  told : ∃ call, Verdict worker item w'.now setback o call ∧
    w'.store = if w.nextFault? call.name = none then call.serve w'.now w.store else w.store
  sent : w'.sent = sends ++ w.sent

/-- What the store is told concludes the item. -/
theorem Concluded.of_told {call : StoreCall} {setback : Option Setback} {o : Outcome}
    (h : w.Told call w') (hv : Verdict worker item w.now setback o call) :
    worker.Concluded w item setback [] w' o := by
  rw [← h.now] at hv
  exact ⟨⟨call, hv, h.now ▸ h.store⟩, h.sent⟩

/-- What comes before the report of an outcome: calls of the store that change nothing, messages and
measurements. -/
structure Before (w : World) (sends : List Sent) (w' : World) : Prop where
  store : w'.store = w.store
  faults : ∀ o : Outcome, w'.nextFault? o.report = w.nextFault? o.report
  sent : w'.sent = sends ++ w.sent

/-- What goes before belongs to the conclusion. -/
theorem Concluded.of_before {setback : Option Setback} {sends sends' : List Sent} {w'' : World}
    {o : Outcome} (hc : worker.Concluded w' item setback sends' w'' o) (h : Before w sends w') :
    worker.Concluded w item setback (sends' ++ sends) w'' o := by
  obtain ⟨⟨call, hverdict, hstore⟩, hsent⟩ := hc
  refine ⟨⟨call, hverdict, ?_⟩, ?_⟩
  · rw [hstore, hverdict.name_eq, h.faults, h.store]
  · rw [hsent, h.sent, List.append_assoc]

/-- A failed attempt is concluded with the item put back, or given up. -/
theorem retryOrFail_concludes (setback : Setback) :
    (worker.retryOrFail item setback.reason setback.retryAfter).Yields
      (worker.Concluded w item (some setback) []) w := by
  simp only [retryOrFail, bind_eq_bind, pure_eq_done]
  refine .orCrash fun last hl => ?_
  cases last with
  | true => exact .bind (fail_tells item _ w) fun w' _ h => .done (.of_told h (.maxAttempts hl))
  | false =>
      simp only [Bool.false_eq_true, if_false]
      -- the wait is a power of floats, which is not to be evaluated
      generalize ho : worker.wait? item setback.retryAfter = wait?
      refine .orCrash fun wait hw => .of_run (World.run_clock _ w) (.orCrash fun t ht => ?_)
      exact .bind (w.call_tells _) fun w' _ h => .done (.of_told h (.retry hl (ho.trans hw) ht))

/-- The answer of a sender concludes the item. -/
theorem settle_concludes (result : Except SendError Unit) :
    (worker.settle item result).Yields
      (worker.Concluded w item (Setback.ofResult? result) []) w := by
  cases result with
  | ok _ => exact .bind (w.call_tells _) fun w' _ h => .done (.of_told h .success)
  | error e =>
      by_cases hr : e.isRetryable = true
      · rw [settle, if_pos hr, Setback.ofResult?, if_pos hr]
        exact retryOrFail_concludes ⟨e.message, e.retryAfter⟩
      · rw [settle, if_neg hr, Setback.ofResult?, if_neg hr]
        exact .bind (fail_tells item _ w) fun w' _ h =>
          .done (.of_told h (.refused (by decide) _))

/-! ### The message of an item -/

/-- What goes to which sender for a channel that may receive messages. -/
def message? (worker : Worker) (item : QueueItem) (channel : Channel) :
    Option (Nat × Notification) :=
  match worker.renderer.render channel.channelType item.payload with
  | .error _ => none
  | .ok message =>
    (worker.registry.sender? channel.channelType).map fun place =>
      (place, ⟨channel.recipient, message.subject, message.body⟩)

/-- What goes to which sender for the item. -/
def dispatch? (worker : Worker) (s : Store) (item : QueueItem) : Option (Nat × Notification) :=
  match s.getChannel? item.channelId with
  | none => none
  | some channel =>
    if channel.verified ∧ channel.enabled then worker.message? item channel else none

end Worker

/-- The setback that the answer of a sender is, if one is called. -/
def World.hearing (w : World) (dispatch : Option (Nat × Notification)) : Option Setback :=
  dispatch.bind fun (place, _) => Setback.ofResult? (w.nextReply place).result

/-- What a sender gets, if one is called. -/
def World.posting (w : World) (dispatch : Option (Nat × Notification)) : List Sent :=
  dispatch.toList.map fun (place, notification) =>
    ⟨place, notification, (w.nextReply place).result.isOk⟩

namespace Worker
open Program

variable {worker : Worker} {w w' : World} {item : QueueItem}

/-- The call of a sender concludes the item, and is all that is sent. -/
theorem attempt_concludes (channel : Channel) (message : Message) (place : Nat) :
    (worker.attempt item channel message place).Yields
      (worker.Concluded w item (Setback.ofResult? (w.nextReply place).result)
        (w.posting (some (place, ⟨channel.recipient, message.subject, message.body⟩)))) w := by
  simp only [attempt, bind_eq_bind]
  refine .send fun now hnow => .of_run (World.run_measure _ _ _) fun w' o hrun => ?_
  refine Concluded.of_before (settle_concludes _ w' o hrun) ⟨rfl, fun o => ?_, rfl⟩
  rfl

/-- A channel that may receive messages gets the one of the item, if there is one. -/
theorem deliverTo_concludes (channel : Channel) :
    (worker.deliverTo item channel).Yields
      (worker.Concluded w item (w.hearing (worker.message? item channel))
        (w.posting (worker.message? item channel))) w := by
  rw [deliverTo, message?]
  cases worker.renderer.render channel.channelType item.payload with
  | error e =>
      exact .bind (fail_tells item _ w) fun w' _ h => .done (.of_told h (.refused (by decide) _))
  | ok message =>
      simp only
      cases worker.registry.sender? channel.channelType with
      | none =>
          exact .bind (fail_tells item _ w) fun w' _ h =>
            .done (.of_told h (.refused (by decide) _))
      | some place => exact attempt_concludes channel message place

/-- The failed attempt that an item comes to and that waiting may mend: its channel is not found
out, or a sender gets its message and answers so. -/
def setback? (worker : Worker) (w : World) (item : QueueItem) : Option Setback :=
  match w.nextFault? "get_channel" with
  | some e => some ⟨"channel lookup failed: " ++ e.message, none⟩
  | none => w.hearing (worker.dispatch? w.store item)

/-- What the senders get for an item. -/
def sends (worker : Worker) (w : World) (item : QueueItem) : List Sent :=
  match w.nextFault? "get_channel" with
  | some _ => []
  | none => w.posting (worker.dispatch? w.store item)

/-- The look-up of the channel leaves all that the rest of a delivery depends on. -/
theorem before_look (w : World) : Before w [] (w.afterCall "get_channel") := by
  refine ⟨rfl, fun o => World.nextFault?_afterCall ?_ w, rfl⟩
  cases o <;> decide

/-- What remains of a delivery once the channel was looked up. -/
theorem labelled_concludes {p : Program Outcome} {setback : Option Setback} {sends : List Sent}
    (h : p.Yields (worker.Concluded (w.afterCall "get_channel") item setback sends)
      (w.afterCall "get_channel")) (label : String) :
    (p.bind fun o => done (label, o)).Yields
      (fun w' result => worker.Concluded w item setback sends w' result.2)
      (w.afterCall "get_channel") := by
  refine Yields.bind h fun w' o hc => .done ?_
  exact (List.append_nil sends) ▸ hc.of_before (before_look w)

/-- An item that fails without an attempt. -/
theorem fail_concludes {label : String} {o : Outcome} (item : QueueItem) (reason : String)
    (h : o ≠ .success ∧ o ≠ .retry ∧ o ≠ .maxAttempts) :
    ((fail item reason).bind fun _ => done (label, o)).Yields
      (fun w' result => worker.Concluded w item none [] w' result.2)
      (w.afterCall "get_channel") := by
  refine Yields.bind (fail_tells item reason _) fun w' _ ht => .done ?_
  exact Concluded.of_before (.of_told ht (.refused h reason)) (before_look w)

/-- An item is concluded with what its channel, its message and its sender come to. -/
theorem deliver_concludes :
    (worker.deliver item).Yields (fun w' result =>
      worker.Concluded w item (worker.setback? w item) (worker.sends w item) w' result.2) w := by
  simp only [deliver, bind_eq_bind, pure_eq_done]
  refine .call (fun e hfault => ?_) (fun answer hfault ha => ?_)
  · have hlook : w.nextFault? "get_channel" = some e := hfault
    rw [setback?, sends, hlook]
    exact labelled_concludes (retryOrFail_concludes
      ⟨"channel lookup failed: " ++ e.message, none⟩) unknownChannelLabel
  · have hlook : w.nextFault? "get_channel" = none := hfault
    have hanswer : w.store.getChannel? item.channelId = answer := Option.some.inj ha
    rw [setback?, sends, hlook]
    simp only [dispatch?, hanswer]
    cases answer with
    | none => exact fail_concludes item _ (by decide)
    | some channel =>
        by_cases hv : channel.verified = true
        · by_cases he : channel.enabled = true
          · simp only [hv, he, not_true, if_false, and_self, if_true]
            exact labelled_concludes (deliverTo_concludes channel) channel.channelType.name
          · simp only [hv, he, not_true, if_false]
            exact fail_concludes item _ (by decide)
        · simp only [hv]
          exact fail_concludes item _ (by decide)

/-- **A worker that gets over an item has told the store its outcome**, by the call that goes with
it, and has called a sender once if there was one for the item, and otherwise not. -/
theorem processItem_concludes :
    (worker.processItem item).Yields
      (worker.Concluded w item (worker.setback? w item) (worker.sends w item)) w := by
  refine Yields.bind deliver_concludes fun w₁ result hc => ?_
  exact .of_run (World.run_measure _ _ w₁) (.done ⟨hc.told, hc.sent⟩)

end Worker

/-! ### The row of an outcome -/

/-- What an outcome tells about the row of the item. -/
def Outcome.Tells (item : QueueItem) (setback : Option Setback) (row : QueueItem) : Outcome → Prop
  | .success => row.status = .sent ∧ row.sentAt.isSome = true ∧ row.attempts = item.attempts
  | .retry => row.status = .pending ∧ row.attempts.toInt = item.attempts.toInt + 1 ∧
      ∃ s, setback = some s ∧ row.lastError = some s.reason
  | .maxAttempts => row.status = .failed ∧ row.attempts = item.attempts ∧
      ∃ s, setback = some s ∧ row.lastError =
        some ("max attempts exceeded (" ++ Text.intText item.maxAttempts.toInt ++ "): " ++ s.reason)
  | _ => row.status = .failed ∧ row.attempts = item.attempts

namespace Verdict

variable {worker : Worker} {item : QueueItem} {now : Instant} {setback : Option Setback}
  {o : Outcome} {call : StoreCall}

/-- The call of an outcome changes the row of the item alone, and so that the outcome tells it.  A
row that waits does so for as long as the worker has said. -/
theorem serve_eq (h : Verdict worker item now setback o call) (t : Instant) :
    ∃ f, KeepsId f ∧ (∀ s, call.serve t s = s.change item.id .processing f) ∧
      o.Tells item setback (f item) ∧
      ((f item).status = .pending → ∃ s wait, setback = some s ∧
        item.isLastAttempt? = some false ∧ worker.wait? item s.retryAfter = some wait ∧
        retryTime? now wait = some (f item).nextAttemptAt) := by
  cases h with
  | success => exact ⟨_, Store.keepsId_succeed t, fun s => rfl, ⟨rfl, rfl, rfl⟩, nofun⟩
  | @retry setback wait at_ hl hw ht =>
      have hnext := QueueItem.isSome_nextAttempt? hl
      have hwaits := Store.waits_putBack hnext t setback.reason at_
      exact ⟨_, Store.keepsId_putBack t setback.reason at_, fun s => rfl,
        ⟨hwaits.status, hwaits.attempts, setback, rfl, hwaits.lastError⟩,
        fun _ => ⟨setback, wait, rfl, hl, hw,
          ht.trans (congrArg some hwaits.nextAttemptAt.symm)⟩⟩
  | @maxAttempts setback hl =>
      exact ⟨_, Store.keepsId_fail t _, fun s => rfl, ⟨rfl, rfl, setback, rfl, rfl⟩, nofun⟩
  | refused ho reason =>
      refine ⟨_, Store.keepsId_fail t reason, fun s => rfl, ?_, nofun⟩
      obtain ⟨hsuccess, hretry, hmax⟩ := ho
      cases o <;> first | exact ⟨rfl, rfl⟩ | contradiction

/-- The attempts are used up, or leave one more. -/
theorem le_iff_of_isLastAttempt? {last : Bool} (h : item.isLastAttempt? = some last) :
    item.maxAttempts.toInt ≤ item.attempts.toInt + 1 ↔ last = true := by
  obtain ⟨next, hn, hlast⟩ := Option.map_eq_some_iff.mp h
  rw [← hlast, decide_eq_true_iff, toInt_nextAttempt hn]

/-- An item is given up exactly if it had a setback and no attempt is left. -/
theorem maxAttempts_iff (h : Verdict worker item now setback o call) :
    o = .maxAttempts ↔
      setback.isSome = true ∧ item.maxAttempts.toInt ≤ item.attempts.toInt + 1 := by
  cases h with
  | success => simp
  | retry hl hw ht => simp [le_iff_of_isLastAttempt? hl]
  | maxAttempts hl => simp [le_iff_of_isLastAttempt? hl]
  | refused ho reason => simp [ho.2.2]

/-- An item is put back exactly if it had a setback and an attempt is left. -/
theorem retry_iff (h : Verdict worker item now setback o call) :
    o = .retry ↔ setback.isSome = true ∧ item.attempts.toInt + 1 < item.maxAttempts.toInt := by
  rw [← Int.not_le]
  cases h with
  | success => simp
  | retry hl hw ht => simp [le_iff_of_isLastAttempt? hl]
  | maxAttempts hl => simp [le_iff_of_isLastAttempt? hl]
  | refused ho reason => simp [ho.2.1]

end Verdict

/-- What becomes of an item and of everything else when a worker comes to an outcome. -/
structure Worker.Accounts (worker : Worker) (w : World) (item : QueueItem) (w' : World)
    (o : Outcome) : Prop where
  /-- Where the call that tells the store does not fail, the outcome tells the row. -/
  row : w.nextFault? o.report = none →
    ∃ row, w'.store.getItem? item.id = some row ∧ o.Tells item (worker.setback? w item) row
  maxAttempts : o = .maxAttempts ↔ (worker.setback? w item).isSome = true ∧
    item.maxAttempts.toInt ≤ item.attempts.toInt + 1
  retry : o = .retry ↔ (worker.setback? w item).isSome = true ∧
    item.attempts.toInt + 1 < item.maxAttempts.toInt
  sent : w'.sent = worker.sends w item ++ w.sent
  others : ∀ k, k ≠ item.id → w'.store.getItem? k = w.store.getItem? k
  ids : w'.store.ids = w.store.ids
  /-- The channels, the subscribers and all else beside the queue. -/
  beside : w'.store = { w.store with items := w'.store.items }

/-- **The outcome of an item tells its row**, whatever the channel, the renderer and the sender do:
it is sent, waits for its next attempt or has failed, and nothing else has changed.  Whether a
failed attempt that waiting may mend is the last depends on the attempts alone, and a sender is
called once or not at all. -/
theorem outcome_tells_row {worker : Worker} {w w' : World} {item : QueueItem} {o : Outcome}
    (hd : w.store.Distinct) (hrow : w.store.getItem? item.id = some item)
    (hs : item.status = .processing) (hrun : w.run (worker.processItem item) = (w', some o)) :
    worker.Accounts w item w' o := by
  obtain ⟨⟨call, hverdict, hstore⟩, hsent⟩ := Worker.processItem_concludes w' o hrun
  obtain ⟨f, hf, hserve, htells, -⟩ := hverdict.serve_eq w'.now
  rw [hverdict.name_eq, hserve] at hstore
  by_cases hreport : w.nextFault? o.report = none
  · rw [if_pos hreport] at hstore
    have hin : item.isIn item.id .processing = true := isIn_iff.mpr ⟨rfl, hs⟩
    refine ⟨fun _ => ⟨f item, ?_, htells⟩, hverdict.maxAttempts_iff, hverdict.retry_iff, hsent,
      fun k hk => ?_, ?_, ?_⟩
    · rw [hstore, Store.getItem?_change hd hf, hrow, Option.map_some, changeIn_of_isIn hin]
    · rw [hstore, Store.getItem?_change_of_ne hd hf hk]
    · rw [hstore, Store.ids_change hf]
    · rw [hstore, Store.change]
  · -- the call fails, and the store is what it was
    rw [if_neg hreport] at hstore
    exact ⟨fun h => absurd h hreport, hverdict.maxAttempts_iff, hverdict.retry_iff, hsent,
      fun k _ => hstore ▸ rfl, hstore ▸ rfl, hstore ▸ rfl⟩

/-- A message that gets no answer, and that is put back after its first attempt of five. -/
theorem unanswered_accounts :
    ∃ w', (Sample.pauser 1000).Accounts Sample.unanswered Sample.claimed w' .retry := by
  have hretry : (Sample.unanswered.run
      ((Sample.pauser 1000).processItem Sample.claimed)).2 = some .retry := by
    decide +kernel
  obtain ⟨w', hrun⟩ := World.exists_run hretry
  exact ⟨w', outcome_tells_row (List.nodup_singleton _) rfl rfl hrun⟩

end Courier
