import Mathlib.Logic.Basic
import Courier.Delivery
import Courier.Proofs.Rules

/-!
# Proofs — Delivery — Stage

How far a worker is with a batch, as its requests and their answers tell (`Stage`), and what it may
ask at each stage (`Permits`).  Between a claim and the end of the batch the stage holds the items
still to be processed (`Stage.todo`), the present one first.

* `Permits`: one constructor for each request that a worker makes, with all that holds when it makes
  it.  An item is marked as sent only after a sender took it, is put back only while it has attempts
  left, and fails for one of the reasons of `Refusal`.
* `processBatch_follows`: a worker that processes a batch keeps to that, whatever it is answered.
-/

namespace Courier

/-- A failed attempt that waiting may mend. -/
structure Setback where
  reason : String
  /-- How long the other side asks to wait. -/
  retryAfter : Option Span

/-- How far a worker is with a batch. -/
inductive Stage where
  /-- Nothing is claimed yet. -/
  | start
  /-- The claimed items are not counted yet. -/
  | claimed (items : List QueueItem)
  /-- The first item is next. -/
  | ready (items : List QueueItem)
  /-- The channel of the item was looked up. -/
  | looked (item : QueueItem) (rest : List QueueItem)
      (answer : Except StoreError (Option Channel))
  /-- The item was sent to the channel. -/
  | tried (item : QueueItem) (rest : List QueueItem) (channel : Channel)
      (result : Except SendError Unit)
  /-- The clock was read for another attempt. -/
  | timed (item : QueueItem) (rest : List QueueItem) (setback : Setback) (now : Instant)
  /-- The end of an item was told to the store and is not counted yet. -/
  | ended (rest : List QueueItem)

namespace Stage

/-- The claimed items that are still to be processed. -/
def todo : Stage → List QueueItem
  | start => []
  | claimed items => items
  | ready items => items
  | looked item rest _ => item :: rest
  | tried item rest _ _ => item :: rest
  | timed item rest _ _ => item :: rest
  | ended rest => rest

/-- The item that is being processed. -/
def item? : Stage → Option QueueItem
  | start => none
  | claimed _ => none
  | ready items => items.head?
  | looked item _ _ => some item
  | tried item _ _ _ => some item
  | timed item _ _ _ => some item
  | ended _ => none

/-- The failed attempt after which an item may be tried again. -/
def setback? : Stage → Option Setback
  | looked _ _ (.error e) => some ⟨"channel lookup failed: " ++ e.message, none⟩
  | tried _ _ _ (.error e) => if e.isRetryable then some ⟨e.message, e.retryAfter⟩ else none
  | _ => none

/-- The channel of the present item was looked up. -/
def look : Stage → Except StoreError (Option Channel) → Stage
  | ready (item :: rest), answer => looked item rest answer
  | s, _ => s

/-- A sender answered. -/
def hear : Stage → Except SendError Unit → Stage
  | looked item rest (.ok (some channel)), result => tried item rest channel result
  | s, _ => s

/-- The clock was read. -/
def time (s : Stage) (now : Instant) : Stage :=
  match s.item?, s.setback? with
  | some item, some setback => timed item s.todo.tail setback now
  | _, _ => s

/-- Something was counted. -/
def count : Stage → Stage
  | claimed items => ready items
  | ended rest => ready rest
  | s => s

/-- The stage after an answer. -/
def next (s : Stage) : (r : Request) → r.Answer → Stage
  | .store (.claimDue _), .ok items => claimed items
  | .store (.getChannel _), answer => s.look answer
  | .store (.markSent _), _ => ended s.todo.tail
  | .store (.markFailed _ _), _ => ended s.todo.tail
  | .store (.markForRetry _ _ _), _ => ended s.todo.tail
  | .send _ _, answer => s.hear answer.1
  | .clock, now => s.time now
  | .measure _, _ => s.count
  | _, _ => s

/-- The first item to be processed is the present one. -/
theorem todo_of_item? {s : Stage} {item : QueueItem} (h : s.item? = some item) :
    s.todo = item :: s.todo.tail := by
  cases s with
  | ready items =>
      cases items with
      | nil => exact nomatch h
      | cons first rest => rw [← Option.some.inj h]; rfl
  | looked first rest answer => rw [← Option.some.inj h]; rfl
  | tried first rest channel result => rw [← Option.some.inj h]; rfl
  | timed first rest setback now => rw [← Option.some.inj h]; rfl
  | start => exact nomatch h
  | claimed items => exact nomatch h
  | ended rest => exact nomatch h

@[simp] theorem todo_count (s : Stage) : s.count.todo = s.todo := by cases s <;> rfl

@[simp] theorem todo_time (s : Stage) (now : Instant) : (s.time now).todo = s.todo := by
  cases hi : s.item? with
  | none => rw [time, hi]
  | some item =>
      cases hs : s.setback? with
      | none => rw [time, hi, hs]
      | some setback =>
          rw [time, hi, hs]
          exact (todo_of_item? hi).symm

end Stage

/-- Why an item fails for good, and the text that is kept with it. -/
inductive Refusal (w : Worker) : Stage → QueueItem → String → Prop where
  | missing (item : QueueItem) (rest : List QueueItem) :
      Refusal w (.looked item rest (.ok none)) item "channel not found"
  | unverified (item : QueueItem) (rest : List QueueItem) {channel : Channel}
      (h : ¬ channel.verified) :
      Refusal w (.looked item rest (.ok (some channel))) item "channel is not verified"
  | disabled (item : QueueItem) (rest : List QueueItem) {channel : Channel}
      (hv : channel.verified) (he : ¬ channel.enabled) :
      Refusal w (.looked item rest (.ok (some channel))) item "channel is disabled"
  | unrendered (item : QueueItem) (rest : List QueueItem) {channel : Channel} {e : RenderError}
      (hv : channel.verified) (he : channel.enabled)
      (hm : w.renderer.render channel.channelType item.payload = .error e) :
      Refusal w (.looked item rest (.ok (some channel))) item ("render failed: " ++ e.message)
  | unserved (item : QueueItem) (rest : List QueueItem) {channel : Channel} {message : Message}
      (hv : channel.verified) (he : channel.enabled)
      (hm : w.renderer.render channel.channelType item.payload = .ok message)
      (hs : w.registry.sender? channel.channelType = none) :
      Refusal w (.looked item rest (.ok (some channel))) item
        ("no sender configured for " ++ channel.channelType.name ++ " channels")
  | rejected (item : QueueItem) (rest : List QueueItem) (channel : Channel) {e : SendError}
      (h : ¬ e.isRetryable) :
      Refusal w (.tried item rest channel (.error e)) item e.message
  | exhausted {s : Stage} {item : QueueItem} {setback : Setback} (hi : s.item? = some item)
      (hs : s.setback? = some setback) (hl : item.isLastAttempt? = some true) :
      Refusal w s item (Worker.exhausted item setback.reason)

/-- The item that is refused is the one that the worker is at. -/
theorem Refusal.item? {w : Worker} {s : Stage} {item : QueueItem} {reason : String}
    (h : Refusal w s item reason) : s.item? = some item := by
  cases h with
  | exhausted hi => exact hi
  | _ => rfl

/-- What a worker may ask at a stage. -/
inductive Permits (w : Worker) : Stage → Request → Prop where
  | claim : Permits w .start (.store (.claimDue w.batchSize))
  | fetched (items : List QueueItem) :
      Permits w (.claimed items) (.measure (.fetched items.length))
  | look (item : QueueItem) (rest : List QueueItem) :
      Permits w (.ready (item :: rest)) (.store (.getChannel item.channelId))
  | send (item : QueueItem) (rest : List QueueItem) {channel : Channel} {message : Message}
      {place : Nat} (hv : channel.verified) (he : channel.enabled)
      (hm : w.renderer.render channel.channelType item.payload = .ok message)
      (hs : w.registry.sender? channel.channelType = some place) :
      Permits w (.looked item rest (.ok (some channel)))
        (.send place ⟨channel.recipient, message.subject, message.body⟩)
  | sendTime (item : QueueItem) (rest : List QueueItem) (channel : Channel)
      (result : Except SendError Unit) (took : Span) :
      Permits w (.tried item rest channel result)
        (.measure (.sendTime channel.channelType.name took))
  | succeed (item : QueueItem) (rest : List QueueItem) (channel : Channel) :
      Permits w (.tried item rest channel (.ok ())) (.store (.markSent item.id))
  | fail {s : Stage} {item : QueueItem} {reason : String} (h : Refusal w s item reason) :
      Permits w s (.store (.markFailed item.id reason))
  | wait {s : Stage} {item : QueueItem} {setback : Setback} (hi : s.item? = some item)
      (hs : s.setback? = some setback) (hl : item.isLastAttempt? = some false) :
      Permits w s .clock
  | putBack (item : QueueItem) (rest : List QueueItem) (setback : Setback) {now at_ : Instant}
      {wait : Span} (hl : item.isLastAttempt? = some false)
      (hw : w.wait? item setback.retryAfter = some wait) (ht : retryTime? now wait = some at_) :
      Permits w (.timed item rest setback now)
        (.store (.markForRetry item.id setback.reason at_))
  | outcome (rest : List QueueItem) (label : String) (o : Outcome) :
      Permits w (.ended rest) (.measure (.outcome label o))

namespace Worker
open Program

variable (w : Worker)

/-- The rules that a worker keeps to. -/
def rules : Rules Stage := ⟨Permits w, Stage.next⟩

variable {w}

/-- To fail an item keeps to the rules, where there is a reason to refuse it. -/
theorem fail_follows {s : Stage} {item : QueueItem} {reason : String}
    (h : Refusal w s item reason) :
    (fail item reason).Follows w.rules (fun t _ => t = .ended s.todo.tail) s :=
  Follows.ask (Permits.fail h) fun _ => rfl

/-- To put off or give up an item keeps to the rules, where its attempt has failed. -/
theorem retryOrFail_follows {s : Stage} {item : QueueItem} (setback : Setback)
    (hi : s.item? = some item) (hs : s.setback? = some setback) :
    (w.retryOrFail item setback.reason setback.retryAfter).Follows w.rules
      (fun t _ => t = .ended s.todo.tail) s := by
  simp only [retryOrFail, bind_eq_bind, pure_eq_done]
  refine Follows.orCrash fun last hl => ?_
  cases last with
  | true => exact Follows.bind (fail_follows (.exhausted hi hs hl)) fun _ _ ht => ht
  | false =>
      simp only [Bool.false_eq_true, if_false]
      -- the wait is a power of floats, which is not to be evaluated
      generalize ho : w.wait? item setback.retryAfter = wait?
      refine Follows.orCrash fun wait hw => ?_
      refine Follows.ask (Permits.wait hi hs hl) fun now => ?_
      have htimed : w.rules.next s .clock now = .timed item s.todo.tail setback now := by
        simp only [rules, Stage.next, Stage.time, hi, hs]
      rw [htimed]
      refine Follows.orCrash fun at_ ht => ?_
      exact Follows.ask (Permits.putBack item _ setback hl (ho.trans hw) ht) fun _ => rfl

/-- To settle the answer of a sender keeps to the rules. -/
theorem settle_follows (item : QueueItem) (rest : List QueueItem) (channel : Channel)
    (result : Except SendError Unit) :
    (w.settle item result).Follows w.rules (fun t _ => t = .ended rest)
      (.tried item rest channel result) := by
  cases result with
  | ok _ => exact Follows.ask (Permits.succeed item rest channel) fun _ => rfl
  | error e =>
      by_cases h : e.isRetryable = true
      · rw [settle, if_pos h]
        exact retryOrFail_follows (s := .tried item rest channel (.error e))
          ⟨e.message, e.retryAfter⟩ rfl (if_pos h)
      · rw [settle, if_neg h]
        exact Follows.bind (fail_follows (.rejected item rest channel h)) fun _ _ ht => ht

/-- To deliver to a channel that was looked up keeps to the rules. -/
theorem deliverTo_follows (item : QueueItem) (rest : List QueueItem) {channel : Channel}
    (hv : channel.verified) (he : channel.enabled) :
    (w.deliverTo item channel).Follows w.rules (fun t _ => t = .ended rest)
      (.looked item rest (.ok (some channel))) := by
  rw [deliverTo]
  cases hm : w.renderer.render channel.channelType item.payload with
  | error e => exact Follows.bind (fail_follows (.unrendered item rest hv he hm)) fun _ _ ht => ht
  | ok message =>
      cases hs : w.registry.sender? channel.channelType with
      | none =>
          exact Follows.bind (fail_follows (.unserved item rest hv he hm hs)) fun _ _ ht => ht
      | some place =>
          refine Follows.ask (Permits.send item rest hv he hm hs) fun answer => ?_
          refine Follows.ask (Permits.sendTime item rest channel _ _) fun _ => ?_
          exact settle_follows item rest channel answer.1

/-- To deliver an item keeps to the rules, from the look-up on. -/
theorem deliver_follows (item : QueueItem) (rest : List QueueItem) :
    (w.deliver item).Follows w.rules (fun t _ => t = .ended rest) (.ready (item :: rest)) := by
  refine Follows.ask (Permits.look item rest) fun answer => ?_
  match answer with
  | .error e =>
      exact Follows.bind (retryOrFail_follows (s := .looked item rest (.error e))
        ⟨"channel lookup failed: " ++ e.message, none⟩ rfl rfl) fun _ _ ht => ht
  | .ok none => exact Follows.bind (fail_follows (.missing item rest)) fun _ _ ht => ht
  | .ok (some channel) =>
      show Program.Follows _ _ (ite _ _ (ite _ _ _)) _
      by_cases hv : channel.verified = true
      · by_cases he : channel.enabled = true
        · rw [if_neg (not_not.mpr hv), if_neg (not_not.mpr he)]
          exact Follows.bind (deliverTo_follows item rest hv he) fun _ _ ht => ht
        · rw [if_neg (not_not.mpr hv), if_pos he]
          exact Follows.bind (fail_follows (.disabled item rest hv he)) fun _ _ ht => ht
      · rw [if_pos hv]
        exact Follows.bind (fail_follows (.unverified item rest hv)) fun _ _ ht => ht

/-- To process an item keeps to the rules, and leaves those that follow. -/
theorem processItem_follows (item : QueueItem) (rest : List QueueItem) :
    (w.processItem item).Follows w.rules (fun t _ => t = .ready rest) (.ready (item :: rest)) := by
  refine Follows.bind (deliver_follows item rest) fun t result ht => ?_
  subst ht
  exact Follows.ask (Permits.outcome rest _ _) fun _ => rfl

/-- To process a batch keeps to the rules, and leaves nothing to do. -/
theorem processAll_follows (items : List QueueItem) :
    (w.processAll items).Follows w.rules (fun t _ => t.todo = []) (.ready items) := by
  induction items with
  | nil => rfl
  | cons item rest ih =>
      refine Follows.bind (processItem_follows item rest) fun t _ ht => ?_
      exact ht ▸ ih

/-- **A worker keeps to its rules**, whatever it is answered, and it ends a batch with nothing left
to process. -/
theorem processBatch_follows (w : Worker) :
    w.processBatch.Follows w.rules (fun t _ => t.todo = []) .start := by
  refine Follows.ask Permits.claim fun answer => ?_
  match answer with
  | .error e => rfl
  | .ok [] => rfl
  | .ok (item :: items) =>
      refine Follows.ask (Permits.fetched (item :: items)) fun _ => ?_
      exact Follows.bind (processAll_follows (item :: items)) fun _ _ ht => ht

end Worker

end Courier
