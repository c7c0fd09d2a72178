import Courier.Proofs.Delivery.Stage
import Courier.Proofs.Metrics
import Courier.Proofs.Queue.Rows
import Courier.Proofs.World

/-!
# Proofs — Delivery — Tally

How many items of a batch are counted as fetched while their processing is not over.

* `Worker.processItem_countsOnce`: to process an item counts one outcome, by the last request that is
  made for it, and nothing as fetched.
* `Worker.Left`: what is left of a batch, with that many items.  `Left.next`: each answer leads from
  one such place to another.
* `Stage.unfinished`: that many items, by the stage.  `Permits.unfinished`: it goes up by what a
  request counts as fetched, and down by the outcomes that it counts.
-/

namespace Courier

/-- The items that are counted as fetched and whose processing is not over. -/
def Stage.unfinished : Stage → Nat
  | start => 0
  | claimed _ => 0
  | ended rest => rest.length + 1
  | s => s.todo.length

/-- The item that a worker is at is unfinished, and so are those that follow. -/
theorem Stage.unfinished_of_item? {s : Stage} {item : QueueItem} (h : s.item? = some item) :
    s.unfinished = s.todo.tail.length + 1 := by
  cases s with
  | ready items =>
      cases items with
      | nil => exact nomatch h
      | cons first rest => rfl
  | start => exact nomatch h
  | claimed items => exact nomatch h
  | ended rest => exact nomatch h
  | _ => rfl

/-- **What a request counts is what becomes of the items**: they come to be unfinished as they are
counted as fetched, and are finished as their outcomes are counted. -/
theorem Permits.unfinished {w : Worker} {s : Stage} {r : Request} (h : Permits w s r)
    (a : r.Answer) : (s.next r a).unfinished + r.outcomes = s.unfinished + r.fetched := by
  cases h with
  | claim => cases a <;> rfl
  | fetched items => exact (Nat.zero_add items.length).symm
  | look item rest => rfl
  | send item rest hv he hm hs => rfl
  | sendTime item rest channel result took => rfl
  | succeed item rest channel => rfl
  | fail hr => exact (Stage.unfinished_of_item? hr.item?).symm
  | wait hi hs hl =>
      rw [Stage.unfinished_of_item? hi]
      simp only [Stage.next, Stage.time, hi, hs]
      rfl
  | putBack item rest setback hl hw ht => rfl
  | outcome rest label o => rfl

/-! ### One item -/

/-- The rules of what counts at most one outcome, by its last request, and nothing as fetched. -/
def closing : Rules Nat :=
  ⟨fun counted r => counted = 0 ∧ r.fetched = 0, fun counted r _ => counted + r.outcomes⟩

/-- The program ends after so many outcomes were counted. -/
def Program.Counts {α : Type} (k : Nat) (p : Program α) : Prop :=
  p.Follows closing (fun counted _ => counted = k) 0

namespace Worker
open Program

variable {w : Worker}

theorem fail_silent (item : QueueItem) (reason : String) : (fail item reason).Counts 0 :=
  Follows.ask ⟨rfl, rfl⟩ fun _ => rfl

/-- What counts no outcome may be followed by what counts some. -/
theorem Counts.then {α β : Type} {p : Program α} {f : α → Program β} {k : Nat} (h : p.Counts 0)
    (hf : ∀ a, (f a).Counts k) : (p.bind f).Counts k :=
  Follows.bind h fun _ a ht => ht ▸ hf a

/-- To put off or give up an item counts no outcome by itself. -/
theorem retryOrFail_silent (item : QueueItem) (error : String) (retryAfter : Option Span) :
    (w.retryOrFail item error retryAfter).Counts 0 := by
  simp only [retryOrFail, bind_eq_bind, pure_eq_done]
  refine Follows.orCrash fun last _ => ?_
  cases last with
  | true => exact Counts.then (fail_silent item _) fun _ => rfl
  | false =>
      simp only [Bool.false_eq_true, if_false]
      -- the wait is a power of floats, which is not to be evaluated
      generalize w.wait? item retryAfter = wait?
      refine Follows.orCrash fun wait _ => ?_
      refine Follows.ask ⟨rfl, rfl⟩ fun now => ?_
      refine Follows.orCrash fun at_ _ => ?_
      exact Follows.ask ⟨rfl, rfl⟩ fun _ => rfl

theorem settle_silent (item : QueueItem) (result : Except SendError Unit) :
    (w.settle item result).Counts 0 := by
  cases result with
  | ok _ => exact Follows.ask ⟨rfl, rfl⟩ fun _ => rfl
  | error e =>
      by_cases h : e.isRetryable = true
      · rw [settle, if_pos h]
        exact retryOrFail_silent item _ _
      · rw [settle, if_neg h]
        exact Counts.then (fail_silent item _) fun _ => rfl

theorem deliverTo_silent (item : QueueItem) (channel : Channel) :
    (w.deliverTo item channel).Counts 0 := by
  rw [deliverTo]
  cases w.renderer.render channel.channelType item.payload with
  | error e => exact Counts.then (fail_silent item _) fun _ => rfl
  | ok message =>
      cases w.registry.sender? channel.channelType with
      | none => exact Counts.then (fail_silent item _) fun _ => rfl
      | some place =>
          refine Follows.ask ⟨rfl, rfl⟩ fun answer => ?_
          refine Follows.ask ⟨rfl, rfl⟩ fun _ => ?_
          exact settle_silent item answer.1

/-- To deliver an item counts no outcome by itself. -/
theorem deliver_silent (item : QueueItem) : (w.deliver item).Counts 0 := by
  refine Follows.ask ⟨rfl, rfl⟩ fun answer => ?_
  match answer with
  | .error e => exact Counts.then (retryOrFail_silent item _ none) fun _ => rfl
  | .ok none => exact Counts.then (fail_silent item _) fun _ => rfl
  | .ok (some channel) =>
      show Program.Counts 0 (ite _ _ (ite _ _ _))
      split
      · exact Counts.then (fail_silent item _) fun _ => rfl
      · split
        · exact Counts.then (fail_silent item _) fun _ => rfl
        · exact Counts.then (deliverTo_silent item channel) fun _ => rfl

/-- **To process an item counts one outcome**, by the last request that is made for it. -/
theorem processItem_countsOnce (w : Worker) (item : QueueItem) : (w.processItem item).Counts 1 :=
  Counts.then (deliver_silent item) fun _ => Follows.ask ⟨rfl, rfl⟩ fun _ => rfl

/-- While requests for an item are left, no outcome was counted, and the next request counts nothing
as fetched; the outcome is counted by it exactly if it is the last one. -/
theorem leaves_processItem {item : QueueItem} {r : Request} {next : r.Answer → Program Outcome}
    (h : (w.processItem item).Leaves (.ask r next)) (a : r.Answer) :
    r.fetched = 0 ∧ (next a).Follows closing (fun counted _ => counted = 1) r.outcomes := by
  obtain ⟨counted, ⟨rfl, hfetched⟩, hnext⟩ := (processItem_countsOnce w item).leaves h
  refine ⟨hfetched, ?_⟩
  have := hnext a
  rwa [show closing.next 0 r a = r.outcomes from Nat.zero_add _] at this

/-! ### A batch -/

/-- The items that are still to be processed, and then the answer. -/
def conclude (w : Worker) (items : List QueueItem) (total : Nat) :
    Program (Except StoreError Nat) := do
  w.processAll items
  return .ok total

/-- What may be left of a batch in which so many items are counted as fetched while their processing
is not over. -/
inductive Left (w : Worker) : Nat → Program (Except StoreError Nat) → Prop where
  | claiming : Left w 0 w.processBatch
  | counting {items : List QueueItem} (h : items.length ≤ w.batchSize.toNat) :
      Left w 0 ((Program.measure (.fetched items.length)).bind fun _ => w.conclude items items.length)
  /-- An item is being processed, and others come after it. -/
  | processing {item : QueueItem} (rest : List QueueItem) (total : Nat) {r : Request}
      {next : r.Answer → Program Outcome} (h : (w.processItem item).Leaves (.ask r next)) :
      Left w (rest.length + 1) ((Program.ask r next).bind fun _ => w.conclude rest total)
  | finished (result : Except StoreError Nat) : Left w 0 (.done result)

/-- The items still to be processed after the count or after another item. -/
theorem left_conclude (items : List QueueItem) (total : Nat) :
    w.Left items.length (w.conclude items total) := by
  cases items with
  | nil => exact .finished _
  | cons item rest =>
      have h : w.conclude (item :: rest) total =
          (w.processItem item).bind fun _ => w.conclude rest total :=
        Program.bind_assoc _ _ _
      rw [h]
      exact .processing rest total .all

/-- Where no request is left, no item is unfinished. -/
theorem Left.eq_zero {k : Nat} {p : Program (Except StoreError Nat)} (h : w.Left k p)
    (hp : ∀ r next, p ≠ .ask r next) : k = 0 := by
  cases h with
  | processing rest total hleaves => exact absurd rfl (hp _ _)
  | _ => rfl

/-- What is counted as fetched at once is no more than a claim takes. -/
theorem Left.fetched_lt {k : Nat} {r : Request}
    {next : r.Answer → Program (Except StoreError Nat)} (h : w.Left k (.ask r next)) :
    r.fetched < UInt32.size := by
  generalize hp : Program.ask r next = p at h
  cases h with
  | claiming =>
      change _ = Program.ask (.store (.claimDue w.batchSize)) _ at hp
      cases hp
      exact Nat.zero_lt_of_lt w.batchSize.toNat_lt_size
  | counting hlength =>
      cases hp
      exact Nat.lt_of_le_of_lt hlength w.batchSize.toNat_lt_size
  | processing rest total hleaves =>
      cases hp
      obtain ⟨-, ⟨-, hfetched⟩, -⟩ := (processItem_countsOnce w _).leaves hleaves
      exact hfetched ▸ Nat.zero_lt_of_lt w.batchSize.toNat_lt_size
  | finished result => cases hp

/-- **Each answer leads on through the batch**, unless the worker crashes: an item becomes unfinished
as it is counted as fetched, and is finished as its outcome is counted. -/
theorem Left.answer {k k' : Nat} {r : Request}
    {next : r.Answer → Program (Except StoreError Nat)} (h : w.Left k (.ask r next)) {world : World}
    {handled : World × Option r.Answer} (hr : world.Handled r handled) {a : r.Answer}
    (ha : handled.2 = some a) (hk : k' + r.outcomes = k + r.fetched) (hc : next a ≠ .crash) :
    w.Left k' (next a) := by
  generalize hp : Program.ask r next = p at h
  cases h with
  | claiming =>
      change _ = Program.ask (.store (.claimDue w.batchSize)) _ at hp
      cases hp
      obtain rfl : k' = 0 := hk
      cases hr with
      | failed call hw e =>
          cases ha
          exact .finished _
      | served call hw =>
          obtain rfl := Option.some.inj ha
          have hlength : (world.store.claimed world.now w.batchSize).length ≤ w.batchSize.toNat := by
            rw [Store.claimed, List.length_map]
            exact List.length_take_le _ _
          generalize world.store.claimed world.now w.batchSize = items at hlength
          cases items with
          | nil => exact .finished _
          | cons item rest => exact .counting hlength
  | @counting items hlength =>
      cases hp
      obtain rfl : k' = items.length := hk.trans (Nat.zero_add _)
      exact left_conclude items _
  | @processing item rest total _ inner hleaves =>
      cases hp
      obtain ⟨hfetched, hnext⟩ := leaves_processItem hleaves a
      rw [hfetched, Nat.add_zero] at hk
      replace hleaves := hleaves.answer a
      show w.Left k' ((inner a).bind fun _ => w.conclude rest total)
      replace hc : (inner a).bind (fun _ => w.conclude rest total) ≠ .crash := hc
      generalize inner a = left at hleaves hnext hc ⊢
      cases left with
      | done outcome =>
          -- the outcome was counted, and the item is finished
          obtain rfl : k' = rest.length := Nat.add_right_cancel (hk ▸ congrArg (k' + ·) hnext.symm)
          exact left_conclude rest total
      | ask r' next' =>
          obtain rfl : k' = rest.length + 1 := hk ▸ congrArg (k' + ·) hnext.1.1.symm
          exact .processing rest total hleaves
      | crash => exact absurd rfl hc
  | finished result => cases hp

end Worker

end Courier
