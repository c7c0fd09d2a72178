import Mathlib.Logic.Function.Basic
import Courier.Proofs.Delivery.Stage
import Courier.Proofs.Queue.Rows
import Courier.Proofs.Store.Edit
import Courier.Proofs.World

/-!
# Proofs — Crew — Machine

Any number of workers over one store.  Every request of a worker is one step, and between two steps
anything may come in from outside: new items, a requeue, a recovery, an edit of the channels, another
time, other answers of the senders and other failures of the store.

* `Crew`: the world, a desk for each worker, and the history of what was done, the latest first.
* `Crew.step`: one move.  `Run` holds of the crews that some order of moves leads to.
* `Run.kept`: whatever the order, each worker keeps to its rules.
-/

namespace Courier

/-- What the history keeps. -/
inductive Deed where
  /-- A worker got items. -/
  | claimed (worker : Nat) (items : List QueueItem)
  /-- A worker looked up the channel of an item. -/
  | looked (worker : Nat) (item : QueueItem) (answer : Except StoreError (Option Channel))
  /-- A sender answered for an item. -/
  | sent (worker : Nat) (item : QueueItem) (sender : Nat) (notification : Notification)
      (result : Except SendError Unit)
  /-- A worker's report of the end of an attempt changed the row of the item. -/
  | wrote (worker : Nat) (id : Uuid)
  /-- A failed item went back to the queue. -/
  | requeued (id : Uuid)
  /-- Claims went back to the queue. -/
  | recovered (ids : List Uuid)

namespace Deed

/-- A worker claimed the item. -/
def claims (id : Uuid) : Deed → Bool
  | claimed _ items => id ∈ items.map (·.id)
  | _ => false

/-- A sender was called for the item. -/
def sends (id : Uuid) : Deed → Bool
  | sent _ item _ _ _ => item.id = id
  | _ => false

/-- A sender took a message for the item. -/
def delivers (id : Uuid) : Deed → Bool
  | sent _ item _ _ (.ok _) => item.id = id
  | _ => false

/-- What is delivered was sent with success. -/
theorem delivers_sent {id : Uuid} {n : Nat} {item : QueueItem} {sender : Nat}
    {notification : Notification} {result : Except SendError Unit} :
    (sent n item sender notification result).delivers id = true ↔
      result = .ok () ∧ item.id = id := by
  cases result with
  | ok _ => simp [delivers]
  | error e => simp [delivers]

theorem sends_of_delivers {id : Uuid} {d : Deed} (h : d.delivers id = true) :
    d.sends id = true := by
  cases d with
  | sent n item sender notification result => exact decide_eq_true (delivers_sent.mp h).2
  | _ => exact nomatch h

end Deed

/-- The item whose row a call reports the end of an attempt for. -/
def StoreCall.report? : StoreCall → Option Uuid
  | markSent id => some id
  | markFailed id _ => some id
  | markForRetry id _ _ => some id
  | _ => none

namespace Request

/-- The item whose row a request reports the end of an attempt for. -/
def report? : Request → Option Uuid
  | store call => call.report?
  | _ => none

/-- Whether a request had its effect: a call of the store that failed had none. -/
def took : (r : Request) → Option r.Answer → Bool
  | store _, some (.error _) => false
  | _, _ => true

end Request

/-- A worker at work. -/
structure Desk where
  /-- What is left of the batch. -/
  job : Option (Program (Except StoreError Nat))
  /-- How far the batch is. -/
  stage : Stage
  /-- What was claimed and not yet written back. -/
  held : List QueueItem

namespace Desk

/-- No batch was begun. -/
def free : Desk := ⟨none, .start, []⟩

/-- What is held after a request. -/
def heldAfter (held : List QueueItem) (r : Request) (answer : Option r.Answer) :
    List QueueItem :=
  match r, answer with
  | .store (.claimDue _), some (.ok items) => held ++ items
  | r, answer =>
    match r.report? with
    | some id => if r.took answer then held.filter (·.id ≠ id) else held
    | none => held

/-- The desk after a request.  A batch that gets no answer has crashed. -/
def after (d : Desk) (r : Request) (next : r.Answer → Program (Except StoreError Nat))
    (answer : Option r.Answer) : Desk :=
  { job := some (answer.elim .crash next)
    stage := answer.elim .start (d.stage.next r)
    held := heldAfter d.held r answer }

/-- What the history keeps of a request of worker `n` to a store. -/
def deeds (n : Nat) (d : Desk) (s : Store) (r : Request) (answer : Option r.Answer) : List Deed :=
  match r, answer with
  | .store (.claimDue _), some (.ok items) => [.claimed n items]
  | .store (.getChannel _), some answer => d.stage.item?.toList.map fun item =>
      .looked n item answer
  | .send sender notification, some (result, _) => d.stage.item?.toList.map fun item =>
      .sent n item sender notification result
  | r, answer =>
    match r.report? with
    | some id =>
      if r.took answer ∧ (s.findIn? id .processing).isSome then [.wrote n id] else []
    | none => []

end Desk

/-- One move, by a worker or from outside. -/
inductive Move where
  /-- A worker without a batch begins one. -/
  | begin (n : Nat)
  /-- A worker makes its next request, or puts away a batch that is over. -/
  | proceed (n : Nat)
  | enqueue (items : List NewItem)
  | requeue (id : Uuid)
  | recover (olderThan : Instant)
  | edit (edit : Edit)
  /-- What lies ahead changes: the time, the answers of the senders and the failing calls. -/
  | turn (now : Instant) (replies : Table Nat (List Reply))
      (faults : Table String (List (Option StoreError)))

/-- Workers over one world. -/
structure Crew where
  world : World
  desks : Nat → Desk
  /-- What was done, the latest first. -/
  log : List Deed

namespace Crew

/-- Nobody has begun anything. -/
def gather (w : World) : Crew := ⟨w, fun _ => .free, []⟩

/-- The crew with another store, and with more in its history. -/
def visit (c : Crew) (store : Store) (deeds : List Deed) : Crew :=
  { c with world := { c.world with store }, log := deeds ++ c.log }

/-- A worker without a job starts on a batch. -/
def begin (team : Nat → Worker) (c : Crew) (n : Nat) : Crew :=
  match (c.desks n).job with
  | none =>
    { c with
      desks := Function.update c.desks n { c.desks n with job := some (team n).processBatch } }
  | some _ => c

/-- The crew after a request of a worker that was handled. -/
def hear (c : Crew) (n : Nat) (r : Request) (next : r.Answer → Program (Except StoreError Nat))
    (handled : World × Option r.Answer) : Crew :=
  { world := handled.1
    desks := Function.update c.desks n ((c.desks n).after r next handled.2)
    log := (c.desks n).deeds n c.world.store r handled.2 ++ c.log }

/-- A worker takes one step of its job: a request, or the end of the job. -/
def proceed (c : Crew) (n : Nat) : Crew :=
  match (c.desks n).job with
  | some (.ask r next) => c.hear n r next (c.world.handle r)
  | _ =>
    { c with
      desks := Function.update c.desks n { c.desks n with job := none, stage := .start } }

/-- A worker without a batch begins one, and another goes on with its own. -/
theorem begin_cases (team : Nat → Worker) (c : Crew) (n : Nat) :
    (c.desks n).job = none ∧ c.begin team n =
        { c with
          desks :=
            Function.update c.desks n { c.desks n with job := some (team n).processBatch } } ∨
      c.begin team n = c := by
  cases hj : (c.desks n).job with
  | none => exact .inl ⟨rfl, by rw [begin, hj]⟩
  | some p => exact .inr (by rw [begin, hj])

/-- To begin a batch leaves all but the worker's desk. -/
@[simp] theorem world_begin (team : Nat → Worker) (c : Crew) (n : Nat) :
    (c.begin team n).world = c.world := by
  rcases c.begin_cases team n with ⟨-, he⟩ | he <;> rw [he]

/-- A worker makes a request, or has none to make and puts its batch away. -/
theorem proceed_cases (c : Crew) (n : Nat) :
    (∃ r next, (c.desks n).job = some (.ask r next) ∧
        c.proceed n = c.hear n r next (c.world.handle r)) ∨
      c.proceed n =
        { c with
          desks := Function.update c.desks n { c.desks n with job := none, stage := .start } } := by
  cases hj : (c.desks n).job with
  | none => exact .inr (by rw [proceed, hj])
  | some p =>
      cases p with
      | ask r next => exact .inl ⟨r, next, rfl, by rw [proceed, hj]⟩
      | done result => exact .inr (by rw [proceed, hj])
      | crash => exact .inr (by rw [proceed, hj])

/-- A worker that has a request to make makes it. -/
theorem proceed_of_ask {c : Crew} {n : Nat} {r : Request}
    {next : r.Answer → Program (Except StoreError Nat)}
    (hj : (c.desks n).job = some (.ask r next)) :
    c.proceed n = c.hear n r next (c.world.handle r) := by
  rw [proceed, hj]

/-- The crew after a move. -/
def step (team : Nat → Worker) (c : Crew) : Move → Crew
  | .begin n => c.begin team n
  | .proceed n => c.proceed n
  | .enqueue items => c.visit (c.world.store.enqueueBatch c.world.now items) []
  | .requeue id =>
    c.visit (c.world.store.requeue c.world.now id)
      (if (c.world.store.findIn? id .failed).isSome then [.requeued id] else [])
  | .recover olderThan =>
    c.visit (c.world.store.recoverStale c.world.now olderThan)
      [.recovered ((c.world.store.items.filter (·.isStale olderThan)).map (·.id))]
  | .edit e => c.visit (e.apply c.world.now c.world.store) []
  | .turn now replies faults => { c with world := { c.world with now, replies, faults } }

/-- New items come with new identifiers. -/
def Admits (c : Crew) : Move → Prop
  | .enqueue items => c.world.store.Fresh items
  | _ => True

end Crew

/-- The crews that moves lead to which keep to a rule. -/
inductive Run (team : Nat → Worker) (rule : Crew → Move → Prop) (w : World) : Crew → Prop where
  | start : Run team rule w (.gather w)
  | step {c : Crew} (h : Run team rule w c) (m : Move) (hm : c.Admits m) (hr : rule c m) :
      Run team rule w (c.step team m)

/-- Every move. -/
def Free (_ : Crew) (_ : Move) : Prop := True

/-- Every move but a recovery. -/
def Calm (_ : Crew) : Move → Prop
  | .recover _ => False
  | _ => True

/-- A worker makes `k` requests in a row. -/
def Crew.proceeds (team : Nat → Worker) (c : Crew) (n k : Nat) : Crew :=
  Nat.repeat (·.step team (.proceed n)) k c

/-- A worker may go on for as many steps as the rule lets it. -/
theorem Run.proceeds {team : Nat → Worker} {rule : Crew → Move → Prop} {w : World} {c : Crew}
    (h : Run team rule w c) (n k : Nat) (hr : ∀ d, rule d (.proceed n)) :
    Run team rule w (c.proceeds team n k) := by
  induction k with
  | zero => exact h
  | succ k ih => exact .step ih (.proceed n) trivial (hr _)

/-! ### Every worker keeps to its rules -/

/-- The batch at hand keeps to the rules of the worker, and where none is, none has begun. -/
structure Desk.Keeps (w : Worker) (d : Desk) : Prop where
  follows : ∀ {p}, d.job = some p → p.Follows w.rules (fun t _ => t.todo = []) d.stage
  idle : d.job = none → d.stage = .start

/-- A worker that goes on keeps to its batch. -/
theorem Desk.Keeps.after {w : Worker} {d : Desk} {r : Request}
    {next : r.Answer → Program (Except StoreError Nat)} (h : d.Keeps w)
    (hj : d.job = some (.ask r next)) (answer : Option r.Answer) :
    (d.after r next answer).Keeps w :=
  ⟨fun hp => Option.some.inj hp ▸ (h.follows hj).answer answer .start, fun hp => nomatch hp⟩

/-- Every desk keeps to the rules of its worker. -/
def Crew.Kept (team : Nat → Worker) (c : Crew) : Prop := ∀ n, (c.desks n).Keeps (team n)

/-- A desk that keeps to its worker may replace another. -/
theorem Crew.Kept.update {team : Nat → Worker} {c : Crew} (h : c.Kept team) {n : Nat} {d : Desk}
    (hd : d.Keeps (team n)) (k : Nat) : (Function.update c.desks n d k).Keeps (team k) := by
  by_cases hk : k = n
  · subst hk
    rwa [Function.update_self]
  · rw [Function.update_of_ne hk]
    exact h k

/-- No move makes a worker leave its program. -/
theorem Crew.Kept.step {team : Nat → Worker} {c : Crew} (h : c.Kept team) (m : Move) :
    (c.step team m).Kept team := by
  cases m with
  | begin n =>
      show Crew.Kept team (c.begin team n)
      rcases c.begin_cases team n with ⟨hj, he⟩ | he
      · rw [he]
        -- a worker without a batch stands where batches start
        refine h.update ⟨fun hp => ?_, fun hp => nomatch hp⟩
        rw [← Option.some.inj hp]
        show Program.Follows _ _ _ (c.desks n).stage
        rw [(h n).idle hj]
        exact (team n).processBatch_follows
      · rw [he]
        exact h
  | proceed n =>
      show Crew.Kept team (c.proceed n)
      rcases c.proceed_cases n with ⟨r, next, hj, he⟩ | he
      · rw [he]
        exact h.update ((h n).after hj _)
      · rw [he]
        exact h.update ⟨fun hp => (nomatch hp), fun _ => rfl⟩
  | enqueue items => exact h
  | requeue id => exact h
  | recover olderThan => exact h
  | edit e => exact h
  | turn now replies faults => exact h

/-- **In every run each worker keeps to its rules.** -/
theorem Run.kept {team : Nat → Worker} {rule : Crew → Move → Prop} {w : World} {c : Crew}
    (h : Run team rule w c) : c.Kept team := by
  induction h with
  | start => exact fun n => ⟨fun hp => (nomatch hp), fun _ => rfl⟩
  | step _ m _ _ ih => exact ih.step m

/-! ### One message -/

namespace Sample

/-- One message to send. -/
def loaded (maxAttempts : Int32) : Crew :=
  (Crew.gather world).step team (.enqueue [item maxAttempts])

theorem run_loaded (rule : Crew → Move → Prop) (maxAttempts : Int32)
    (hr : ∀ c items, rule c (.enqueue items)) : Run team rule world (loaded maxAttempts) :=
  .step .start (.enqueue [item maxAttempts]) ⟨List.nodup_singleton _, fun _ _ => List.not_mem_nil⟩
    (hr _ _)

end Sample

end Courier
