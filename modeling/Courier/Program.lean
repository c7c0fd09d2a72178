import Courier.Metrics
import Courier.Notification
import Courier.Store.Call
import Courier.Time.Seconds

/-!
# Program

What a worker, a handler or a request does, as a tree: a request to the world outside, and for every
answer to it what follows.  A program does nothing by itself.  Where several run at once, each of
their requests is one indivisible step, so an interleaving is an order of requests.

* `Request`: what can be asked, and `Request.Answer` what comes back.
* `Program`: `done` with a value, `ask` and go on, or `crash`.
-/

namespace Courier

/-- Something to count. -/
inductive Measurement where
  | fetched (count : Nat)
  | outcome (label : String) (outcome : Outcome)
  | sendTime (label : String) (took : Span)
  | depths (stats : QueueStats)

namespace Measurement

/-- Counts it. -/
def record (m : Metrics) : Measurement → Metrics
  | fetched count => m.recordFetched count
  | outcome label o => m.recordOutcome label o
  | sendTime label took => m.observe label took.seconds
  | depths stats => m.setDepths stats

end Measurement

/-- What a program asks of the world. -/
inductive Request where
  | store (call : StoreCall)
  /-- Hands a notification to the sender at a place of the registry. -/
  | send (sender : Nat) (notification : Notification)
  | clock
  /-- A new identifier. -/
  | mint
  | measure (measurement : Measurement)
  /-- The metrics as they stand. -/
  | metrics

namespace Request

/-- What comes back.  A sender also tells how long it took. -/
abbrev Answer : Request → Type
  | store call => Except StoreError call.Result
  | send _ _ => Except SendError Unit × Span
  | clock => Instant
  | mint => Uuid
  | measure _ => Unit
  | metrics => Metrics

end Request

/-- Requests and what follows on their answers. -/
inductive Program (α : Type) : Type where
  | done (value : α)
  | ask (request : Request) (next : request.Answer → Program α)
  | crash

namespace Program

variable {α β : Type}

/-- One program and then another. -/
def bind : Program α → (α → Program β) → Program β
  | done a, f => f a
  | ask request next, f => ask request fun answer => bind (next answer) f
  | crash, _ => crash

instance : Monad Program where
  pure := done
  bind := bind

/-- The answer to a request. -/
def request (r : Request) : Program r.Answer := ask r done

/-- The answer of the store to a call. -/
def call (c : StoreCall) : Program (Except StoreError c.Result) := request (.store c)

/-- Records a measurement. -/
def measure (m : Measurement) : Program Unit := request (.measure m)

/-- A value that has to be there. -/
def orCrash : Option α → Program α
  | some a => done a
  | none => crash

@[simp] theorem done_bind (a : α) (f : α → Program β) : (done a).bind f = f a := rfl

@[simp] theorem crash_bind (f : α → Program β) : (crash : Program α).bind f = crash := rfl

@[simp] theorem ask_bind (r : Request) (next : r.Answer → Program α) (f : α → Program β) :
    (ask r next).bind f = ask r fun answer => (next answer).bind f := rfl

@[simp] theorem pure_eq_done (a : α) : (pure a : Program α) = done a := rfl

@[simp] theorem bind_eq_bind (p : Program α) (f : α → Program β) : p >>= f = p.bind f := rfl

theorem bind_done (p : Program α) : p.bind done = p := by
  induction p with
  | done a => rfl
  | ask r next ih => simp [ih]
  | crash => rfl

/-- It does not matter how a sequence is grouped. -/
theorem bind_assoc {γ : Type} (p : Program α) (f : α → Program β) (g : β → Program γ) :
    (p.bind f).bind g = p.bind fun a => (f a).bind g := by
  induction p with
  | done a => rfl
  | ask r next ih => simp [ih]
  | crash => rfl

instance : LawfulMonad Program :=
  LawfulMonad.mk' Program bind_done (fun _ _ => rfl) bind_assoc

end Program

end Courier
