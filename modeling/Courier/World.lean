import Courier.Program

/-!
# World

A world in which programs run: a store, metrics and a clock that only a sender moves.  What senders
answer and which calls of the store fail is laid down beforehand, so that a run has one result.

* `World.handle`: one request.  A call that fails leaves the store as it was.
* `World.run`: a whole program.  What it did before a crash stays.
-/

namespace Courier

/-- What a sender will answer, and how long it takes. -/
structure Reply where
  result : Except SendError Unit
  took : Span

/-- An answer of success at once. -/
def Reply.success : Reply := ⟨.ok (), ⟨0⟩⟩

/-- A notification that a sender got. -/
structure Sent where
  sender : Nat
  notification : Notification
  delivered : Bool
  deriving DecidableEq, Repr

/-- A world in which programs run. -/
structure World where
  store : Store
  metrics : Metrics
  now : Instant
  /-- How many identifiers were made. -/
  minted : Nat
  /-- What each sender answers next; success when nothing is left. -/
  replies : Table Nat (List Reply)
  /-- For each call by name whether it fails next; it does not when nothing is left. -/
  faults : Table String (List (Option StoreError))
  /-- What the senders got, the latest first. -/
  sent : List Sent

namespace World

/-- An empty store at a time. -/
def start (now : Instant) : World := ⟨.empty, .empty, now, 0, .empty, .empty, []⟩

/-- The identifier made after `n` others; it has the form of a random one. -/
def mintedId (n : Nat) : Uuid :=
  ⟨BitVec.ofNat 128 (0xC0FFEE5EED5E4D1DAF7B000000000000 + n % 0x1000000000000)⟩

/-- The first element of a list in a table, and the table without it. -/
def takeNext {κ α : Type} [DecidableEq κ] (key : κ) (t : Table κ (List α)) :
    Option α × Table κ (List α) :=
  match t.get? key with
  | some (a :: rest) => (some a, t.set key rest)
  | _ => (none, t)

/-- Appends elements to a list in a table. -/
def append {κ α : Type} [DecidableEq κ] (key : κ) (more : List α) (t : Table κ (List α)) :
    Table κ (List α) :=
  t.change [] key (· ++ more)

/-- Answers a request; no answer when the store breaks down or the time ends. -/
def handle (w : World) : (r : Request) → World × Option r.Answer
  | .store call =>
    let (fault, faults) := takeNext call.name w.faults
    let w := { w with faults }
    match fault with
    | some (some e) => (w, some (.error e))
    | _ =>
      ({ w with store := call.serve w.now w.store },
        (call.answer? w.now w.store).map Except.ok)
  | .send sender notification =>
    let (reply, replies) := takeNext sender w.replies
    let reply := reply.getD .success
    let w := { w with
      replies, sent := ⟨sender, notification, reply.result.isOk⟩ :: w.sent }
    match w.now.shift? reply.took.nanos with
    | some now => ({ w with now }, some (reply.result, reply.took))
    | none => (w, none)
  | .clock => (w, some w.now)
  | .mint => ({ w with minted := w.minted + 1 }, some (mintedId w.minted))
  | .measure m => ({ w with metrics := m.record w.metrics }, some ())
  | .metrics => (w, some w.metrics)

/-- Runs a program; no value when it crashes. -/
def run {α : Type} : Program α → World → World × Option α
  | .done a, w => (w, some a)
  | .crash, w => (w, none)
  | .ask r next, w =>
    match w.handle r with
    | (w, some answer) => run (next answer) w
    | (w, none) => (w, none)

end World

end Courier
