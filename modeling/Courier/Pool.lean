import Courier.Delivery
import Courier.Settings
import Courier.World

/-!
# Pool

Several workers and a sampler over one store.  Before they start, claims that were abandoned go back
to the queue.  Then every worker polls at regular times, and the sampler counts the queue.

* `recover`: gives abandoned claims back.
* `Pool.times`: when somebody acts; at one time the workers act in order and the sampler last.
* `Pool.runPhase`: from a start to a stop.  Everybody has a first turn, however soon the stop comes;
  each turn is over before the next one begins, and an actor that crashes has no further turn.
-/

namespace Courier

namespace Span

/-- The milliseconds between two turns of an actor, one at least. -/
def period (s : Span) : Nat := Max.max s.millis 1

theorem period_pos (s : Span) : 0 < s.period := by
  unfold period; omega

end Span

namespace PoolSettings

/-- The longest age of a claim that can be subtracted from a time: 2^63 - 1 milliseconds. -/
def longestAge : Span := .ofMillis 9223372036854775807

/-- The age from which a claim counts as abandoned; an age beyond the longest counts as ten
minutes. -/
def staleAge (s : PoolSettings) : Span :=
  if s.staleClaimAfter.nanos ≤ longestAge.nanos then s.staleClaimAfter else .ofSeconds 600

end PoolSettings

/-- Gives the claims back that are older than the settings allow; the answer is how many they
were. -/
def recover (s : PoolSettings) : Program (Except StoreError Nat) := do
  let now ← Program.request .clock
  let cutoff ← Program.orCrash (now.shift? (-s.staleAge.nanos))
  Program.call (.recoverStale cutoff)

/-- One who acts at regular times. -/
inductive Actor where
  | worker (number : Nat)
  | sampler
  deriving DecidableEq, Repr

namespace Actor

/-- What an actor does at its time. -/
def turn (worker : Worker) : Actor → Program Unit
  | .worker _ => do
    let _ ← worker.processBatch
  | .sampler => do
    let _ ← refreshDepths

end Actor

namespace Pool

/-- The actors of a pool, in the order in which they act at one time. -/
def actors (s : PoolSettings) : List Actor :=
  (List.range s.workerCount.toNat).map .worker ++ [.sampler]

/-- The milliseconds between two turns of an actor. -/
def periodOf (s : PoolSettings) : Actor → Nat
  | .worker _ => s.pollInterval.period
  | .sampler => s.statsInterval.period

/-- Lets the actors that are due at a millisecond act; those that crashed are left out from then
on. -/
def tick (s : PoolSettings) (worker : Worker) (time : Nat) :
    List Actor → World → List Actor × World
  | [], w => ([], w)
  | actor :: rest, w =>
    if time % periodOf s actor = 0 then
      match w.run (actor.turn worker) with
      | (w, some ()) =>
        let (alive, w) := tick s worker time rest w
        (actor :: alive, w)
      -- what the crashed turn did to the world before stays done
      | (w, none) => tick s worker time rest w
    else
      let (alive, w) := tick s worker time rest w
      (actor :: alive, w)

/-- The first multiple of `p` after `t`. -/
def nextMultiple (p t : Nat) : Nat := p * (t / p + 1)

theorem lt_nextMultiple {p : Nat} (t : Nat) (h : 0 < p) : t < nextMultiple p t :=
  Nat.lt_mul_div_succ t h

/-- The multiples of `p` or `q` from `t` on that lie below `length`. -/
def multiplesFrom (p q length t : Nat) (hp : 0 < p) (hq : 0 < q) : List Nat :=
  if _h : t < length then
    t :: multiplesFrom p q length (min (nextMultiple p t) (nextMultiple q t)) hp hq
  else []
termination_by length - t
decreasing_by
  have := lt_nextMultiple t hp
  have := lt_nextMultiple t hq
  omega

/-- The milliseconds at which somebody acts: at once, and then at those below `length`.  The first
turns are due with the start, so that a stop in the same millisecond comes after them. -/
def times (s : PoolSettings) (length : Nat) : List Nat :=
  multiplesFrom s.pollInterval.period s.statsInterval.period (max length 1) 0
    s.pollInterval.period_pos s.statsInterval.period_pos

/-- Runs the actors for a number of milliseconds. -/
def runFor (s : PoolSettings) (worker : Worker) (length : Nat) (w : World) : World :=
  ((times s length).foldl
    (fun (state : List Actor × World) time => tick s worker time state.1 state.2)
    (actors s, w)).2

/-- How a phase began: the answer of the first start, and whether the pool ran. -/
structure Phase where
  start : Except StoreError Unit
  running : Bool

/-- A phase: the pool is started, started once more, which changes nothing when it runs, and stopped
after a number of milliseconds.  None when a start crashes. -/
def runPhase (s : PoolSettings) (worker : Worker) (length : Nat) (w : World) :
    World × Option Phase :=
  match w.run (recover s) with
  | (w, none) => (w, none)
  | (w, some (.ok _)) => (runFor s worker length w, some ⟨.ok (), true⟩)
  | (w, some (.error e)) =>
    match w.run (recover s) with
    | (w, none) => (w, none)
    | (w, some (.ok _)) => (runFor s worker length w, some ⟨.error e, true⟩)
    | (w, some (.error _)) => (w, some ⟨.error e, false⟩)

/-- Phases one after the other. -/
def runPhases (s : PoolSettings) (worker : Worker) : List Nat → World → World × Option (List Phase)
  | [], w => (w, some [])
  | length :: lengths, w =>
    match runPhase s worker length w with
    | (w, none) => (w, none)
    | (w, some phase) =>
      match runPhases s worker lengths w with
      | (w, some phases) => (w, some (phase :: phases))
      | (w, none) => (w, none)

end Pool

end Courier
