import Courier.Program
import Courier.Registry

/-!
# Broadcast

Sending at once, past the queue: nothing is kept and nothing is tried again.
-/

namespace Courier

/-- How many messages reached their sender. -/
structure BroadcastSummary where
  delivered : Nat
  failed : Nat
  /-- The channels of a kind that has no sender. -/
  skipped : Nat
  deriving DecidableEq, Repr

namespace BroadcastSummary

/-- Nothing sent yet. -/
def zero : BroadcastSummary := ⟨0, 0, 0⟩

/-- Counts the answer of a sender. -/
def count (s : BroadcastSummary) : Except SendError Unit → BroadcastSummary
  | .ok () => { s with delivered := s.delivered + 1 }
  | .error _ => { s with failed := s.failed + 1 }

/-- A summary as JSON. -/
def toJson (s : BroadcastSummary) : Json :=
  .object
    [("delivered", .integer s.delivered), ("failed", .integer s.failed),
      ("skipped", .integer s.skipped)]

end BroadcastSummary

namespace Registry
open Program

/-- Sends to subscribers one after the other. -/
def sendEach (r : Registry) (subject body : String) :
    BroadcastSummary → List Subscriber → Program BroadcastSummary
  | summary, [] => return summary
  | summary, subscriber :: rest =>
    match r.sender? subscriber.channelType with
    | none => r.sendEach subject body { summary with skipped := summary.skipped + 1 } rest
    | some sender => do
      let (result, _) ← request (.send sender ⟨subscriber.recipient, subject, body⟩)
      r.sendEach subject body (summary.count result) rest

/-- Sends to every subscriber of the services. -/
def dispatch (r : Registry) (serviceIds : List Uuid) (subject body : String) :
    Program (Except PipelineError BroadcastSummary) := do
  match ← call (.findSubscribers serviceIds) with
  | .error e => return .error (.store e)
  | .ok subscribers =>
    let summary ← r.sendEach subject body .zero subscribers
    return .ok summary

/-- Sends to one channel, whether or not it is verified and enabled. -/
def sendToChannel (r : Registry) (channel : Channel) (subject body : String) :
    Program (Except PipelineError Unit) := do
  match r.sender? channel.channelType with
  | none => return .error (.noSender channel.channelType)
  | some sender =>
    let (result, _) ← request (.send sender ⟨channel.recipient, subject, body⟩)
    match result with
    | .ok () => return .ok ()
    | .error e => return .error (.send e)

end Registry

end Courier
