import Courier.Payload

/-!
# Message — Subject

The line above a message, the same on every kind of channel.
-/

namespace Courier.Payload

/-- What the subject calls the transition. -/
def headline (p : Payload) : String :=
  match p.kind with
  | .initial =>
    match p.event.eventType with
    | .incident => "Incident"
    | .maintenance => "Maintenance"
  | .update => "Update"
  | .resolved => "Resolved"
  | .completed => "Completed"
  | .cancelled => "Cancelled"

/-- The line above a message. -/
def subject (p : Payload) : String := p.headline ++ ": " ++ p.event.title

end Courier.Payload
