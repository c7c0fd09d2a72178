import Courier.Json.Printer
import Courier.Message.Subject

/-!
# Message — Webhook

The bodies of webhook messages: one JSON document for every kind of message, with the subject in
front of the members of the payload.
-/

namespace Courier.Webhook

/-- The members of the document. -/
def members (p : Payload) : List (String × Json) :=
  ("subject", .string p.subject) :: p.members

/-- The body of a message. -/
def document (p : Payload) : String := (Json.object (members p)).render

end Courier.Webhook
