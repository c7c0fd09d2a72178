import Courier.Channel
import Courier.Sender.Email
import Courier.Sender.Telegram

/-!
# Sender

What delivers to one kind of channel.  A sender checks the recipient, makes at most one request, and
tells what came of it; it never tries again.
-/

namespace Courier

/-- What delivers to one kind of channel. -/
inductive Sender where
  | webhook
  | telegram (token apiBase : String)
  | email (apiKey sender endpoint : String)
  deriving DecidableEq, Repr

/-- What a sender did: the request that it made, if it made one, and what came of it. -/
structure Exchange where
  request : Option OutboundRequest
  result : Except SendError Unit

namespace Sender

/-- The kind of channel that a sender serves. -/
def channelType : Sender → ChannelType
  | webhook => .webhook
  | telegram _ _ => .telegram
  | email _ _ _ => .email

/-- The URL of a webhook: absolute, and of the web. -/
def webhookTarget (recipient : String) : Except SendError Url :=
  match Url.parse (Text.trim recipient) with
  | .error fault => .error (.invalidRecipient ("invalid webhook URL: " ++ fault.message))
  | .ok url =>
    if url.isHttp then .ok url
    else
      .error (.invalidRecipient
        ("unsupported webhook scheme '" ++ String.ofList url.scheme ++ "'"))

/-- The request for a notification. -/
def prepare : Sender → Notification → Except SendError OutboundRequest
  | webhook, n => (webhookTarget n.recipient).bind fun url => OutboundRequest.post url none n.body
  | telegram token apiBase, n => TelegramApi.prepare token apiBase n
  | email apiKey sender endpoint, n => MailApi.prepare apiKey sender endpoint n

/-- What an answer without success means. -/
def classify : Sender → Nat → String → SendError
  | telegram _ _ => TelegramApi.classify
  | _ => classifyStatus

/-- Sends a notification to a side that does `remote`. -/
def send (s : Sender) (n : Notification) (remote : Remote) : Exchange :=
  match s.prepare n with
  | .error e => ⟨none, .error e⟩
  | .ok request => ⟨some request, request.conclude s.classify remote⟩

end Sender

end Courier
