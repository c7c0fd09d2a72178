import Courier.Channel
import Courier.Payload
import Courier.Time.Instant

/-!
# Failure

What can go wrong, by cause, and the wording of each cause.

* `SendError`: a sender could not deliver.  `isRetryable` says whether waiting may help.
* `RenderError`: a payload could not be made into a message.
* `StoreError`: the store could not answer.
* `PipelineError`: any of these, a channel without a sender, or a failing metric.
* `ApiError`: what the HTTP side answers with, one status code for each cause.
-/

namespace Courier

/-- Why a message was not delivered. -/
inductive SendError where
  | invalidRecipient (reason : String)
  | unauthorized (reason : String)
  | notFound (reason : String)
  | rejected (reason : String)
  | rateLimited (retryAfter : Option Span)
  | timeout (reason : String)
  | network (reason : String)
  | server (status : Nat) (body : String)
  | other (reason : String)
  deriving DecidableEq, Repr

namespace SendError

/-- The wording of a fault of a sender. -/
def message : SendError → String
  | invalidRecipient r => "invalid recipient: " ++ r
  | unauthorized r => "unauthorized: " ++ r
  | notFound r => "target not found: " ++ r
  | rejected r => "rejected by remote: " ++ r
  | rateLimited _ => "rate limited by remote"
  | timeout r => "timed out: " ++ r
  | network r => "network error: " ++ r
  | server status body => "remote server error (" ++ Text.natText status ++ "): " ++ body
  | other r => r

/-- Whether waiting and trying again may help. -/
def isRetryable : SendError → Bool
  | invalidRecipient _ => false
  | unauthorized _ => false
  | notFound _ => false
  | rejected _ => false
  | rateLimited _ => true
  | timeout _ => true
  | network _ => true
  | server _ _ => true
  | other _ => true

/-- How long the other side asks to wait. -/
def retryAfter : SendError → Option Span
  | rateLimited wait => wait
  | _ => none

end SendError

/-- Names in a row, with a comma and a space between them. -/
def commaList (names : List String) : String :=
  String.intercalate ", " names

/-- Why a payload was not made into a message. -/
inductive RenderError where
  | templateNotFound (channelType : ChannelType) (kind : MessageKind)
  | missingTemplates (keys : List String)
  | encode (reason : String)
  deriving DecidableEq, Repr

namespace RenderError

/-- The wording of a fault of a renderer. -/
def message : RenderError → String
  | templateNotFound channelType kind =>
    "no template for " ++ channelType.name ++ "/" ++ kind.name
  | missingTemplates keys => "template set is incomplete, missing: " ++ commaList keys
  | encode reason => "failed to encode message body: " ++ reason

end RenderError

/-- Why a database did not answer. -/
inductive DatabaseError where
  | poolTimedOut
  | rowNotFound
  | invalidData (reason : String)
  deriving DecidableEq, Repr

namespace DatabaseError

/-- The wording of a fault of the database. -/
def message : DatabaseError → String
  | poolTimedOut => "pool timed out while waiting for an open connection"
  | rowNotFound => "no rows returned by a query that expected to return at least one row"
  | invalidData reason => "encountered unexpected or invalid data: " ++ reason

end DatabaseError

/-- Why the store did not answer. -/
inductive StoreError where
  | database (cause : DatabaseError)
  | serialization (reason : String)
  | notFound (what : String)
  deriving DecidableEq, Repr

namespace StoreError

/-- The wording of a fault of the store. -/
def message : StoreError → String
  | database cause => "Database error: " ++ cause.message
  | serialization reason => "Payload serialization error: " ++ reason
  | notFound what => "Not found: " ++ what

end StoreError

/-- Why a part of the pipeline failed. -/
inductive PipelineError where
  | store (cause : StoreError)
  | render (cause : RenderError)
  | send (cause : SendError)
  | noSender (channelType : ChannelType)
  | metrics (reason : String)
  deriving DecidableEq, Repr

namespace PipelineError

/-- The wording of a fault on the way of a message: that of what caused it. -/
def message : PipelineError → String
  | store cause => cause.message
  | render cause => cause.message
  | send cause => cause.message
  | noSender channelType => "no sender registered for channel type " ++ channelType.name
  | metrics reason => "Metrics error: " ++ reason

end PipelineError

/-- Why a request to the API fails. -/
inductive ApiError where
  | database (cause : DatabaseError)
  | unavailable (reason : String)
  | notFound (reason : String)
  | validation (reason : String)
  | delivery (reason : String)
  | internal (reason : String)
  deriving DecidableEq, Repr

namespace ApiError

/-- The wording of a fault of a request. -/
def message : ApiError → String
  | database cause => "Database error: " ++ cause.message
  | unavailable reason => "Unavailable: " ++ reason
  | notFound reason => "Not found: " ++ reason
  | validation reason => "Validation error: " ++ reason
  | delivery reason => "Delivery error: " ++ reason
  | internal reason => "Internal error: " ++ reason

/-- The status code of the answer. -/
def status : ApiError → Nat
  | database _ => 500
  | unavailable _ => 503
  | notFound _ => 404
  | validation _ => 400
  | delivery _ => 502
  | internal _ => 500

/-- The reason that the answer shows. -/
def reason : ApiError → String
  | database cause => (database cause).message
  | unavailable reason => reason
  | notFound reason => reason
  | validation reason => reason
  | delivery reason => reason
  | internal reason => reason

/-- The body of the answer. -/
def body (e : ApiError) : Json := .object [("error", .string e.reason)]

/-- What the API answers when the store fails. -/
def ofStore : StoreError → ApiError
  | .database cause => database cause
  | .serialization reason => internal reason
  | .notFound what => notFound what

/-- What the API answers when the pipeline fails. -/
def ofPipeline : PipelineError → ApiError
  | .store cause => ofStore cause
  | .send cause => delivery cause.message
  | .noSender channelType =>
    unavailable ("No sender configured for " ++ channelType.name ++ " channels")
  | .render cause => internal cause.message
  | .metrics reason => internal (PipelineError.metrics reason).message

end ApiError

end Courier
