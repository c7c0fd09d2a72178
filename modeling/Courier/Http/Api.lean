import Courier.Broadcast
import Courier.Delivery
import Courier.Http.Route
import Courier.Json.Printer
import Courier.Metrics.Exposition

/-!
# Http — Api

What a request to the API does and what it is answered.

* `GET /health` tells what is served, `GET /metrics` the metrics.
* `GET /api/notifications/queue` lists items in one status, and `…/stats` counts them.
* `POST /api/notifications/queue/<id>/retry` puts a failed item back to the queue.
* `POST /api/channels/<id>/test` sends a test message to a channel at once.
-/

namespace Courier.Http

/-- The body of an answer. -/
inductive Body where
  | text (content : String)
  | json (content : Json)

/-- The answer to a request. -/
structure Response where
  status : Nat
  contentType : Option String
  /-- The methods that are allowed, where the one asked for is not. -/
  allow : Option String
  body : Body

namespace Response

/-- An answer with a document. -/
def json (status : Nat) (content : Json) : Response :=
  ⟨status, some "application/json", none, .json content⟩

/-- An answer without a body. -/
def bare (status : Nat) : Response := ⟨status, none, none, .text ""⟩

/-- An answer with plain text. -/
def plain (status : Nat) (content : String) : Response :=
  ⟨status, some "text/plain; charset=utf-8", none, .text content⟩

/-- What went wrong. -/
def failure (e : ApiError) : Response := json e.status e.body

/-- What the store could not do. -/
def storeFailure (e : StoreError) : Response := failure (.ofStore e)

/-- The head of an answer alone. -/
def head (r : Response) : Response := { r with body := .text "" }

end Response

/-- What the API knows besides the store. -/
structure Api where
  workerEnabled : Bool
  registry : Registry

namespace Api
open Program

/-- Tells what is served. -/
def health (api : Api) : Response :=
  .json 200 (.object
    [("status", .string "ok"), ("service", .string "beacon-api"), ("version", .string "0.1.0"),
      ("worker_enabled", .bool api.workerEnabled),
      ("channel_types", Json.ofList ChannelType.toJson api.registry.channelTypes)])

/-- The metrics, with the queue counted just before unless the store fails. -/
def metrics : Program Response := do
  let _ ← refreshDepths
  let m ← request .metrics
  return ⟨200, some "text/plain; version=0.0.4; charset=utf-8", none, .text (Exposition.text m)⟩

/-- The status that is listed: failed items unless another is asked for. -/
def listedStatus (p : ListParameters) : Except String QueueStatus :=
  match p.status with
  | some name => QueueStatus.read name
  | none => .ok .failed

/-- How many items are listed: fifty unless a number is asked for, from one to five hundred. -/
def listedLimit (p : ListParameters) : UInt32 :=
  min (max (p.limit.getD 50) 1) 500

/-- Lists items in one status. -/
def list (p : ListParameters) : Program Response := do
  match listedStatus p with
  | .error reason => return .failure (.validation reason)
  | .ok status =>
    match ← call (.listItems status (listedLimit p)) with
    | .error e => return .storeFailure e
    | .ok items => return .json 200 (Json.ofList QueueItem.toJson items)

/-- Counts the items in each status. -/
def stats : Program Response := do
  match ← call .queueStats with
  | .error e => return .storeFailure e
  | .ok stats => return .json 200 stats.toJson

/-- An item that is not there. -/
def itemMissing (id : Uuid) : Response :=
  .failure (.notFound ("Queue item " ++ id.text ++ " not found"))

/-- Puts a failed item back to the queue and answers how it stands then. -/
def retry (id : Uuid) : Program Response := do
  match ← call (.getItem id) with
  | .error e => return .storeFailure e
  | .ok none => return itemMissing id
  | .ok (some item) =>
    if item.status ≠ .failed then
      return .failure (.validation ("Queue item " ++ id.text ++ " is " ++ item.status.name ++
        ", only failed items can be retried"))
    else
      match ← call (.requeue id) with
      | .error e => return .storeFailure e
      | .ok false =>
        return .failure (.validation ("Queue item " ++ id.text ++ " is no longer failed"))
      | .ok true =>
        match ← call (.getItem id) with
        | .error e => return .storeFailure e
        | .ok none => return itemMissing id
        | .ok (some item) => return .json 200 item.toJson

/-- The subject of the message that tests a channel. -/
def testSubject : String := "Test notification"

/-- The body of the message that tests a channel. -/
def testMessage : String :=
  "This is a test notification. If you can read it, the channel is set up correctly."

/-- The body of a test message: a document for a webhook, a sentence for a reader. -/
def testBody (channel : Channel) : String :=
  match channel.channelType with
  | .webhook =>
    (Json.object
      [("channel_id", channel.id.toJson), ("message", .string testMessage),
        ("type", .string "test")]).render
  | _ => testMessage

/-- Sends a test message to a channel. -/
def testChannel (api : Api) (id : Uuid) : Program Response := do
  match ← call (.getChannel id) with
  | .error e => return .storeFailure e
  | .ok none => return .failure (.notFound ("Channel " ++ id.text ++ " not found"))
  | .ok (some channel) =>
    match ← api.registry.sendToChannel channel testSubject (testBody channel) with
    | .error e => return .failure (.ofPipeline e)
    | .ok () =>
      return .json 200 (.object
        [("sent", .bool true), ("channel_id", channel.id.toJson),
          ("channel_type", channel.channelType.toJson)])

/-- Goes on with the identifier in a path. -/
def withId (text : List Char) (act : Uuid → Program Response) : Program Response :=
  match pathId text with
  | .error fault => return .plain 400 fault.message
  | .ok id => act id

/-- Serves a route whose method is right. -/
def serve (api : Api) (query : Option (List Char)) : Route → Program Response
  | .health => return api.health
  | .metrics => metrics
  | .queue =>
    match ListParameters.ofQuery (query.getD []) with
    | .error fault => return .plain 400 fault.message
    | .ok p => list p
  | .queueStats => stats
  | .retry id => withId id retry
  | .channelTest id => withId id api.testChannel

/-- Answers a request. -/
def respond (api : Api) (method : String) (target : Target) : Program Response :=
  match Route.ofPath? target.path with
  | none => return .bare 404
  | some route =>
    if route.takes method then
      if method = "HEAD" then do
        let r ← api.serve target.query route
        return r.head
      else api.serve target.query route
    else return { Response.bare 405 with allow := some route.allowed }

end Api

end Courier.Http
