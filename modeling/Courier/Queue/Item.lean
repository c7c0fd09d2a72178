import Courier.Payload

/-!
# Queue — Item

One payload for one channel, and where its delivery stands.  An item is `pending` until a worker
claims it, `processing` while the worker has it, and then `sent`, `failed`, or `pending` again.
-/

namespace Courier

/-- Where the delivery of an item stands. -/
inductive QueueStatus where
  | pending
  | processing
  | sent
  | failed
  deriving DecidableEq, Repr

namespace QueueStatus

/-- Every status. -/
def all : List QueueStatus := [pending, processing, sent, failed]

/-- The name of a status, as it is stored and counted. -/
def name : QueueStatus → String
  | pending => "pending"
  | processing => "processing"
  | sent => "sent"
  | failed => "failed"

/-- The status of a name. -/
def ofName? : String → Option QueueStatus
  | "pending" => some pending
  | "processing" => some processing
  | "sent" => some sent
  | "failed" => some failed
  | _ => none

theorem ofName?_name (s : QueueStatus) : ofName? s.name = some s := by cases s <;> rfl

/-- The status of a name, or what is wrong with it. -/
def read (text : String) : Except String QueueStatus :=
  match ofName? text with
  | some s => .ok s
  | none => .error ("unknown queue status '" ++ text ++ "'")

/-- A status as JSON: its name. -/
def toJson (s : QueueStatus) : Json := .string s.name

/-- The status that a JSON value names. -/
def ofJson? : Json → Option QueueStatus := Json.toVariant? ofName?

end QueueStatus

/-- The number after a count of attempts, none at the end of its range. -/
def nextAttempt? (attempts : Int32) : Option Int32 :=
  if attempts.toInt < Int32.maxValue.toInt then some (Int32.ofInt (attempts.toInt + 1)) else none

/-- One payload for one channel. -/
structure QueueItem where
  id : Uuid
  eventId : Uuid
  channelId : Uuid
  kind : MessageKind
  payload : Payload
  status : QueueStatus
  /-- The attempts that failed so far. -/
  attempts : Int32
  /-- The attempts after which the item fails for good. -/
  maxAttempts : Int32
  /-- When the item is due. -/
  nextAttemptAt : Instant
  lastError : Option String
  createdAt : Instant
  updatedAt : Instant
  sentAt : Option Instant
  deriving DecidableEq

namespace QueueItem

/-- Whether one more failure uses up the attempts; none where the count ends. -/
def isLastAttempt? (item : QueueItem) : Option Bool :=
  (nextAttempt? item.attempts).map fun n => decide (item.maxAttempts.toInt ≤ n.toInt)

/-- Whether a worker may claim the item. -/
def isDue (now : Instant) (item : QueueItem) : Bool :=
  item.status = .pending && item.nextAttemptAt.le now

/-- The members of the JSON form before the payload. -/
def headMembers (item : QueueItem) : List (String × Json) :=
  [("id", item.id.toJson), ("event_id", item.eventId.toJson),
    ("channel_id", item.channelId.toJson), ("kind", item.kind.toJson)]

/-- The members of the JSON form after the payload. -/
def tailMembers (item : QueueItem) : List (String × Json) :=
  [("status", item.status.toJson), ("attempts", .integer item.attempts.toInt),
    ("max_attempts", .integer item.maxAttempts.toInt),
    ("next_attempt_at", item.nextAttemptAt.toJson),
    ("last_error", Json.ofOptional Json.string item.lastError),
    ("created_at", item.createdAt.toJson), ("updated_at", item.updatedAt.toJson),
    ("sent_at", Json.ofOptional Instant.toJson item.sentAt)]

/-- An item as JSON. -/
def toJson (item : QueueItem) : Json :=
  .object (item.headMembers ++ ("payload", item.payload.toJson) :: item.tailMembers)

/-- The item that a JSON value stands for. -/
def ofJson? (j : Json) : Option QueueItem := do
  let r ← Json.Record.of? 13 j
  return {
    id := ← r.required Uuid.ofJson? 0 "id"
    eventId := ← r.required Uuid.ofJson? 1 "event_id"
    channelId := ← r.required Uuid.ofJson? 2 "channel_id"
    kind := ← r.required MessageKind.ofJson? 3 "kind"
    payload := ← r.required Payload.ofJson? 4 "payload"
    status := ← r.required QueueStatus.ofJson? 5 "status"
    attempts := ← r.required Json.toInt32? 6 "attempts"
    maxAttempts := ← r.required Json.toInt32? 7 "max_attempts"
    nextAttemptAt := ← r.required Instant.ofJson? 8 "next_attempt_at"
    lastError := ← r.optional Json.toText? 9 "last_error"
    createdAt := ← r.required Instant.ofJson? 10 "created_at"
    updatedAt := ← r.required Instant.ofJson? 11 "updated_at"
    sentAt := ← r.optional Instant.ofJson? 12 "sent_at" }

end QueueItem

/-- What an item is made from; the store adds its status and its times. -/
structure NewItem where
  id : Uuid
  eventId : Uuid
  channelId : Uuid
  kind : MessageKind
  payload : Payload
  maxAttempts : Int32
  deriving DecidableEq

namespace NewItem

/-- An item of the kind of its payload. -/
def ofPayload (id eventId channelId : Uuid) (payload : Payload) (maxAttempts : Int32) : NewItem :=
  ⟨id, eventId, channelId, payload.kind, payload, maxAttempts⟩

/-- The item as it enters the queue: pending and due at once. -/
def enter (now : Instant) (item : NewItem) : QueueItem :=
  { id := item.id
    eventId := item.eventId
    channelId := item.channelId
    kind := item.kind
    payload := item.payload
    status := .pending
    attempts := 0
    maxAttempts := item.maxAttempts
    nextAttemptAt := now
    lastError := none
    createdAt := now
    updatedAt := now
    sentAt := none }

end NewItem

end Courier
