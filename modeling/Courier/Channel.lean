import Courier.Json.Record
import Courier.Text.Blank
import Courier.Time.Rfc3339
import Courier.Uuid

/-!
# Channel

Where a subscriber wants to be told: an email address, a Telegram chat or a webhook.  An email
channel without an address of its own goes to the account of its owner (`recipient`).
-/

namespace Courier

/-- The kind of a channel. -/
inductive ChannelType where
  | email
  | telegram
  | webhook
  deriving DecidableEq, Repr

namespace ChannelType

/-- Every kind of channel, in the order of their names. -/
def all : List ChannelType := [email, telegram, webhook]

/-- The name of a kind of channel, as it is stored and shown. -/
def name : ChannelType → String
  | email => "email"
  | telegram => "telegram"
  | webhook => "webhook"

/-- The kind of channel of a name. -/
def ofName? : String → Option ChannelType
  | "email" => some email
  | "telegram" => some telegram
  | "webhook" => some webhook
  | _ => none

theorem mem_all (t : ChannelType) : t ∈ all := by cases t <;> simp [all]

/-- A kind of channel as JSON: its name. -/
def toJson (t : ChannelType) : Json := .string t.name

/-- The kind of channel that a JSON value names. -/
def ofJson? : Json → Option ChannelType := Json.toVariant? ofName?

end ChannelType

/-- Where a message to a channel goes. -/
def recipient (channelType : ChannelType) (target : String) (ownerEmail : Option String) : String :=
  match channelType, ownerEmail with
  | .email, some email => if Text.blank target then email else target
  | _, _ => target

/-- A channel of a user. -/
structure Channel where
  id : Uuid
  userId : Uuid
  channelType : ChannelType
  /-- The address, the number of the chat or the URL. -/
  target : String
  enabled : Bool
  verified : Bool
  subscribeAllServices : Bool
  serviceIds : IdSet
  /-- The address of the owner's account. -/
  ownerEmail : Option String
  createdAt : Instant
  updatedAt : Instant
  deriving DecidableEq

namespace Channel

/-- Only a channel that is enabled and verified is sent what is queued for it. -/
def isDeliverable (c : Channel) : Bool := c.enabled && c.verified

/-- Whether the channel is told about any of the services. -/
def isSubscribedToAny (c : Channel) (serviceIds : List Uuid) : Bool :=
  c.subscribeAllServices || serviceIds.any c.serviceIds.contains

/-- Whom a sender is to reach through the channel. -/
def recipient (c : Channel) : String := Courier.recipient c.channelType c.target c.ownerEmail

/-- A channel as JSON. -/
def toJson (c : Channel) : Json :=
  .object
    [("id", c.id.toJson), ("user_id", c.userId.toJson), ("channel_type", c.channelType.toJson),
      ("target", .string c.target), ("enabled", .bool c.enabled), ("verified", .bool c.verified),
      ("subscribe_all_services", .bool c.subscribeAllServices),
      ("service_ids", Json.ofList Uuid.toJson c.serviceIds.members),
      ("owner_email", Json.ofOptional Json.string c.ownerEmail),
      ("created_at", c.createdAt.toJson), ("updated_at", c.updatedAt.toJson)]

/-- The channel that a JSON value stands for; services named twice count once. -/
def ofJson? (j : Json) : Option Channel := do
  let r ← Json.Record.of? 11 j
  return {
    id := ← r.required Uuid.ofJson? 0 "id"
    userId := ← r.required Uuid.ofJson? 1 "user_id"
    channelType := ← r.required ChannelType.ofJson? 2 "channel_type"
    target := ← r.required Json.toText? 3 "target"
    enabled := ← r.required Json.toBool? 4 "enabled"
    verified := ← r.required Json.toBool? 5 "verified"
    subscribeAllServices := ← r.required Json.toBool? 6 "subscribe_all_services"
    serviceIds := IdSet.ofList (← r.required (Json.toList? Uuid.ofJson?) 7 "service_ids")
    ownerEmail := ← r.optional Json.toText? 8 "owner_email"
    createdAt := ← r.required Instant.ofJson? 9 "created_at"
    updatedAt := ← r.required Instant.ofJson? 10 "updated_at" }

end Channel

/-- A channel found for a set of services. -/
structure Subscriber where
  channelId : Uuid
  channelType : ChannelType
  target : String
  userEmail : Option String
  deriving DecidableEq, Repr

namespace Subscriber

/-- Whom a sender is to reach for the subscriber. -/
def recipient (s : Subscriber) : String := Courier.recipient s.channelType s.target s.userEmail

/-- A subscriber as JSON. -/
def toJson (s : Subscriber) : Json :=
  .object
    [("channel_id", s.channelId.toJson), ("channel_type", s.channelType.toJson),
      ("target", .string s.target), ("user_email", Json.ofOptional Json.string s.userEmail)]

/-- The subscriber that a JSON value stands for. -/
def ofJson? (j : Json) : Option Subscriber := do
  let r ← Json.Record.of? 4 j
  return {
    channelId := ← r.required Uuid.ofJson? 0 "channel_id"
    channelType := ← r.required ChannelType.ofJson? 1 "channel_type"
    target := ← r.required Json.toText? 2 "target"
    userEmail := ← r.optional Json.toText? 3 "user_email" }

end Subscriber

end Courier
