import Courier.Event

/-!
# Payload

What is told about a transition of an event: a snapshot taken once, when the notification is made,
and stored as it is with every message of that transition.  Nothing in it is looked up later.

The JSON form has one member for each field.  The groups of the event and the three lists of changes
may be missing when it is read.
-/

namespace Courier

/-- Which transition a notification announces. -/
inductive MessageKind where
  | initial
  | update
  | resolved
  | completed
  | cancelled
  deriving DecidableEq, Repr

namespace MessageKind

/-- Every kind of message. -/
def all : List MessageKind := [initial, update, resolved, completed, cancelled]

/-- The name of a kind of message. -/
def name : MessageKind → String
  | initial => "initial"
  | update => "update"
  | resolved => "resolved"
  | completed => "completed"
  | cancelled => "cancelled"

/-- The kind of message of a name. -/
def ofName? : String → Option MessageKind
  | "initial" => some initial
  | "update" => some update
  | "resolved" => some resolved
  | "completed" => some completed
  | "cancelled" => some cancelled
  | _ => none

theorem ofName?_name (k : MessageKind) : ofName? k.name = some k := by cases k <;> rfl

theorem mem_all (k : MessageKind) : k ∈ all := by cases k <;> simp [all]

/-- A kind of message as JSON: its name. -/
def toJson (k : MessageKind) : Json := .string k.name

/-- The kind of message that a JSON value names. -/
def ofJson? : Json → Option MessageKind := Json.toVariant? ofName?

end MessageKind

/-- A service as a notification shows it. -/
structure ServiceSnapshot where
  id : Uuid
  /-- The name, or the identifier where the name was not found. -/
  name : String
  status : ServiceStatus
  deriving DecidableEq, Repr

namespace ServiceSnapshot

/-- A service of a payload as JSON. -/
def toJson (s : ServiceSnapshot) : Json :=
  .object [("id", s.id.toJson), ("name", .string s.name), ("status", s.status.toJson)]

/-- The service of a payload that a JSON value stands for. -/
def ofJson? (j : Json) : Option ServiceSnapshot := do
  let r ← Json.Record.of? 3 j
  return {
    id := ← r.required Uuid.ofJson? 0 "id"
    name := ← r.required Json.toText? 1 "name"
    status := ← r.required ServiceStatus.ofJson? 2 "status" }

end ServiceSnapshot

/-- A group as a notification shows it. -/
structure GroupSnapshot where
  id : Uuid
  name : String
  deriving DecidableEq, Repr

namespace GroupSnapshot

/-- A group of a payload as JSON. -/
def toJson (g : GroupSnapshot) : Json :=
  .object [("id", g.id.toJson), ("name", .string g.name)]

/-- The group of a payload that a JSON value stands for. -/
def ofJson? (j : Json) : Option GroupSnapshot := do
  let r ← Json.Record.of? 2 j
  return {
    id := ← r.required Uuid.ofJson? 0 "id"
    name := ← r.required Json.toText? 1 "name" }

end GroupSnapshot

/-- The event at the moment of the notification. -/
structure EventSnapshot where
  id : Uuid
  title : String
  eventType : EventType
  status : EventStatus
  severity : Option Severity
  /-- The description of the event, or the text of the update. -/
  message : String
  services : List ServiceSnapshot
  groups : List GroupSnapshot
  startedAt : Option Instant
  scheduledStartAt : Option Instant
  scheduledEndAt : Option Instant
  createdAt : Instant
  deriving DecidableEq

namespace EventSnapshot

/-- An event of a payload as JSON. -/
def toJson (e : EventSnapshot) : Json :=
  .object
    [("id", e.id.toJson), ("title", .string e.title), ("event_type", e.eventType.toJson),
      ("status", e.status.toJson), ("severity", Json.ofOptional Severity.toJson e.severity),
      ("message", .string e.message), ("services", Json.ofList ServiceSnapshot.toJson e.services),
      ("groups", Json.ofList GroupSnapshot.toJson e.groups),
      ("started_at", Json.ofOptional Instant.toJson e.startedAt),
      ("scheduled_start_at", Json.ofOptional Instant.toJson e.scheduledStartAt),
      ("scheduled_end_at", Json.ofOptional Instant.toJson e.scheduledEndAt),
      ("created_at", e.createdAt.toJson)]

/-- The event of a payload that a JSON value stands for. -/
def ofJson? (j : Json) : Option EventSnapshot := do
  let r ← Json.Record.of? 12 j
  return {
    id := ← r.required Uuid.ofJson? 0 "id"
    title := ← r.required Json.toText? 1 "title"
    eventType := ← r.required EventType.ofJson? 2 "event_type"
    status := ← r.required EventStatus.ofJson? 3 "status"
    severity := ← r.optional Severity.ofJson? 4 "severity"
    message := ← r.required Json.toText? 5 "message"
    services := ← r.required (Json.toList? ServiceSnapshot.ofJson?) 6 "services"
    groups := ← r.defaulted [] (Json.toList? GroupSnapshot.ofJson?) 7 "groups"
    startedAt := ← r.optional Instant.ofJson? 8 "started_at"
    scheduledStartAt := ← r.optional Instant.ofJson? 9 "scheduled_start_at"
    scheduledEndAt := ← r.optional Instant.ofJson? 10 "scheduled_end_at"
    createdAt := ← r.required Instant.ofJson? 11 "created_at" }

end EventSnapshot

/-- A step of one service, with its name. -/
structure ServiceTransition where
  id : Uuid
  name : String
  source : ServiceStatus
  target : ServiceStatus
  deriving DecidableEq, Repr

namespace ServiceTransition

/-- The change of a service in a payload as JSON. -/
def toJson (t : ServiceTransition) : Json :=
  .object
    [("id", t.id.toJson), ("name", .string t.name), ("from", t.source.toJson),
      ("to", t.target.toJson)]

/-- The change of a service in a payload that a JSON value stands for. -/
def ofJson? (j : Json) : Option ServiceTransition := do
  let r ← Json.Record.of? 4 j
  return {
    id := ← r.required Uuid.ofJson? 0 "id"
    name := ← r.required Json.toText? 1 "name"
    source := ← r.required ServiceStatus.ofJson? 2 "from"
    target := ← r.required ServiceStatus.ofJson? 3 "to" }

end ServiceTransition

/-- What an update changed, with the names found for it. -/
structure PayloadChanges where
  status : Option StatusChange
  servicesAdded : List ServiceSnapshot
  servicesRemoved : List ServiceSnapshot
  servicesUpdated : List ServiceTransition
  reason : Option String
  deriving DecidableEq, Repr

namespace PayloadChanges

/-- Whether nothing has changed, and no reason is given. -/
def isEmpty (c : PayloadChanges) : Bool :=
  c.status.isNone && c.servicesAdded.isEmpty && c.servicesRemoved.isEmpty &&
    c.servicesUpdated.isEmpty && c.reason.isNone

/-- The changes of a payload as JSON. -/
def toJson (c : PayloadChanges) : Json :=
  .object
    [("status", Json.ofOptional StatusChange.toJson c.status),
      ("services_added", Json.ofList ServiceSnapshot.toJson c.servicesAdded),
      ("services_removed", Json.ofList ServiceSnapshot.toJson c.servicesRemoved),
      ("services_updated", Json.ofList ServiceTransition.toJson c.servicesUpdated),
      ("reason", Json.ofOptional Json.string c.reason)]

/-- The changes of a payload that a JSON value stands for. -/
def ofJson? (j : Json) : Option PayloadChanges := do
  let r ← Json.Record.of? 5 j
  return {
    status := ← r.optional StatusChange.ofJson? 0 "status"
    servicesAdded := ← r.defaulted [] (Json.toList? ServiceSnapshot.ofJson?) 1 "services_added"
    servicesRemoved := ← r.defaulted [] (Json.toList? ServiceSnapshot.ofJson?) 2 "services_removed"
    servicesUpdated := ←
      r.defaulted [] (Json.toList? ServiceTransition.ofJson?) 3 "services_updated"
    reason := ← r.optional Json.toText? 4 "reason" }

end PayloadChanges

/-- How an event ended, in a notification. -/
structure ResolutionInfo where
  resolvedAt : Instant
  /-- The seconds from the start of the event to its end, zero when the start is not known. -/
  durationSeconds : Int64
  message : Option String
  deriving DecidableEq

namespace ResolutionInfo

/-- The resolution of a payload as JSON. -/
def toJson (r : ResolutionInfo) : Json :=
  .object
    [("resolved_at", r.resolvedAt.toJson), ("duration_seconds", .integer r.durationSeconds.toInt),
      ("message", Json.ofOptional Json.string r.message)]

/-- The resolution of a payload that a JSON value stands for. -/
def ofJson? (j : Json) : Option ResolutionInfo := do
  let r ← Json.Record.of? 3 j
  return {
    resolvedAt := ← r.required Instant.ofJson? 0 "resolved_at"
    durationSeconds := ← r.required Json.toInt64? 1 "duration_seconds"
    message := ← r.optional Json.toText? 2 "message" }

end ResolutionInfo

/-- The snapshot stored with every message of a transition. -/
structure Payload where
  kind : MessageKind
  event : EventSnapshot
  changes : Option PayloadChanges
  resolution : Option ResolutionInfo
  eventUrl : Option String
  generatedAt : Instant
  deriving DecidableEq

namespace Payload

/-- The members of the JSON form. -/
def members (p : Payload) : List (String × Json) :=
  [("kind", p.kind.toJson), ("event", p.event.toJson),
    ("changes", Json.ofOptional PayloadChanges.toJson p.changes),
    ("resolution", Json.ofOptional ResolutionInfo.toJson p.resolution),
    ("event_url", Json.ofOptional Json.string p.eventUrl), ("generated_at", p.generatedAt.toJson)]

/-- A payload as JSON. -/
def toJson (p : Payload) : Json := .object p.members

/-- The payload that a JSON value stands for. -/
def ofJson? (j : Json) : Option Payload := do
  let r ← Json.Record.of? 6 j
  return {
    kind := ← r.required MessageKind.ofJson? 0 "kind"
    event := ← r.required EventSnapshot.ofJson? 1 "event"
    changes := ← r.optional PayloadChanges.ofJson? 2 "changes"
    resolution := ← r.optional ResolutionInfo.ofJson? 3 "resolution"
    eventUrl := ← r.optional Json.toText? 4 "event_url"
    generatedAt := ← r.required Instant.ofJson? 5 "generated_at" }

end Payload

end Courier
