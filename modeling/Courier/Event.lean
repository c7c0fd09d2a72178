import Courier.Json.Record
import Courier.Time.Rfc3339
import Courier.Uuid

/-!
# Event

What happens on a status page: incidents and maintenance windows, the services they affect, the
updates posted on them and how they end.

Kinds of event are read by their names alone.  Statuses and severities are open: a name that is not
known reads as `unknown`, which has a name of its own, so that writing and reading again changes
nothing (`EventStatus.ofName_name` and its likes).
-/

namespace Courier

/-- The kind of an event. -/
inductive EventType where
  | incident
  | maintenance
  deriving DecidableEq, Repr

namespace EventType

/-- The name of a kind of event. -/
def name : EventType → String
  | incident => "incident"
  | maintenance => "maintenance"

/-- The kind of event of a name. -/
def ofName? : String → Option EventType
  | "incident" => some incident
  | "maintenance" => some maintenance
  | _ => none

theorem ofName?_name (t : EventType) : ofName? t.name = some t := by cases t <;> rfl

/-- A kind of event as JSON: its name. -/
def toJson (t : EventType) : Json := .string t.name

/-- The kind of event that a JSON value names. -/
def ofJson? : Json → Option EventType := Json.toVariant? ofName?

end EventType

/-- The status of an event.  An incident is investigated, identified, monitored and resolved; a
maintenance window is scheduled, in progress, and completed or cancelled. -/
inductive EventStatus where
  | investigating
  | identified
  | monitoring
  | resolved
  | scheduled
  | inProgress
  | completed
  | cancelled
  | unknown
  deriving DecidableEq, Repr

namespace EventStatus

/-- The name of a status. -/
def name : EventStatus → String
  | investigating => "investigating"
  | identified => "identified"
  | monitoring => "monitoring"
  | resolved => "resolved"
  | scheduled => "scheduled"
  | inProgress => "in_progress"
  | completed => "completed"
  | cancelled => "cancelled"
  | unknown => "unknown"

/-- The status of a name. -/
def ofName : String → EventStatus
  | "investigating" => investigating
  | "identified" => identified
  | "monitoring" => monitoring
  | "resolved" => resolved
  | "scheduled" => scheduled
  | "in_progress" => inProgress
  | "completed" => completed
  | "cancelled" => cancelled
  | _ => unknown

theorem ofName_name (s : EventStatus) : ofName s.name = s := by cases s <;> rfl

/-- A status as JSON: its name. -/
def toJson (s : EventStatus) : Json := .string s.name

/-- The status that a JSON value names; any text is the name of one. -/
def ofJson? (j : Json) : Option EventStatus := j.toText?.map ofName

end EventStatus

/-- How severe an incident is. -/
inductive Severity where
  | minor
  | major
  | critical
  | unknown
  deriving DecidableEq, Repr

namespace Severity

/-- The name of a severity. -/
def name : Severity → String
  | minor => "minor"
  | major => "major"
  | critical => "critical"
  | unknown => "unknown"

/-- The severity of a name. -/
def ofName : String → Severity
  | "minor" => minor
  | "major" => major
  | "critical" => critical
  | _ => unknown

theorem ofName_name (s : Severity) : ofName s.name = s := by cases s <;> rfl

/-- A severity as JSON: its name. -/
def toJson (s : Severity) : Json := .string s.name

/-- The severity that a JSON value names; any text is the name of one. -/
def ofJson? (j : Json) : Option Severity := j.toText?.map ofName

end Severity

/-- The status of one service. -/
inductive ServiceStatus where
  | operational
  | degraded
  | partialOutage
  | majorOutage
  | maintenance
  | unknown
  deriving DecidableEq, Repr

namespace ServiceStatus

/-- The name of the status of a service. -/
def name : ServiceStatus → String
  | operational => "operational"
  | degraded => "degraded"
  | partialOutage => "partial_outage"
  | majorOutage => "major_outage"
  | maintenance => "maintenance"
  | unknown => "unknown"

/-- The status of a name. -/
def ofName : String → ServiceStatus
  | "operational" => operational
  | "degraded" => degraded
  | "partial_outage" => partialOutage
  | "major_outage" => majorOutage
  | "maintenance" => maintenance
  | _ => unknown

theorem ofName_name (s : ServiceStatus) : ofName s.name = s := by cases s <;> rfl

/-- The status of a service as JSON: its name. -/
def toJson (s : ServiceStatus) : Json := .string s.name

/-- The status of a service that a JSON value names; any text is the name of one. -/
def ofJson? (j : Json) : Option ServiceStatus := j.toText?.map ofName

end ServiceStatus

/-- An incident or a maintenance window. -/
structure Event where
  id : Uuid
  title : String
  eventType : EventType
  status : EventStatus
  severity : Option Severity
  description : String
  /-- Whether subscribers are told about the event at all. -/
  notifySubscribers : Bool
  startedAt : Option Instant
  scheduledStartAt : Option Instant
  scheduledEndAt : Option Instant
  resolvedAt : Option Instant
  createdAt : Instant
  updatedAt : Instant
  deriving DecidableEq

namespace Event

/-- An event as JSON. -/
def toJson (e : Event) : Json :=
  .object
    [("id", e.id.toJson), ("title", .string e.title), ("event_type", e.eventType.toJson),
      ("status", e.status.toJson), ("severity", Json.ofOptional Severity.toJson e.severity),
      ("description", .string e.description), ("notify_subscribers", .bool e.notifySubscribers),
      ("started_at", Json.ofOptional Instant.toJson e.startedAt),
      ("scheduled_start_at", Json.ofOptional Instant.toJson e.scheduledStartAt),
      ("scheduled_end_at", Json.ofOptional Instant.toJson e.scheduledEndAt),
      ("resolved_at", Json.ofOptional Instant.toJson e.resolvedAt),
      ("created_at", e.createdAt.toJson), ("updated_at", e.updatedAt.toJson)]

/-- The event that a JSON value stands for. -/
def ofJson? (j : Json) : Option Event := do
  let r ← Json.Record.of? 13 j
  return {
    id := ← r.required Uuid.ofJson? 0 "id"
    title := ← r.required Json.toText? 1 "title"
    eventType := ← r.required EventType.ofJson? 2 "event_type"
    status := ← r.required EventStatus.ofJson? 3 "status"
    severity := ← r.optional Severity.ofJson? 4 "severity"
    description := ← r.required Json.toText? 5 "description"
    notifySubscribers := ← r.required Json.toBool? 6 "notify_subscribers"
    startedAt := ← r.optional Instant.ofJson? 7 "started_at"
    scheduledStartAt := ← r.optional Instant.ofJson? 8 "scheduled_start_at"
    scheduledEndAt := ← r.optional Instant.ofJson? 9 "scheduled_end_at"
    resolvedAt := ← r.optional Instant.ofJson? 10 "resolved_at"
    createdAt := ← r.required Instant.ofJson? 11 "created_at"
    updatedAt := ← r.required Instant.ofJson? 12 "updated_at" }

end Event

/-- A service that an event affects, with the status that the event gives it. -/
structure AffectedService where
  serviceId : Uuid
  status : ServiceStatus
  deriving DecidableEq, Repr

namespace AffectedService

/-- An affected service as JSON. -/
def toJson (a : AffectedService) : Json :=
  .object [("service_id", a.serviceId.toJson), ("status", a.status.toJson)]

/-- The affected service that a JSON value stands for. -/
def ofJson? (j : Json) : Option AffectedService := do
  let r ← Json.Record.of? 2 j
  return {
    serviceId := ← r.required Uuid.ofJson? 0 "service_id"
    status := ← r.required ServiceStatus.ofJson? 1 "status" }

end AffectedService

/-- The services and groups that an event touches. -/
structure Scope where
  services : List AffectedService
  groupIds : List Uuid
  deriving DecidableEq, Repr

namespace Scope

/-- The services that an event is about. -/
def serviceIds (s : Scope) : List Uuid := s.services.map (·.serviceId)

/-- A scope as JSON. -/
def toJson (s : Scope) : Json :=
  .object
    [("services", Json.ofList AffectedService.toJson s.services),
      ("group_ids", Json.ofList Uuid.toJson s.groupIds)]

/-- The scope that a JSON value stands for. -/
def ofJson? (j : Json) : Option Scope := do
  let r ← Json.Record.of? 2 j
  return {
    services := ← r.required (Json.toList? AffectedService.ofJson?) 0 "services"
    groupIds := ← r.required (Json.toList? Uuid.ofJson?) 1 "group_ids" }

end Scope

/-- An entry on the timeline of an event. -/
structure Update where
  id : Uuid
  eventId : Uuid
  status : EventStatus
  /-- Stands in for the description of the event in what is sent. -/
  message : Option String
  notifySubscribers : Bool
  createdAt : Instant
  deriving DecidableEq

namespace Update

/-- An update as JSON. -/
def toJson (u : Update) : Json :=
  .object
    [("id", u.id.toJson), ("event_id", u.eventId.toJson), ("status", u.status.toJson),
      ("message", Json.ofOptional Json.string u.message),
      ("notify_subscribers", .bool u.notifySubscribers), ("created_at", u.createdAt.toJson)]

/-- The update that a JSON value stands for. -/
def ofJson? (j : Json) : Option Update := do
  let r ← Json.Record.of? 6 j
  return {
    id := ← r.required Uuid.ofJson? 0 "id"
    eventId := ← r.required Uuid.ofJson? 1 "event_id"
    status := ← r.required EventStatus.ofJson? 2 "status"
    message := ← r.optional Json.toText? 3 "message"
    notifySubscribers := ← r.required Json.toBool? 4 "notify_subscribers"
    createdAt := ← r.required Instant.ofJson? 5 "created_at" }

end Update

/-- A step of an event from one status to another. -/
structure StatusChange where
  source : EventStatus
  target : EventStatus
  deriving DecidableEq, Repr

namespace StatusChange

/-- A change of status as JSON. -/
def toJson (c : StatusChange) : Json :=
  .object [("from", c.source.toJson), ("to", c.target.toJson)]

/-- The change of status that a JSON value stands for. -/
def ofJson? (j : Json) : Option StatusChange := do
  let r ← Json.Record.of? 2 j
  return {
    source := ← r.required EventStatus.ofJson? 0 "from"
    target := ← r.required EventStatus.ofJson? 1 "to" }

end StatusChange

/-- A step of one service of an event from one status to another. -/
structure ServiceChange where
  serviceId : Uuid
  source : ServiceStatus
  target : ServiceStatus
  deriving DecidableEq, Repr

namespace ServiceChange

/-- The change of a service as JSON. -/
def toJson (c : ServiceChange) : Json :=
  .object
    [("service_id", c.serviceId.toJson), ("from", c.source.toJson), ("to", c.target.toJson)]

/-- The change of a service that a JSON value stands for. -/
def ofJson? (j : Json) : Option ServiceChange := do
  let r ← Json.Record.of? 3 j
  return {
    serviceId := ← r.required Uuid.ofJson? 0 "service_id"
    source := ← r.required ServiceStatus.ofJson? 1 "from"
    target := ← r.required ServiceStatus.ofJson? 2 "to" }

end ServiceChange

/-- What an update changes on its event. -/
structure ChangeSet where
  status : Option StatusChange
  servicesAdded : List AffectedService
  servicesRemoved : List Uuid
  servicesUpdated : List ServiceChange
  reason : Option String
  deriving DecidableEq, Repr

namespace ChangeSet

/-- Whether nothing has changed, and no reason is given. -/
def isEmpty (c : ChangeSet) : Bool :=
  c.status.isNone && c.servicesAdded.isEmpty && c.servicesRemoved.isEmpty &&
    c.servicesUpdated.isEmpty && c.reason.isNone

/-- The services that an update adds to its event. -/
def addedServiceIds (c : ChangeSet) : List Uuid := c.servicesAdded.map (·.serviceId)

/-- What an update changes, as JSON. -/
def toJson (c : ChangeSet) : Json :=
  .object
    [("status", Json.ofOptional StatusChange.toJson c.status),
      ("services_added", Json.ofList AffectedService.toJson c.servicesAdded),
      ("services_removed", Json.ofList Uuid.toJson c.servicesRemoved),
      ("services_updated", Json.ofList ServiceChange.toJson c.servicesUpdated),
      ("reason", Json.ofOptional Json.string c.reason)]

/-- What an update changes, from JSON. -/
def ofJson? (j : Json) : Option ChangeSet := do
  let r ← Json.Record.of? 5 j
  return {
    status := ← r.optional StatusChange.ofJson? 0 "status"
    servicesAdded := ← r.required (Json.toList? AffectedService.ofJson?) 1 "services_added"
    servicesRemoved := ← r.required (Json.toList? Uuid.ofJson?) 2 "services_removed"
    servicesUpdated := ← r.required (Json.toList? ServiceChange.ofJson?) 3 "services_updated"
    reason := ← r.optional Json.toText? 4 "reason" }

end ChangeSet

/-- How an event ends. -/
structure Resolution where
  resolvedAt : Instant
  message : Option String
  deriving DecidableEq

namespace Resolution

/-- A resolution as JSON. -/
def toJson (r : Resolution) : Json :=
  .object
    [("resolved_at", r.resolvedAt.toJson), ("message", Json.ofOptional Json.string r.message)]

/-- The resolution that a JSON value stands for. -/
def ofJson? (j : Json) : Option Resolution := do
  let r ← Json.Record.of? 2 j
  return {
    resolvedAt := ← r.required Instant.ofJson? 0 "resolved_at"
    message := ← r.optional Json.toText? 1 "message" }

end Resolution

end Courier
