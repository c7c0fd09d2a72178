import Courier.Payload.Elapsed
import Courier.Program

/-!
# Announcement

What happens to an event becomes messages: one item in the queue for each channel that is told about
it, all with the same snapshot.

* `onCreated` finds the subscribers of the affected services and keeps them with the event.
* `onUpdated` adds the subscribers of services that the update adds.
* `onResolved`, `onCompleted` and `onCancelled` tell those who were told before.

None of them fails: where the store does not answer, nothing is queued and the count is zero.  A
name that is not found is replaced by the identifier.
-/

namespace Courier

/-- How announcements are made. -/
structure Announcer where
  maxAttempts : Int32
  /-- Where the status page is found, without slashes at its end. -/
  publicUrl : Option String
  deriving DecidableEq, Repr

namespace Announcer
open Program

/-- The announcer for a status page. -/
def of (maxAttempts : Int32) (publicUrl : Option String) : Announcer :=
  ⟨maxAttempts, publicUrl.map Text.trimSlashes⟩

/-- The link to an event. -/
def eventUrl (a : Announcer) (id : Uuid) : Option String :=
  a.publicUrl.map fun base => base ++ "/events/" ++ id.text

/-- The name and the current status of a service. -/
def lookupService (id : Uuid) : Program (String × ServiceStatus) := do
  match ← call (.getService id) with
  | .ok (some service) => return (service.name, service.status)
  | _ => return (id.text, .unknown)

/-- The name of a group. -/
def groupName (id : Uuid) : Program String := do
  match ← call (.getGroup id) with
  | .ok (some group) => return group.name
  | _ => return id.text

/-- Runs a program for each element, in order. -/
def each {α β : Type} (f : α → Program β) : List α → Program (List β)
  | [] => return []
  | a :: rest => do
    let b ← f a
    let bs ← each f rest
    return b :: bs

/-- A service with the status that the event gives it. -/
def affectedSnapshot (a : AffectedService) : Program ServiceSnapshot := do
  let (name, _) ← lookupService a.serviceId
  return ⟨a.serviceId, name, a.status⟩

/-- A service with its current status. -/
def removedSnapshot (id : Uuid) : Program ServiceSnapshot := do
  let (name, status) ← lookupService id
  return ⟨id, name, status⟩

/-- The change of one service, with the name of the service. -/
def serviceTransition (c : ServiceChange) : Program ServiceTransition := do
  let (name, _) ← lookupService c.serviceId
  return ⟨c.serviceId, name, c.source, c.target⟩

/-- A group with its name. -/
def groupSnapshot (id : Uuid) : Program GroupSnapshot := do
  let name ← groupName id
  return ⟨id, name⟩

/-- The changes of an update with the names found for them. -/
def payloadChanges (c : ChangeSet) : Program PayloadChanges := do
  let servicesAdded ← each affectedSnapshot c.servicesAdded
  let servicesRemoved ← each removedSnapshot c.servicesRemoved
  let servicesUpdated ← each serviceTransition c.servicesUpdated
  return { status := c.status, servicesAdded, servicesRemoved, servicesUpdated, reason := c.reason }

/-- The changes of an update, if there is one. -/
def changesOf : Option ChangeSet → Program (Option PayloadChanges)
  | none => return none
  | some c => do
    let changes ← payloadChanges c
    return some changes

/-- How an event ended, with how long it lasted. -/
def resolutionInfo (event : Event) (r : Resolution) : ResolutionInfo :=
  ⟨r.resolvedAt, Int64.ofInt (elapsedSeconds event.startedAt r.resolvedAt), r.message⟩

/-- What an announcement says besides the event and its scope. -/
structure Notice where
  kind : MessageKind
  /-- Stands in for the description of the event. -/
  message : Option String
  /-- Stands in for the status of the event. -/
  status : Option EventStatus
  changes : Option ChangeSet
  resolution : Option Resolution

/-- A notice that says nothing else. -/
def Notice.plain (kind : MessageKind) : Notice := ⟨kind, none, none, none, none⟩

/-- The snapshot for a notice. -/
def payload (a : Announcer) (event : Event) (scope : Scope) (notice : Notice) :
    Program Payload := do
  let services ← each affectedSnapshot scope.services
  let groups ← each groupSnapshot scope.groupIds
  let changes ← changesOf notice.changes
  let now ← request .clock
  return {
    kind := notice.kind
    event :=
      { id := event.id
        title := event.title
        eventType := event.eventType
        status := notice.status.getD event.status
        severity := event.severity
        message := notice.message.getD event.description
        services
        groups
        startedAt := event.startedAt
        scheduledStartAt := event.scheduledStartAt
        scheduledEndAt := event.scheduledEndAt
        createdAt := event.createdAt }
    changes
    resolution := notice.resolution.map (resolutionInfo event)
    eventUrl := a.eventUrl event.id
    generatedAt := now }

/-- A new item for a channel. -/
def newItem (a : Announcer) (eventId : Uuid) (p : Payload) (channelId : Uuid) :
    Program NewItem := do
  let id ← request .mint
  return NewItem.ofPayload id eventId channelId p a.maxAttempts

/-- Queues a snapshot for channels; the answer is how many they were. -/
def enqueue (a : Announcer) (eventId : Uuid) (channelIds : List Uuid) (p : Payload) :
    Program Nat := do
  let items ← each (a.newItem eventId p) channelIds
  match ← call (.enqueueBatch items) with
  | .ok count => return count
  | .error _ => return 0

/-- Announces to channels, if there are any. -/
def announce (a : Announcer) (event : Event) (scope : Scope) (notice : Notice)
    (channelIds : List Uuid) : Program Nat :=
  match channelIds with
  | [] => return 0
  | _ => do
    let p ← a.payload event scope notice
    a.enqueue event.id channelIds p

/-- Announces to the channels that are told about the event. -/
def announceToKnown (a : Announcer) (event : Event) (scope : Scope) (notice : Notice) :
    Program Nat := do
  match ← call (.getEventSubscribers event.id) with
  | .ok channelIds => a.announce event scope notice channelIds
  | .error _ => return 0

/-- A new event was published. -/
def onCreated (a : Announcer) (event : Event) (scope : Scope) : Program Nat := do
  if event.notifySubscribers then
    match ← call (.findSubscribers scope.serviceIds) with
    | .error _ => return 0
    | .ok [] => return 0
    | .ok (subscriber :: subscribers) =>
      let channelIds := (subscriber :: subscribers).map (·.channelId)
      match ← call (.addEventSubscribers event.id channelIds) with
      | .error _ => return 0
      | .ok _ => a.announce event scope (.plain .initial) channelIds
  else return 0

/-- Adds the subscribers of services to those of an event. -/
def extendSubscribers (event : Event) (serviceIds : List Uuid) :
    Program (Except StoreError Unit) := do
  match ← call (.findSubscribers serviceIds) with
  | .error e => return .error e
  | .ok newcomers =>
    match ← call (.addEventSubscribers event.id (newcomers.map (·.channelId))) with
    | .error e => return .error e
    | .ok _ => return .ok ()

/-- An update was posted. -/
def onUpdated (a : Announcer) (event : Event) (scope : Scope) (update : Update)
    (changes : ChangeSet) : Program Nat := do
  let notice : Notice := ⟨.update, update.message, some update.status, some changes, none⟩
  if update.notifySubscribers then
    if changes.servicesAdded.isEmpty then a.announceToKnown event scope notice
    else
      match ← extendSubscribers event changes.addedServiceIds with
      | .error _ => return 0
      | .ok () => a.announceToKnown event scope notice
  else return 0

/-- An event ended in one of two ways. -/
def onClosed (a : Announcer) (event : Event) (scope : Scope) (resolution : Resolution)
    (kind : MessageKind) : Program Nat :=
  a.announceToKnown event scope { Notice.plain kind with resolution := some resolution }

/-- An incident was resolved. -/
def onResolved (a : Announcer) (event : Event) (scope : Scope) (resolution : Resolution) :
    Program Nat :=
  a.onClosed event scope resolution .resolved

/-- A maintenance window was finished. -/
def onCompleted (a : Announcer) (event : Event) (scope : Scope) (resolution : Resolution) :
    Program Nat :=
  a.onClosed event scope resolution .completed

/-- A maintenance window was called off. -/
def onCancelled (a : Announcer) (event : Event) (scope : Scope) : Program Nat :=
  if event.notifySubscribers then a.announceToKnown event scope (.plain .cancelled) else return 0

end Announcer

end Courier
