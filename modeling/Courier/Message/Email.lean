import Courier.Message.Labels
import Courier.Payload
import Courier.Payload.Elapsed

/-!
# Message — Email

The bodies of emails: plain text, line by line.
-/

namespace Courier.Email

/-- Lines with a line feed between them. -/
def body (lines : List String) : String := String.intercalate "\n" lines

/-- The status of the event, and its severity or its window. -/
def summary (e : EventSnapshot) : List String :=
  ("Status:    " ++ e.status.label) ::
    match e.eventType with
    | .incident => ["Severity:  " ++ Severity.label e.severity]
    | .maintenance =>
      (e.scheduledStartAt.map fun t => "Starts:    " ++ t.label).toList ++
        (e.scheduledEndAt.map fun t => "Ends:      " ++ t.label).toList

/-- The services that are affected and their groups. -/
def services (e : EventSnapshot) : List String :=
  (if e.services.isEmpty then []
    else "" :: "Affected services:" ::
      e.services.map fun s => "  - " ++ s.name ++ ": " ++ s.status.label) ++
  (if e.groups.isEmpty then []
    else ["Groups: " ++ String.intercalate ", " (e.groups.map (·.name))])

/-- The link to the event and why the reader gets the message. -/
def footer (p : Payload) : List String :=
  (match p.eventUrl with
    | some url => ["", "Follow this event: " ++ url]
    | none => []) ++
  ["", "You receive this email because you subscribed to status updates."]

/-- What an update changed. -/
def changeLines (c : PayloadChanges) : List String :=
  (c.status.map fun s =>
      "  - Status changed from " ++ s.source.label ++ " to " ++ s.target.label).toList ++
    (c.servicesAdded.map fun s => "  - " ++ s.name ++ " added (" ++ s.status.label ++ ")") ++
    (c.servicesRemoved.map fun s => "  - " ++ s.name ++ " removed") ++
    (c.servicesUpdated.map fun s =>
      "  - " ++ s.name ++ " changed from " ++ s.source.label ++ " to " ++ s.target.label) ++
    (c.reason.map fun r => "  Reason: " ++ r).toList

/-- The changes under their heading, if there are any. -/
def changes : Option PayloadChanges → List String
  | some c => if c.isEmpty then [] else "" :: "Changes:" :: changeLines c
  | none => []

/-- How the event ended. -/
def resolution : Option ResolutionInfo → List String
  | some r =>
    ["", "Closed at: " ++ r.resolvedAt.label] ++
      (if 0 < r.durationSeconds.toInt then
        ["Duration:  " ++ formatDuration r.durationSeconds.toInt] else []) ++
      (match r.message with
        | some m => ["", m]
        | none => [])
  | none => []

/-- The mail about a new event. -/
def initial (p : Payload) : String :=
  let intro :=
    match p.event.eventType with
    | .incident => "A new incident has been reported."
    | .maintenance => "Maintenance has been scheduled."
  body ([intro, "", p.event.title, ""] ++ summary p.event ++ ["", p.event.message] ++
    services p.event ++ footer p)

/-- The mail about an update. -/
def update (p : Payload) : String :=
  body (["There is a new update on \x22" ++ p.event.title ++ "\x22.", ""] ++ summary p.event ++
    ["", p.event.message] ++ changes p.changes ++ services p.event ++ footer p)

/-- The body for an event that has ended. -/
def closing (p : Payload) (verb : String) : String :=
  body (["\x22" ++ p.event.title ++ "\x22 " ++ verb ++ "."] ++ resolution p.resolution ++
    services p.event ++ footer p)

/-- The mail about an incident that is over. -/
def resolved (p : Payload) : String := closing p "has been resolved"

/-- The mail about a maintenance that is done. -/
def completed (p : Payload) : String := closing p "has been completed"

/-- The mail about a maintenance that will not take place. -/
def cancelled (p : Payload) : String :=
  body (["The maintenance \x22" ++ p.event.title ++ "\x22 has been cancelled.", "",
      p.event.message] ++
    (match p.event.scheduledStartAt with
      | some t => ["", "It was scheduled for " ++ t.label ++ "."]
      | none => []) ++
    footer p)

end Courier.Email
