import Courier.Message.Html
import Courier.Message.Labels
import Courier.Payload
import Courier.Payload.Elapsed

/-!
# Message — Telegram

The bodies of Telegram messages: HTML of at most 4096 characters.  Every text that comes from the
payload is escaped.
-/

namespace Courier.Telegram
open Html

/-- The longest message that Telegram takes. -/
def messageLimit : Nat := 4096

/-- An icon and a space in front of a line. -/
def marked (icon : String) (line : List Char) : List Char := icon.toList ++ ' ' :: line

/-- An arrow between two words. -/
def arrow (source target : String) : List Char :=
  source.toList ++ ' ' :: Char.ofNat 0x2192 :: ' ' :: target.toList

/-- The title of the event in bold after a word for what happened. -/
def heading (icon headline title : String) : List Char :=
  marked icon (bold (headline ++ ": " ++ title).toList)

/-- The status of the event, and its severity or its window. -/
def statusLines (e : EventSnapshot) : List (List Char) :=
  marked e.status.icon ("Status: ".toList ++ bold e.status.label.toList) ::
    match e.eventType with
    | .incident =>
      [marked (Severity.icon e.severity)
        ("Severity: ".toList ++ bold (Severity.label e.severity).toList)]
    | .maintenance =>
      match e.scheduledStartAt, e.scheduledEndAt with
      | some start, some finish =>
        [marked (glyphs [0x1F552])
          ("Window: ".toList ++ start.label.toList ++ " to ".toList ++ finish.label.toList)]
      | _, _ => []

/-- The services that are affected. -/
def serviceLines (e : EventSnapshot) : List (List Char) :=
  if e.services.isEmpty then []
  else [] :: bold "Affected services:".toList ::
    e.services.map fun s =>
      marked s.status.icon (escape s.name.toList ++ ": ".toList ++ s.status.label.toList)

/-- Names with a comma and a space between them. -/
def names : List (List Char) → List Char
  | [] => []
  | [name] => name
  | name :: rest => name ++ ", ".toList ++ names rest

/-- The groups of the services. -/
def groupLines (e : EventSnapshot) : List (List Char) :=
  if e.groups.isEmpty then []
  else ["Groups: ".toList ++ names (e.groups.map fun g => escape g.name.toList)]

/-- The services and their groups. -/
def services (e : EventSnapshot) : List (List Char) := serviceLines e ++ groupLines e

/-- The link to the event. -/
def footer (p : Payload) : List (List Char) :=
  match p.eventUrl with
  | some url => [[], link url.toList "View on status page".toList]
  | none => []

/-- What an update changed. -/
def changeLines (c : PayloadChanges) : List (List Char) :=
  (c.status.map fun s =>
      marked s.target.icon ("Status: ".toList ++ arrow s.source.label s.target.label)).toList ++
    (c.servicesAdded.map fun s =>
      marked (glyphs [0x2795])
        (escape s.name.toList ++ " (".toList ++ s.status.label.toList ++ ")".toList)) ++
    (c.servicesRemoved.map fun s => marked (glyphs [0x2796]) (escape s.name.toList)) ++
    (c.servicesUpdated.map fun s =>
      marked s.target.icon
        (escape s.name.toList ++ ": ".toList ++ arrow s.source.label s.target.label)) ++
    (c.reason.map fun r => "Reason: ".toList ++ escape r.toList).toList

/-- The changes under their heading, if there are any. -/
def changes : Option PayloadChanges → List (List Char)
  | some c => if c.isEmpty then [] else [] :: bold "Changes:".toList :: changeLines c
  | none => []

/-- How the event ended. -/
def resolution : Option ResolutionInfo → List (List Char)
  | some r =>
    ["Closed at ".toList ++ r.resolvedAt.label.toList] ++
      (if 0 < r.durationSeconds.toInt then
        ["Duration: ".toList ++ (formatDuration r.durationSeconds.toInt).toList] else []) ++
      (match r.message with
        | some m => [[], escape m.toList]
        | none => [])
  | none => []

/-- The lines above the footer of a message. -/
def lines (p : Payload) : List (List Char) :=
  match p.kind with
  | .initial =>
    let headline :=
      match p.event.eventType with
      | .incident => "New incident"
      | .maintenance => "Scheduled maintenance"
    [heading p.event.eventType.icon headline p.event.title, []] ++ statusLines p.event ++
      [[], escape p.event.message.toList] ++ services p.event
  | .update =>
    [heading (glyphs [0x1F4E2]) "Update" p.event.title, []] ++ statusLines p.event ++
      [[], escape p.event.message.toList] ++ changes p.changes ++ services p.event
  | .resolved => closing "Resolved"
  | .completed => closing "Maintenance completed"
  | .cancelled =>
    [heading (glyphs [0x274C]) "Maintenance cancelled" p.event.title, [],
        escape p.event.message.toList] ++
      (match p.event.scheduledStartAt with
        | some t => [[], "Was scheduled for ".toList ++ t.label.toList]
        | none => [])
where
  /-- The lines for an event that has ended. -/
  closing (headline : String) : List (List Char) :=
    [heading (glyphs [0x2705]) headline p.event.title, []] ++ resolution p.resolution ++
      services p.event

/-- The body of a message. -/
def body (p : Payload) : List Char := joinWithin (lines p) (footer p) messageLimit

end Courier.Telegram
