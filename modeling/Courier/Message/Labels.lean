import Courier.Event

/-!
# Message — Labels

The icons and words for statuses and severities, and the time as a reader sees it.
-/

namespace Courier

/-- The characters of a text given by their numbers. -/
def glyphs (codes : List Nat) : String := String.ofList (codes.map Char.ofNat)

/-- The sign for information, where nothing else fits. -/
def neutralIcon : String := glyphs [0x2139, 0xFE0F]

namespace EventType

/-- A rotating light or a wrench. -/
def icon : EventType → String
  | incident => glyphs [0x1F6A8]
  | maintenance => glyphs [0x1F527]

end EventType

namespace EventStatus

/-- A glass, a target, eyes, a check mark, a calendar, tools and a cross. -/
def icon : EventStatus → String
  | investigating => glyphs [0x1F50D]
  | identified => glyphs [0x1F3AF]
  | monitoring => glyphs [0x1F440]
  | resolved => glyphs [0x2705]
  | scheduled => glyphs [0x1F4C5]
  | inProgress => glyphs [0x1F6E0, 0xFE0F]
  | completed => glyphs [0x2705]
  | cancelled => glyphs [0x274C]
  | unknown => neutralIcon

/-- How a status is shown. -/
def label : EventStatus → String
  | investigating => "Investigating"
  | identified => "Identified"
  | monitoring => "Monitoring"
  | resolved => "Resolved"
  | scheduled => "Scheduled"
  | inProgress => "In progress"
  | completed => "Completed"
  | cancelled => "Cancelled"
  | unknown => "Unknown"

end EventStatus

namespace Severity

/-- A yellow, an orange or a red circle. -/
def icon : Option Severity → String
  | some minor => glyphs [0x1F7E1]
  | some major => glyphs [0x1F7E0]
  | some critical => glyphs [0x1F534]
  | some unknown => neutralIcon
  | none => neutralIcon

/-- How a severity is shown, and that there is none. -/
def label : Option Severity → String
  | some minor => "Minor"
  | some major => "Major"
  | some critical => "Critical"
  | some unknown => "Unknown"
  | none => "Unknown"

end Severity

namespace ServiceStatus

/-- A circle: green, yellow, orange, red, blue or white. -/
def icon : ServiceStatus → String
  | operational => glyphs [0x1F7E2]
  | degraded => glyphs [0x1F7E1]
  | partialOutage => glyphs [0x1F7E0]
  | majorOutage => glyphs [0x1F534]
  | maintenance => glyphs [0x1F535]
  | unknown => glyphs [0x26AA]

/-- How the status of a service is shown. -/
def label : ServiceStatus → String
  | operational => "Operational"
  | degraded => "Degraded performance"
  | partialOutage => "Partial outage"
  | majorOutage => "Major outage"
  | maintenance => "Under maintenance"
  | unknown => "Unknown"

end ServiceStatus

/-- `2026-03-01 10:00 UTC`. -/
def Instant.label (t : Instant) : String :=
  String.ofList (t.date.text ++ ' ' :: Time.clockText t.secondOfDay) ++ " UTC"

end Courier
