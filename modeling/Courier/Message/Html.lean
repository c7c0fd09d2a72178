/-!
# Message — Html

Text for Telegram's HTML mode: escaped characters, bold text, links, and lines joined so that the
whole stays within a limit.

Lengths are counted in characters.  What does not fit is left out line by line; the last line is cut
if it has no markup, never within an entity.  The closing lines always stay.
-/

namespace Courier.Html

/-- A character in escaped text. -/
def escapeChar (c : Char) : List Char :=
  if c = '&' then "&amp;".toList
  else if c = '<' then "&lt;".toList
  else if c = '>' then "&gt;".toList
  else if c = '\x22' then "&quot;".toList
  else [c]

/-- A text in which no character is markup. -/
def escape (s : List Char) : List Char := s.flatMap escapeChar

/-- Escaped text in bold. -/
def bold (s : List Char) : List Char :=
  "<b>".toList ++ escape s ++ "</b>".toList

/-- An escaped label that leads to an address. -/
def link (url label : List Char) : List Char :=
  "<a href=\x22".toList ++ escape url ++ "\x22>".toList ++ escape label ++ "</a>".toList

/-- What stands where lines are left out. -/
def truncationMark : List Char := "\n\n[truncated]".toList

/-- The text before the last `&`, if a text has one without a `;` after it. -/
def beforeOpenEntity? : List Char → Option (List Char)
  | [] => none
  | c :: rest =>
    match beforeOpenEntity? rest with
    | some kept => some (c :: kept)
    | none => if c = '&' ∧ ';' ∉ rest ∧ '&' ∉ rest then some [] else none

/-- The first `limit` characters of escaped text, without an entity that the cut would split. -/
def cut (s : List Char) (limit : Nat) : List Char :=
  (beforeOpenEntity? (s.take limit)).getD (s.take limit)

/-- Lines with a line feed between them. -/
def joinLines : List (List Char) → List Char
  | [] => []
  | [line] => line
  | line :: lines => line ++ '\n' :: joinLines lines

/-- The closing lines, each after a line feed. -/
def tailText (tail : List (List Char)) : List Char :=
  tail.flatMap ('\n' :: ·)

/-- What stands in front of a line: a line feed, except before the first. -/
def separator (isFirst : Bool) : List Char := if isFirst then [] else ['\n']

/-- As much of the lines as fits into `budget` characters. -/
def fill : Bool → Nat → List (List Char) → List Char
  | _, _, [] => []
  | isFirst, budget, line :: lines =>
    let lead := separator isFirst
    if lead.length + line.length ≤ budget then
      lead ++ line ++ fill false (budget - (lead.length + line.length)) lines
    else if 0 < budget - lead.length ∧ '<' ∉ line then lead ++ cut line (budget - lead.length)
    else []

/-- The lines and the closing lines within `limit` characters; with less room than the closing lines
and the mark need, those two alone. -/
def joinWithin (lines tail : List (List Char)) (limit : Nat) : List Char :=
  let closing := tailText tail
  let full := joinLines lines ++ closing
  if full.length ≤ limit then full
  else fill true (limit - closing.length - truncationMark.length) lines ++ truncationMark ++ closing

end Courier.Html
