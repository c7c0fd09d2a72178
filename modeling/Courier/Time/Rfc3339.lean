import Courier.Json.Record
import Courier.Text.Blank
import Courier.Text.Integer
import Courier.Time.Instant

/-!
# Time — Rfc3339

Instants as text: `2026-03-01T10:00:05.250Z`.

Writing uses 0, 3, 6 or 9 places for the fraction, the fewest that lose nothing, and a sign for a
year outside 0 to 9999.  Reading is lenient: fields may be short of digits and have blanks before
them, the date and the time may stand apart by a space, the offset may be any from -23:59 to +23:59,
and digits after the ninth of a fraction are dropped.
-/

namespace Courier.Time

/-- A year with four digits or more, after a sign when it lies outside 0 to 9999. -/
def yearText (year : Int) : List Char :=
  let digits := Text.natDigits year.natAbs
  let padded := List.replicate (4 - digits.length) '0' ++ digits
  if year < 0 then '-' :: padded else if 9999 < year then '+' :: padded else padded

/-- `2026-03-01`. -/
def Date.text (d : Date) : List Char :=
  yearText d.year ++ '-' :: Text.fixedDigits 2 d.month ++ '-' :: Text.fixedDigits 2 d.day

/-- The fraction of a second in the fewest of 0, 3, 6 or 9 places. -/
def fractionText (nano : Nat) : List Char :=
  if nano = 0 then []
  else if nano % 1000000 = 0 then '.' :: Text.fixedDigits 3 (nano / 1000000)
  else if nano % 1000 = 0 then '.' :: Text.fixedDigits 6 (nano / 1000)
  else '.' :: Text.fixedDigits 9 nano

/-- Hours and minutes of a second of the day: `10:00`. -/
def clockText (second : Int) : List Char :=
  Text.fixedDigits 2 (second / 3600).toNat ++ ':' :: Text.fixedDigits 2 (second / 60 % 60).toNat

/-- The characters of an instant's text. -/
def write (t : Instant) : List Char :=
  let leap := nanosPerSecond ≤ t.nano
  let second := (t.second % 60).toNat + if leap then 1 else 0
  let nano := if leap then t.nano - nanosPerSecond else t.nano
  t.date.text ++ 'T' :: clockText t.secondOfDay ++ ':' :: Text.fixedDigits 2 second ++
    fractionText nano ++ ['Z']

/-- A number of one to `width` digits, and the text after it. -/
def digitsWithin? : Nat → Nat → Bool → List Char → Option (Nat × List Char)
  | 0, n, some?, s => if some? then some (n, s) else none
  | _ + 1, n, some?, [] => if some? then some (n, []) else none
  | width + 1, n, some?, c :: rest =>
    match Text.digitValue? c with
    | some d => digitsWithin? width (n * 10 + d) true rest
    | none => if some? then some (n, c :: rest) else none

/-- A field of one to `width` digits after blanks. -/
def field? (width : Nat) (s : List Char) : Option (Nat × List Char) :=
  digitsWithin? width 0 false (Text.dropBlanks s)

/-- The text after `c`, which blanks may precede. -/
def mark? (c : Char) (s : List Char) : Option (List Char) :=
  match Text.dropBlanks s with
  | d :: rest => if c = d then some rest else none
  | [] => none

/-- A year: up to four digits, or a sign and any number of them. -/
def year? (s : List Char) : Option (Int × List Char) :=
  match Text.dropBlanks s with
  | '+' :: rest => (digitsWithin? rest.length 0 false rest).map fun (n, rest) => ((n : Int), rest)
  | '-' :: rest => (digitsWithin? rest.length 0 false rest).map fun (n, rest) => (-(n : Int), rest)
  | s => (digitsWithin? 4 0 false s).map fun (n, rest) => ((n : Int), rest)

/-- Year, month and day. -/
def date? (s : List Char) : Option (Date × List Char) := do
  let (year, s) ← year? s
  let s ← mark? '-' s
  let (month, s) ← field? 2 s
  let s ← mark? '-' s
  let (day, s) ← field? 2 s
  some (⟨year, month, day⟩, s)

/-- The nanoseconds of a fraction after its point: nine digits count, those after them are
dropped. -/
def nanos? (s : List Char) : Option (Nat × List Char) :=
  (digitsWithin? 9 0 false s).map fun (n, rest) =>
    (n * Nat.pow 10 (9 - (s.length - rest.length)),
      rest.dropWhile fun c => (Text.digitValue? c).isSome)

/-- Hour, minute, second and nanoseconds. -/
def time? (s : List Char) : Option ((Nat × Nat × Nat × Nat) × List Char) := do
  let (hour, s) ← field? 2 s
  let s ← mark? ':' s
  let (minute, s) ← field? 2 s
  let s ← mark? ':' s
  let (second, s) ← field? 2 s
  match s with
  | '.' :: rest =>
    let (nano, rest) ← nanos? rest
    some ((hour, minute, second, nano), rest)
  | s => some ((hour, minute, second, 0), s)

/-- Two digits. -/
def pair? : List Char → Option (Nat × List Char)
  | a :: b :: rest =>
    match Text.digitValue? a, Text.digitValue? b with
    | some x, some y => some (10 * x + y, rest)
    | _, _ => none
  | _ => none

/-- The seconds of an offset after its sign: hours and minutes, with colons and blanks between
them. -/
def offsetSeconds? (s : List Char) : Option (Int × List Char) := do
  let (hours, s) ← pair? s
  let (minutes, s) ← pair? (s.dropWhile fun c => c == ':' || Text.isBlank c)
  if minutes < 60 then some ((hours * 3600 + minutes * 60 : Int), s) else none

/-- The minus sign, U+2212. -/
def minusSign : Char := Char.ofNat 0x2212

/-- The offset from Coordinated Universal Time: `Z`, `UTC` in any case, or a sign and a time. -/
def offset? (s : List Char) : Option (Int × List Char) :=
  match Text.dropBlanks s with
  | [] => none
  | c :: rest =>
    if ((c :: rest).take 3).map Char.toLower = ['u', 't', 'c'] then some (0, rest.drop 2)
    else if c = 'Z' ∨ c = 'z' then some (0, rest)
    else if c = '+' then offsetSeconds? rest
    else if c = '-' ∨ c = minusSign then (offsetSeconds? rest).map fun (n, rest) => (-n, rest)
    else none

/-- The instant of a date and a time at an offset. -/
def instant? (d : Date) (hour minute second nano : Nat) (offset : Int) : Option Instant :=
  if d.exists? ∧ hour < 24 ∧ minute < 60 ∧ second ≤ 60 ∧ offset.natAbs < 86400 ∧
      Valid (d.toDays * 86400) 0 then
    let (second, nano) := if second = 60 then (59, nano + nanosPerSecond) else (second, nano)
    Instant.of? (d.toDays * 86400 + hour * 3600 + minute * 60 + second - offset) nano
  else none

/-- The instant that a text spells. -/
def read? (s : List Char) : Option Instant := do
  let (d, s) ← date? s
  let s ←
    match s with
    | c :: rest => if c = 'T' ∨ c = 't' ∨ c = ' ' then some rest else none
    | [] => none
  let ((hour, minute, second, nano), s) ← time? s
  let (offset, s) ← offset? s
  if (Text.dropBlanks s).isEmpty then instant? d hour minute second nano offset else none

end Courier.Time

namespace Courier.Instant

/-- The text of an instant. -/
def text (t : Instant) : String := String.ofList (Time.write t)

/-- An instant as JSON: its text. -/
def toJson (t : Instant) : Json := .string t.text

/-- The instant that a JSON value spells. -/
def ofJson? (j : Json) : Option Instant :=
  j.toText?.bind fun s => Time.read? s.toList

end Courier.Instant
