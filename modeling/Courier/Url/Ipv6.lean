import Courier.Text.Hex
import Courier.Text.Integer

/-!
# Url — Ipv6

Addresses of eight groups of 16 bits.  A run of zero groups may be written `::`, and the last two
groups as four decimal numbers.  The written form shortens the first of the longest runs of at least
two zero groups.
-/

namespace Courier.Url.Ipv6

/-- Up to `width` hexadecimal digits: their number, how many they are, and what follows. -/
def hexGroup : Nat → Nat → Nat → List Char → Nat × Nat × List Char
  | 0, n, count, s => (n, count, s)
  | _, n, count, [] => (n, count, [])
  | width + 1, n, count, c :: rest =>
    match Text.hexValue? c with
    | some d => hexGroup width (n * 16 + d) (count + 1) rest
    | none => (n, count, c :: rest)

/-- A number up to 255 without leading zeros. -/
def octet? (s : List Char) : Option (Nat × List Char) :=
  let digits := s.takeWhile fun c => (Text.digitValue? c).isSome
  if digits = [] ∨ (1 < digits.length ∧ digits.head? = some '0') then none
  else
    match Text.readNat 255 digits with
    | .ok n => some (n, s.drop digits.length)
    | .error _ => none

/-- Four numbers with points between them, up to the end: the two groups that they make. -/
def dotted? (s : List Char) : Option (Nat × Nat) := do
  let (a, s) ← octet? s
  let (b, s) ← point? s
  let (c, s) ← point? s
  let (d, s) ← point? s
  if s.isEmpty then some (a * 256 + b, c * 256 + d) else none
where
  /-- A point and a number. -/
  point? : List Char → Option (Nat × List Char)
    | '.' :: rest => octet? rest
    | _ => none

/-- The groups of a text, last first, and how many stand before the end of a `::`.  Each round takes
a character at least, so the length of the text is fuel enough. -/
def groups? : Nat → List Nat → Option Nat → List Char → Option (List Nat × Option Nat)
  | 0, _, _, _ => none
  | _ + 1, read, gap, [] => some (read, gap)
  | fuel + 1, read, gap, c :: rest =>
    if read.length = 8 then none
    else if c = ':' then
      if gap.isSome then none else groups? fuel (0 :: read) (some (read.length + 1)) rest
    else
      let (n, count, after) := hexGroup 4 0 0 (c :: rest)
      match after with
      | [] => some (n :: read, gap)
      | '.' :: _ =>
        if count = 0 ∨ 6 < read.length then none
        else (dotted? (c :: rest)).map fun (a, b) => (b :: a :: read, gap)
      | ':' :: after => if after = [] then none else groups? fuel (n :: read) gap after
      | _ => none

/-- The eight groups: those before the end of a `::`, zeros, and those after it. -/
def spread? : List Nat → Option Nat → Option (List Nat)
  | read, none => if read.length = 8 then some read else none
  | read, some gap =>
    some (read.take gap ++ List.replicate (8 - read.length) 0 ++ read.drop gap)

/-- The groups of an address. -/
def parse? (s : List Char) : Option (List Nat) :=
  let read :=
    match s with
    | ':' :: ':' :: rest => groups? (s.length + 1) [0] (some 1) rest
    | ':' :: _ => none
    | _ => groups? (s.length + 1) [] none s
  read.bind fun (groups, gap) => spread? groups.reverse gap

/-- How many zero groups stand in front. -/
def zerosInFront (groups : List Nat) : Nat := (groups.takeWhile (· = 0)).length

/-- The place and the length of the first of the longest runs of zeros from `place` on. -/
def longestRun : Nat → List Nat → Nat × Nat
  | place, [] => (place, 0)
  | place, g :: rest =>
    let (bestPlace, best) := longestRun (place + 1) rest
    if best ≤ zerosInFront (g :: rest) then (place, zerosInFront (g :: rest)) else (bestPlace, best)

/-- A group without leading zeros. -/
def groupText (g : Nat) : List Char :=
  match (Text.hexDigits 4 g).dropWhile (· = '0') with
  | [] => ['0']
  | digits => digits

/-- Groups with colons between them. -/
def colonList : List Nat → List Char
  | [] => []
  | [g] => groupText g
  | g :: rest => groupText g ++ ':' :: colonList rest

/-- The written form of an address. -/
def text (groups : List Nat) : List Char :=
  let (place, length) := longestRun 0 groups
  if 2 ≤ length then
    colonList (groups.take place) ++ ':' :: ':' :: colonList (groups.drop (place + length))
  else colonList groups

end Courier.Url.Ipv6
