import Courier.Text.Percent
import Courier.Url.Ipv4
import Courier.Url.Punycode

/-!
# Url — Domain

Names of hosts in ASCII.  Characters are folded to the ones that names are made of, some are
ignored and some refused; a label that is left with others than ASCII characters is written in
Punycode after `xn--`.
-/

namespace Courier.Url.Domain

/-- Characters that fold to others by a fixed distance: every `step`-th from `first` to `last`. -/
structure Folding where
  first : Nat
  last : Nat
  step : Nat
  distance : Int

/-- The capitals of the alphabets and the wide forms of ASCII characters. -/
def foldings : List Folding :=
  [⟨0x41, 0x5A, 1, 32⟩, ⟨0xC0, 0xD6, 1, 32⟩, ⟨0xD8, 0xDE, 1, 32⟩, ⟨0x100, 0x12E, 2, 1⟩,
    ⟨0x139, 0x13D, 2, 1⟩, ⟨0x141, 0x147, 2, 1⟩, ⟨0x14A, 0x176, 2, 1⟩, ⟨0x178, 0x178, 1, -121⟩,
    ⟨0x179, 0x17D, 2, 1⟩, ⟨0x17F, 0x17F, 1, -268⟩, ⟨0x1CD, 0x1DB, 2, 1⟩, ⟨0x1DE, 0x1EE, 2, 1⟩,
    ⟨0x1F8, 0x21E, 2, 1⟩, ⟨0x222, 0x232, 2, 1⟩, ⟨0x246, 0x24E, 2, 1⟩, ⟨0x386, 0x386, 1, 38⟩,
    ⟨0x388, 0x38A, 1, 37⟩, ⟨0x38C, 0x38C, 1, 64⟩, ⟨0x38E, 0x38F, 1, 63⟩, ⟨0x391, 0x3A1, 1, 32⟩,
    ⟨0x3A3, 0x3AB, 1, 32⟩, ⟨0x3D8, 0x3EE, 2, 1⟩, ⟨0x400, 0x40F, 1, 80⟩, ⟨0x410, 0x42F, 1, 32⟩,
    ⟨0x460, 0x480, 2, 1⟩, ⟨0x48A, 0x4BE, 2, 1⟩, ⟨0x4C1, 0x4CD, 2, 1⟩, ⟨0x4D0, 0x52E, 2, 1⟩,
    ⟨0x531, 0x556, 1, 48⟩, ⟨0x10A0, 0x10C5, 1, 7264⟩, ⟨0x1C90, 0x1CBA, 1, -3008⟩,
    ⟨0x1E00, 0x1E94, 2, 1⟩, ⟨0x1EA0, 0x1EFE, 2, 1⟩, ⟨0x2070, 0x2070, 1, -8256⟩,
    ⟨0x2074, 0x2079, 1, -8256⟩, ⟨0x2080, 0x2089, 1, -8272⟩, ⟨0x2460, 0x2468, 1, -9263⟩,
    ⟨0x24B6, 0x24CF, 1, -9301⟩, ⟨0x24D0, 0x24E9, 1, -9327⟩, ⟨0x2C00, 0x2C2F, 1, 48⟩,
    ⟨0x2C80, 0x2CE2, 2, 1⟩, ⟨0x3002, 0x3002, 1, -12244⟩, ⟨0xA640, 0xA66C, 2, 1⟩,
    ⟨0xA680, 0xA69A, 2, 1⟩, ⟨0xFF01, 0xFF20, 1, -65248⟩, ⟨0xFF21, 0xFF3A, 1, -65216⟩,
    ⟨0xFF3B, 0xFF5E, 1, -65248⟩, ⟨0xFF61, 0xFF61, 1, -65331⟩, ⟨0x10400, 0x10427, 1, 40⟩,
    ⟨0x1D400, 0x1D419, 1, -119711⟩, ⟨0x1D41A, 0x1D433, 1, -119737⟩,
    ⟨0x1D7CE, 0x1D7D7, 1, -120734⟩, ⟨0x1E900, 0x1E921, 1, 34⟩]

/-- What a few characters stand for. -/
def expansions : List (Nat × String) :=
  [(0xAA, "a"), (0xB2, "2"), (0xB3, "3"), (0xB9, "1"), (0xBA, "o"), (0x132, "ij"), (0x133, "ij"),
    (0x1E9E, "ss"), (0x2026, "..."), (0x2122, "tm"), (0xFB00, "ff"), (0xFB01, "fi"),
    (0xFB02, "fl"), (0xFB03, "ffi"), (0xFB04, "ffl")]

/-- Whether a number lies in one of several ranges. -/
def within (ranges : List (Nat × Nat)) (n : Nat) : Bool := ranges.any fun (a, b) => a ≤ n && n ≤ b

/-- Characters that leave no trace. -/
def ignored : List (Nat × Nat) :=
  [(0xAD, 0xAD), (0x34F, 0x34F), (0x115F, 0x1160), (0x17B4, 0x17B5), (0x180B, 0x180F),
    (0x200B, 0x200B), (0x2060, 0x2064), (0x206A, 0x206F), (0x3164, 0x3164), (0xFE00, 0xFE0F),
    (0xFEFF, 0xFEFF), (0xFFA0, 0xFFA0), (0xE0100, 0xE01EF)]

/-- Controls, blanks, joiners, marks of direction, private and unused characters. -/
def refused : List (Nat × Nat) :=
  [(0x7F, 0xA0), (0x1680, 0x1680), (0x2000, 0x200A), (0x200C, 0x200F), (0x2028, 0x202F),
    (0x205F, 0x205F), (0x2065, 0x2069), (0x3000, 0x3000), (0xE000, 0xF8FF), (0xFDD0, 0xFDEF),
    (0xFFF0, 0xFFFF), (0x12544, 0x12F8F), (0x14647, 0x160FF), (0x18DF3, 0x1AFEF),
    (0x1B2FC, 0x1BBFF), (0x1FBFB, 0x1FFFF), (0x2EE5E, 0x2F7FF), (0x2FA1E, 0x2FFFF),
    (0x3347A, 0xE00FF), (0xE01F0, 0x10FFFF)]

/-- Marks that join the character before them, and so cannot start a label. -/
def combining : List (Nat × Nat) :=
  [(0x300, 0x36F), (0x483, 0x489), (0x591, 0x5BD), (0x64B, 0x65F), (0x1AB0, 0x1ACE),
    (0x1DC0, 0x1DFF), (0x20D0, 0x20F0), (0x302A, 0x302F), (0x3099, 0x309A), (0xFE20, 0xFE2F)]

/-- Whether an ASCII character cannot be part of a host. -/
def isForbidden (c : Char) : Bool :=
  c.toNat ≤ 0x20 || c.toNat = 0x7F || "%#/:<>?@[\\]^|".toList.contains c

/-- What a character becomes in a name; none when it is refused. -/
def fold? (c : Char) : Option (List Char) :=
  let n := c.toNat
  match expansions.lookup n with
  | some s => some s.toList
  | none =>
    match foldings.find? fun f => f.first ≤ n && n ≤ f.last && (n - f.first) % f.step == 0 with
    | some f => some [Char.ofNat (n + f.distance).toNat]
    | none =>
      if within ignored n then some []
      else if within refused n then none
      else some [c]

/-- The folded characters of a name. -/
def foldAll? : List Char → Option (List Char)
  | [] => some []
  | c :: rest => do
    let folded ← fold? c
    let others ← foldAll? rest
    some (folded ++ others)

/-- What starts a label in Punycode. -/
def marker : List Char := "xn--".toList

/-- Whether all characters are of ASCII. -/
def isAscii (s : List Char) : Bool := s.all fun c => c.toNat < 128

/-- Whether a label may be written in Punycode. -/
def isWritable (label : List Char) : Bool :=
  !isAscii label && label.all (fun c => fold? c == some [c]) &&
    !(label.head?.any fun c => within combining c.toNat)

/-- A label in ASCII. -/
def label? (s : List Char) : Option (List Char) :=
  if isAscii s then
    if marker.isPrefixOf s then
      match Punycode.decode? (s.drop 4) with
      | some label => if isWritable label then some s else none
      | none => none
    else some s
  else if isWritable s ∧ ¬marker.isPrefixOf s then some (marker ++ Punycode.encode s)
  else none

/-- Labels with points between them. -/
def joinLabels : List (List Char) → List Char
  | [] => []
  | [label] => label
  | label :: rest => label ++ '.' :: joinLabels rest

/-- The name of a host in ASCII. -/
def ofBytes? (bytes : List Text.Utf8.Byte) : Option (List Char) := do
  let s ← Text.Utf8.decode? bytes
  let folded ← foldAll? s
  let labels ← (Ipv4.parts folded).mapM label?
  let name := joinLabels labels
  if name.any isForbidden then none else some name

end Courier.Url.Domain
