/-!
# Text — Utf8

Characters as bytes and back.  Decoding steps over a list of bytes by `next`: a whole character, or
the longest piece that could still have become one, which is what is replaced in a lenient reading.

* `encode`: the one to four bytes of each character.
* `decode?`: the text that the bytes spell, if they spell one.
* `decodeLossy`: every ill-formed piece read as U+FFFD.
-/

namespace Courier.Text.Utf8

/-- A byte, as a number below 256. -/
abbrev Byte := Nat

/-- The bytes of one character. -/
def encodeChar (c : Char) : List Byte :=
  let n := c.toNat
  if n < 0x80 then [n]
  else if n < 0x800 then [0xC0 + n / 64, 0x80 + n % 64]
  else if n < 0x10000 then [0xE0 + n / 4096, 0x80 + n / 64 % 64, 0x80 + n % 64]
  else [0xF0 + n / 262144, 0x80 + n / 4096 % 64, 0x80 + n / 64 % 64, 0x80 + n % 64]

/-- The bytes of a text. -/
def encode (s : List Char) : List Byte :=
  s.flatMap encodeChar

/-- How many bytes a text takes. -/
def size (s : List Char) : Nat :=
  (encode s).length

/-- What a first byte announces: how many bytes follow it, the bits that it holds itself and the
range of the byte after it. -/
def lead (b : Byte) : Option (Nat × Nat × Byte × Byte) :=
  if 0xC2 ≤ b ∧ b ≤ 0xDF then some (1, b - 0xC0, 0x80, 0xBF)
  else if b = 0xE0 then some (2, 0, 0xA0, 0xBF)
  else if b = 0xED then some (2, 0xD, 0x80, 0x9F)
  else if 0xE1 ≤ b ∧ b ≤ 0xEF then some (2, b - 0xE0, 0x80, 0xBF)
  else if b = 0xF0 then some (3, 0, 0x90, 0xBF)
  else if 0xF1 ≤ b ∧ b ≤ 0xF3 then some (3, b - 0xF0, 0x80, 0xBF)
  else if b = 0xF4 then some (3, 4, 0x80, 0x8F)
  else none

/-- Reads `count` continuation bytes, the first of them between `low` and `high`: the number they
complete, if they are all there, and what is left. -/
def continued (count value : Nat) (low high : Byte) : List Byte → Option Nat × List Byte
  | [] => if count = 0 then (some value, []) else (none, [])
  | b :: rest =>
    match count with
    | 0 => (some value, b :: rest)
    | count + 1 =>
      if low ≤ b ∧ b ≤ high then continued count (value * 64 + (b - 0x80)) 0x80 0xBF rest
      else (none, b :: rest)

/-- Reading on never gives bytes back. -/
theorem length_continued_le (count value : Nat) (low high : Byte) (bs : List Byte) :
    (continued count value low high bs).2.length ≤ bs.length := by
  induction bs generalizing count value low high with
  | nil => unfold continued; split <;> simp
  | cons b rest ih =>
      unfold continued
      cases count with
      | zero => simp
      | succ count =>
          dsimp only
          split
          · exact Nat.le_succ_of_le (ih _ _ _ _)
          · simp

/-- The first character of a list of bytes, `none` for an ill-formed piece, and the bytes after
it. -/
def next (b : Byte) (rest : List Byte) : Option Char × List Byte :=
  if b < 0x80 then (some (Char.ofNat b), rest)
  else
    match lead b with
    | none => (none, rest)
    | some (count, value, low, high) =>
      match continued count value low high rest with
      | (some n, rest) => (some (Char.ofNat n), rest)
      | (none, rest) => (none, rest)

theorem length_next_le (b : Byte) (rest : List Byte) :
    (next b rest).2.length ≤ rest.length := by
  unfold next
  split
  · exact Nat.le_refl _
  · split
    · exact Nat.le_refl _
    · rename_i count value low high _
      have h := length_continued_le count value low high rest
      split <;> simp_all

/-- The characters and the ill-formed pieces of a list of bytes, in order. -/
def pieces : List Byte → List (Option Char)
  | [] => []
  | b :: rest => (next b rest).1 :: pieces (next b rest).2
termination_by bs => bs.length
decreasing_by exact Nat.lt_succ_of_le (length_next_le b rest)

/-- The text that the bytes spell, if they are well formed. -/
def decode? (bs : List Byte) : Option (List Char) :=
  (pieces bs).mapM id

/-- The text that the bytes spell, with U+FFFD for each ill-formed piece. -/
def decodeLossy (bs : List Byte) : List Char :=
  (pieces bs).map (·.getD (Char.ofNat 0xFFFD))

end Courier.Text.Utf8
