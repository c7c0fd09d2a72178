/-!
# Url — Punycode

Labels of any characters written with letters, digits and hyphens: the ASCII characters, a hyphen,
and then the others in the order of their numbers, each as the distance from the one before in
digits of a mixed base.  The base of a digit follows the distances seen so far.
-/

namespace Courier.Url.Punycode

/-- The digits `a` to `z` and `0` to `9`. -/
def digit (n : Nat) : Char := if n < 26 then Char.ofNat (97 + n) else Char.ofNat (22 + n)

/-- The value of a digit. -/
def value? (c : Char) : Option Nat :=
  if 'a' ≤ c ∧ c ≤ 'z' then some (c.toNat - 97)
  else if 'A' ≤ c ∧ c ≤ 'Z' then some (c.toNat - 65)
  else if '0' ≤ c ∧ c ≤ '9' then some (c.toNat - 22)
  else none

/-- The least value of digit `k` after which more digits follow. -/
def threshold (k bias : Nat) : Nat := min (max (36 * (k + 1) - bias) 1) 26

/-- The part of the bias that repeated division gives, and the number that is left. -/
def adaptFrom (delta k : Nat) : Nat × Nat :=
  if 455 < delta then adaptFrom (delta / 35) (k + 36) else (delta, k)
termination_by delta
decreasing_by omega

/-- The bias after a distance, when `count` characters are written. -/
def adapt (delta count : Nat) (first : Bool) : Nat :=
  let delta := if first then delta / 700 else delta / 2
  let (delta, k) := adaptFrom (delta + delta / count) 0
  k + 36 * delta / (delta + 38)

theorem threshold_pos (k bias : Nat) : 1 ≤ threshold k bias := by unfold threshold; omega

/-- The digits of a distance from digit `k` on. -/
def digits (bias k q : Nat) : List Char :=
  let t := threshold k bias
  if q < t then [digit q]
  else digit (t + (q - t) % (36 - t)) :: digits bias (k + 1) ((q - t) / (36 - t))
termination_by q
decreasing_by
  have := threshold_pos k bias
  exact Nat.lt_of_le_of_lt (Nat.div_le_self _ _) (by omega)

/-- Writing in progress: what is written, the distance, the bias and the count of characters. -/
structure State where
  written : List Char
  delta : Nat
  bias : Nat
  count : Nat

/-- Passes one character of the label while the characters `n` are written. -/
def State.pass (basic n : Nat) (st : State) (c : Char) : State :=
  if c.toNat < n then { st with delta := st.delta + 1 }
  else if c.toNat = n then
    ⟨st.written ++ digits st.bias 0 st.delta, 0,
      adapt st.delta (st.count + 1) (decide (st.count = basic)), st.count + 1⟩
  else st

/-- Writes the characters with the numbers of a growing list; `previous` is the number from which
distances count. -/
def State.writeAll (label : List Char) (basic : Nat) : Nat → List Nat → State → State
  | _, [], st => st
  | previous, n :: rest, st =>
    let st := { st with delta := st.delta + (n - previous) * (st.count + 1) }
    let st := label.foldl (State.pass basic n) st
    writeAll label basic (n + 1) rest { st with delta := st.delta + 1 }

/-- Puts a number at its place in a growing list. -/
def place (n : Nat) : List Nat → List Nat
  | [] => [n]
  | m :: rest => if n < m then n :: m :: rest else if n = m then m :: rest else m :: place n rest

/-- The written form of a label. -/
def encode (label : List Char) : List Char :=
  let ascii := label.filter fun c => c.toNat < 128
  let others := (label.filter fun c => 128 ≤ c.toNat).foldr (fun c => place c.toNat) []
  let start : State := ⟨if ascii.isEmpty then [] else ascii ++ ['-'], 0, 72, ascii.length⟩
  (State.writeAll label ascii.length 128 others start).written

/-- A distance: what it adds to `i`, and what follows. -/
def distance? (bias : Nat) : Nat → Nat → Nat → List Char → Option (Nat × List Char)
  | _, _, _, [] => none
  | k, weight, i, c :: rest =>
    match value? c with
    | none => none
    | some d =>
      if d < threshold k bias then some (i + d * weight, rest)
      else distance? bias (k + 1) (weight * (36 - threshold k bias)) (i + d * weight) rest

/-- Reads distances and puts a character for each into the label.  Each round takes a character at
least, so the length of the text is fuel enough. -/
def insertAll : Nat → Nat → Nat → Nat → List Char → List Char → Option (List Char)
  | 0, _, _, _, _, _ => none
  | _ + 1, _, _, _, label, [] => some label
  | fuel + 1, n, i, bias, label, s =>
    match distance? bias 0 1 i s with
    | none => none
    | some (j, rest) =>
      let count := label.length + 1
      let m := n + j / count
      let spot := j % count
      if 0x10FFFF < m ∨ (0xD800 ≤ m ∧ m ≤ 0xDFFF) then none
      else
        insertAll fuel m (spot + 1) (adapt (j - i) count (decide (i = 0)))
          (label.take spot ++ Char.ofNat m :: label.drop spot) rest

/-- The label of a written form. -/
def decode? (s : List Char) : Option (List Char) :=
  let tail := (s.reverse.takeWhile (· ≠ '-')).reverse
  let ascii := s.take (s.length - tail.length - 1)
  if s.all fun c => c.toNat < 128 then insertAll (s.length + 1) 128 0 72 ascii tail else none

end Courier.Url.Punycode
