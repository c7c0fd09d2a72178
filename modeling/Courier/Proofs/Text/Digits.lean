import Mathlib.Algebra.Order.Ring.Nat
import Courier.Number.Decimal
import Courier.Text.Blank
import Courier.Text.Hex

/-!
# Proofs — Text — Digits

Numbers as digits, and digits as numbers.  `Spells n s m` says that the digits `s` continue the
number `n` to `m`; what is written is so (`spells_natDigits`, `spells_fixedDigits`), and readers of
digits go by it.  `Canonical` adds that no zero stands in front.

* `spanDigits_of_spells`: digits are read up to the first character that is none (`Stops`).
* `hexNumber?_hexDigits`: the same in base sixteen, for all of a text.
-/

namespace Courier.Text

/-- The decimal digits of a text continue a number to another. -/
inductive Spells : Nat → List Char → Nat → Prop where
  | nil (n : Nat) : Spells n [] n
  | cons {n m d : Nat} {c : Char} {s : List Char} (h : digitValue? c = some d)
      (hs : Spells (n * 10 + d) s m) : Spells n (c :: s) m

/-- A number in decimal that starts with a zero only where that is all of it. -/
structure Canonical (n : Nat) (s : List Char) : Prop where
  spells : Spells 0 s n
  ne_nil : s ≠ []
  lead : s.head? = some '0' → s = ['0']

/-- A text does not start with a digit. -/
def Stops (s : List Char) : Prop := ∀ c ∈ s.head?, digitValue? c = none

theorem stops_cons {c : Char} {s : List Char} (h : digitValue? c = none) : Stops (c :: s) := by
  intro d hd
  rw [← Option.some.inj hd]
  exact h

/-- The character that stands for a digit. -/
theorem digitValue?_digit {d : Nat} (h : d < 10) : digitValue? (Char.ofNat (48 + d)) = some d := by
  have hall : ∀ d < 10, digitValue? (Char.ofNat (48 + d)) = some d := by decide
  exact hall d h

/-- A digit is the character that many places after the zero. -/
theorem toNat_of_digit {c : Char} {d : Nat} (h : digitValue? c = some d) :
    c.toNat = 48 + d ∧ d < 10 := by
  rw [digitValue?] at h
  split at h
  · rename_i hc
    have hlow : 48 ≤ c.toNat := hc.1
    have hhigh : c.toNat ≤ 57 := hc.2
    have hd := Option.some.inj h
    omega
  · cases h

/-- A text that starts with something else has no blanks in front. -/
theorem dropBlanks_cons {c : Char} (h : isBlank c = false) (s : List Char) :
    dropBlanks (c :: s) = c :: s := by
  rw [dropBlanks, List.dropWhile_cons_of_neg (by simp [h])]

/-- A digit is no blank. -/
theorem isBlank_of_digit {c : Char} {d : Nat} (h : digitValue? c = some d) : isBlank c = false := by
  obtain ⟨hc, hd⟩ := toNat_of_digit h
  simp only [isBlank, hc, Bool.or_eq_false_iff, Bool.and_eq_false_iff, decide_eq_false_iff_not,
    beq_eq_false_iff_ne]
  omega

namespace Spells

variable {n m k : Nat} {s t : List Char}

/-- Numerals are read one after the other. -/
theorem append (h : Spells n s m) (h' : Spells m t k) : Spells n (s ++ t) k := by
  induction h with
  | nil n => exact h'
  | cons hd _ ih => exact .cons hd (ih h')

theorem digit {d : Nat} (n : Nat) (h : d < 10) : Spells n [Char.ofNat (48 + d)] (n * 10 + d) :=
  .cons (digitValue?_digit h) (.nil _)

theorem zeros (k : Nat) : Spells 0 (List.replicate k '0') 0 := by
  induction k with
  | zero => exact .nil 0
  | succ k ih => exact .cons (d := 0) rfl ih

theorem exists_cons (h : Spells n s m) (hs : s ≠ []) :
    ∃ c d t, s = c :: t ∧ digitValue? c = some d := by
  cases h with
  | nil => exact absurd rfl hs
  | @cons _ _ d c t hd _ => exact ⟨c, d, t, rfl, hd⟩

end Spells

/-! ### What is written -/

/-- The digits of a number spell it. -/
theorem spells_natDigits (n : Nat) : Spells 0 (natDigits n) n := by
  induction n using Nat.strongRecOn with
  | ind n ih =>
      rw [natDigits]
      split
      · rename_i h
        have hdigit := Spells.digit 0 h
        rwa [Nat.zero_mul, Nat.zero_add] at hdigit
      · have happend := (ih (n / 10) (by omega)).append (.digit (n / 10) (Nat.mod_lt n (by decide)))
        rwa [Nat.mul_comm, Nat.div_add_mod] at happend

theorem natDigits_ne_nil (n : Nat) : natDigits n ≠ [] := by
  rw [natDigits]
  split <;> simp

/-- The digits of a positive number do not start with a zero. -/
theorem head_natDigits {n : Nat} (hn : 0 < n) : (natDigits n).head? ≠ some '0' := by
  induction n using Nat.strongRecOn with
  | ind n ih =>
      rw [natDigits]
      split
      · rename_i h
        have hall : ∀ d < 10, 0 < d → [Char.ofNat (48 + d)].head? ≠ some '0' := by decide
        exact hall n h hn
      · obtain ⟨c, t, hdigits⟩ := List.exists_cons_of_ne_nil (natDigits_ne_nil (n / 10))
        have hhead := ih (n / 10) (by omega) (by omega)
        rw [hdigits] at hhead ⊢
        exact hhead

/-- What is written of a number has no zero in front. -/
theorem canonical_natDigits (n : Nat) : Canonical n (natDigits n) where
  spells := spells_natDigits n
  ne_nil := natDigits_ne_nil n
  lead h := by
    rcases Nat.eq_zero_or_pos n with rfl | hn
    · rw [natDigits]
      rfl
    · exact absurd h (head_natDigits hn)

/-- A number below a power of ten has at most that many digits. -/
theorem length_natDigits_le {width : Nat} (hw : 0 < width) {n : Nat} (h : n < 10 ^ width) :
    (natDigits n).length ≤ width := by
  induction width generalizing n with
  | zero => cases hw
  | succ width ih =>
      rw [natDigits]
      split
      · exact hw
      · rw [List.length_append, List.length_singleton]
        have hdiv : n / 10 < 10 ^ width := by
          refine (Nat.div_lt_iff_lt_mul (by decide)).mpr ?_
          rwa [← Nat.pow_succ]
        refine Nat.succ_le_succ (ih (Nat.pos_of_ne_zero fun hzero => ?_) hdiv)
        rw [hzero] at hdiv
        omega

/-- Digits of a fixed width spell every number that fits. -/
theorem spells_fixedDigits (width : Nat) {n : Nat} (h : n < 10 ^ width) :
    Spells 0 (fixedDigits width n) n := by
  induction width generalizing n with
  | zero =>
      rw [Nat.lt_one_iff.mp h]
      exact .nil 0
  | succ width ih =>
      have hdiv : n / 10 < 10 ^ width := by
        refine (Nat.div_lt_iff_lt_mul (by decide)).mpr ?_
        rwa [← Nat.pow_succ]
      have happend := (ih hdiv).append (.digit (n / 10) (Nat.mod_lt n (by decide)))
      rwa [Nat.mul_comm, Nat.div_add_mod] at happend

theorem length_fixedDigits (width n : Nat) : (fixedDigits width n).length = width := by
  induction width generalizing n with
  | zero => rfl
  | succ width ih => rw [fixedDigits, List.length_append, ih, List.length_singleton]

/-! ### What is read -/

/-- Digits are read up to the first character that is none. -/
theorem spanDigits_of_spells {n m : Nat} {s rest : List Char} (h : Spells n s m)
    (hr : Stops rest) (count : Nat) :
    Decimal.spanDigits n count (s ++ rest) = (m, count + s.length, rest) := by
  induction h generalizing count with
  | nil n =>
      cases rest with
      | nil => rfl
      | cons c rest =>
          rw [List.nil_append, Decimal.spanDigits, hr c rfl]
          rfl
  | @cons n m d c s hd _ ih =>
      rw [List.cons_append, Decimal.spanDigits, hd]
      simp only [ih, List.length_cons]
      rw [Nat.add_assoc, Nat.add_comm 1]

/-- Digits that something else follows are read in one way. -/
theorem Spells.unique {n m m' : Nat} {s s' rest rest' : List Char} (h : Spells n s m)
    (h' : Spells n s' m') (hr : Stops rest) (hr' : Stops rest')
    (heq : s ++ rest = s' ++ rest') : m = m' ∧ rest = rest' := by
  have hread := spanDigits_of_spells h hr 0
  rw [heq, spanDigits_of_spells h' hr' 0, Prod.mk.injEq, Prod.mk.injEq] at hread
  exact ⟨hread.1.symm, hread.2.2.symm⟩

/-! ### Base sixteen -/

/-- A hexadecimal digit is read back. -/
theorem hexValue?_hexDigit {d : Nat} (h : d < 16) : hexValue? (hexDigit d) = some d := by
  have hall : ∀ d < 16, hexValue? (hexDigit d) = some d := by decide
  exact hall d h

/-- Hexadecimal digits of a fixed width are read back as the number modulo their range. -/
theorem hexNumber?_hexDigits (width n : Nat) :
    hexNumber? (hexDigits width n) = some (n % 16 ^ width) := by
  induction width generalizing n with
  | zero => rw [hexDigits, Nat.pow_zero, Nat.mod_one]; rfl
  | succ width ih =>
      have hdigit := hexValue?_hexDigit (Nat.mod_lt n (by decide : 16 > 0))
      have hread := ih (n / 16)
      rw [hexNumber?] at hread
      rw [hexDigits, hexNumber?, List.foldlM_append, hread]
      simp only [Option.bind_eq_bind, Option.bind_some, List.foldlM_cons, List.foldlM_nil, hdigit,
        Option.map_some, Option.pure_def]
      rw [Nat.pow_succ', Nat.mod_mul, Nat.mul_comm, Nat.add_comm]

theorem length_hexDigits (width n : Nat) : (hexDigits width n).length = width := by
  induction width generalizing n with
  | zero => rfl
  | succ width ih => rw [hexDigits, List.length_append, ih, List.length_singleton]

end Courier.Text
