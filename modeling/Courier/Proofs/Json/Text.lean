import Courier.Json.Parser
import Courier.Json.Printer
import Courier.Proofs.Number.Double
import Courier.Proofs.Text.Digits

/-!
# Proofs — Json — Text

The parts of a text: a string in quotes is read back as the string (`string?_quoted`), a whole number
of 64 bits as an integer (`number?_natDigits`), where something follows that closes it (`Closes`).
-/

namespace Courier.Json
open Text

variable {n depth fuel : Nat} {s rest : List Char}

/-! ### Strings -/

theorem skipBlanks_cons {c : Char} (h : ¬(c = ' ' ∨ c = '\t' ∨ c = '\n' ∨ c = '\r'))
    (s : List Char) : skipBlanks (c :: s) = c :: s := by
  rw [skipBlanks, if_neg h]

/-- An escape for a control character. -/
theorem unicodeEscape?_hexDigits (h : n < 0x20) :
    unicodeEscape? (hexDigits 4 n ++ rest) = some (Char.ofNat n, rest) := by
  have hunit : hexUnit? (hexDigits 4 n ++ rest) = some (n, rest) := by
    have hnumber := hexNumber?_hexDigits 4 n
    rw [Nat.mod_eq_of_lt (by omega)] at hnumber
    simp only [hexDigits, List.nil_append, List.cons_append] at hnumber ⊢
    rw [hexUnit?, hnumber, Option.map_some]
  rw [unicodeEscape?, hunit]
  simp only
  rw [if_neg (by omega), if_neg (by omega)]

/-- A backslash and a letter. -/
theorem stringBody?_short {d c : Char} (hd : d ≠ 'u') (h : shortEscape? d = some c)
    (read s : List Char) :
    stringBody? (fuel + 1) read ('\\' :: d :: s) = stringBody? fuel (c :: read) s := by
  rw [stringBody?, if_neg (by decide), if_neg (by decide), if_pos rfl, h]
  exact hd

/-- What stands for a character in a string is read as the character. -/
theorem stringBody?_escapeChar (c : Char) (read s : List Char) :
    stringBody? (fuel + 1) read (escapeChar c ++ s) = stringBody? fuel (c :: read) s := by
  unfold escapeChar
  by_cases hquote : c = quoteMark
  · subst hquote
    exact stringBody?_short (by decide) rfl read s
  by_cases hslash : c = '\\'
  · subst hslash
    exact stringBody?_short (by decide) rfl read s
  by_cases hline : c = '\n'
  · subst hline
    exact stringBody?_short (by decide) rfl read s
  by_cases hreturn : c = '\r'
  · subst hreturn
    exact stringBody?_short (by decide) rfl read s
  by_cases htab : c = '\t'
  · subst htab
    exact stringBody?_short (by decide) rfl read s
  by_cases hback : c = '\x08'
  · subst hback
    exact stringBody?_short (by decide) rfl read s
  by_cases hfeed : c = '\x0C'
  · subst hfeed
    exact stringBody?_short (by decide) rfl read s
  rw [if_neg hquote, if_neg hslash, if_neg hline, if_neg hreturn, if_neg htab, if_neg hback,
    if_neg hfeed]
  by_cases hcontrol : c.toNat < 0x20
  · rw [if_pos hcontrol, List.append_assoc]
    show stringBody? (fuel + 1) read ('\\' :: 'u' :: (hexDigits 4 c.toNat ++ s)) = _
    rw [stringBody?, if_neg (by decide), if_neg (by decide), if_pos rfl]
    simp only [unicodeEscape?_hexDigits hcontrol, Char.ofNat_toNat]
  · rw [if_neg hcontrol, List.singleton_append]
    simp only [stringBody?, if_neg hquote, if_neg hcontrol, if_neg hslash]

/-- The characters of a string are read back up to its closing quote. -/
theorem stringBody?_quoted (cs read : List Char) (hf : cs.length < fuel) :
    stringBody? fuel read (cs.flatMap escapeChar ++ quoteMark :: rest) =
      some (cs.reverse ++ read, rest) := by
  induction cs generalizing fuel read with
  | nil =>
      cases fuel with
      | zero => cases hf
      | succ fuel =>
          rw [List.flatMap_nil, List.nil_append]
          simp only [stringBody?, if_true]
          rfl
  | cons c cs ih =>
      cases fuel with
      | zero => cases hf
      | succ fuel =>
          rw [List.flatMap_cons, List.append_assoc, stringBody?_escapeChar,
            ih (c :: read) (Nat.lt_of_succ_lt_succ hf), List.reverse_cons, List.append_assoc]
          rfl

/-- No character is escaped by nothing. -/
theorem length_le_flatMap (cs : List Char) : cs.length ≤ (cs.flatMap escapeChar).length := by
  have hone : ∀ c, 1 ≤ (escapeChar c).length := by
    intro c
    unfold escapeChar
    repeat' split
    all_goals simp
  induction cs with
  | nil => exact Nat.le_refl 0
  | cons c cs ih =>
      rw [List.flatMap_cons, List.length_append, List.length_cons]
      have := hone c
      omega

/-- **A string in quotes is read back.** -/
theorem string?_quoted (s : String) (rest : List Char) :
    string? (s.toList.flatMap escapeChar ++ quoteMark :: rest) = some (s, rest) := by
  have hlength := length_le_flatMap s.toList
  rw [string?, stringBody?_quoted _ _ (by rw [List.length_append]; omega), Option.map_some]
  simp only [List.append_nil, List.reverse_reverse, String.ofList_toList]

/-! ### Numbers -/

/-- What may follow a value: the end, a comma or a closing bracket. -/
def Closes (s : List Char) : Prop := ∀ c ∈ s.head?, c = ',' ∨ c = ']' ∨ c = '\x7d'

theorem closes_nil : Closes [] := nofun

theorem closes_cons {c : Char} (h : c = ',' ∨ c = ']' ∨ c = '\x7d') (s : List Char) :
    Closes (c :: s) := by
  intro d hd
  rwa [← Option.some.inj hd]

/-- What closes a value is no digit. -/
theorem Closes.stops (h : Closes rest) : Stops rest := by
  intro c hc
  rcases h c hc with rfl | rfl | rfl <;> rfl

/-- A whole number of 64 bits is far from infinite. -/
theorem isFinite_toDouble {negative : Bool} (h : n < 2 ^ 64) :
    (Decimal.toDouble ⟨negative, n, 0⟩).isFinite = true := by
  have hlength : (natDigits n).length ≤ 20 :=
    length_natDigits_le (by decide) (h.trans (by decide))
  have hgrid : Double.OnGrid (2 ^ 64 * Double.one) := by
    obtain ⟨e, -, hone⟩ := Double.exists_one_eq
    rw [hone, ← Nat.pow_add, ← Nat.one_mul (2 ^ (64 + e))]
    exact Double.onGrid_mul_pow (by decide) _
  have hnearest : Double.nearest (n * Nat.pow 10 0 * Double.one) 1 ≤ 2 ^ 64 * Double.one := by
    refine Double.nearest_le hgrid Nat.one_pos ?_
    rw [Nat.pow_eq, Nat.pow_zero, Nat.mul_one, Nat.mul_one]
    exact Nat.mul_le_mul_right _ h.le
  -- with 20 digits at most it is not refused by its length, and then it is rounded to 2^64 at most
  simp only [Decimal.toDouble]
  split
  · rfl
  · rw [if_neg (by omega), if_neg (by omega), if_pos (Int.le_refl 0), Int.toNat_zero,
      Double.ofQuotient_of_lt (Double.lt_limit hnearest)]
    rfl

/-- The whole part of a number ends with its digits. -/
theorem wholePart?_natDigits (n : Nat) (hr : Closes rest) :
    wholePart? (natDigits n ++ rest) = some (n, rest) := by
  -- a zero stands alone, and any other number starts with another digit
  rcases Nat.eq_zero_or_pos n with rfl | hn
  · have hzero : natDigits 0 = ['0'] := by rw [natDigits]; rfl
    rw [hzero, List.singleton_append]
    cases rest with
    | nil => rfl
    | cons c rest =>
        show (if (digitValue? c).isSome then none else some (0, c :: rest)) = _
        rw [hr.stops c rfl]
        rfl
  · have hspan := spanDigits_of_spells (spells_natDigits n) hr.stops 0
    have hhead := head_natDigits hn
    have hcount : (natDigits n).length ≠ 0 := mt List.length_eq_zero_iff.mp (natDigits_ne_nil n)
    obtain ⟨c, t, hdigits⟩ := List.exists_cons_of_ne_nil (natDigits_ne_nil n)
    rw [hdigits] at hspan hhead hcount ⊢
    rw [List.cons_append] at hspan ⊢
    rw [wholePart?]
    · rw [hspan]
      simp only [Nat.zero_add, if_neg hcount]
    · intro t' heq
      rw [(List.cons.inj heq).1] at hhead
      exact hhead rfl

/-- A whole number is read as an integer. -/
theorem number?_natDigits (negative : Bool) (hn : n < 2 ^ 64) (hz : negative = true → n ≠ 0)
    (hr : Closes rest) :
    number? negative (natDigits n ++ rest) =
      some (integer (if negative then -(n : Int) else n), rest) := by
  have hfraction : fraction? n rest = some (none, n, rest) := by
    rw [fraction?]
    rintro t rfl
    rcases hr '.' rfl with h | h | h <;> cases h
  have hexponent : exponentPart? rest = some (none, rest) := by
    cases rest with
    | nil => rfl
    | cons c rest =>
        refine if_neg ?_
        rintro (rfl | rfl)
        · rcases hr 'e' rfl with h | h | h <;> cases h
        · rcases hr 'E' rfl with h | h | h <;> cases h
  have hinteger : (none : Option Nat).isNone = true ∧ (none : Option Int).isNone = true ∧
      ¬(negative = true ∧ n = 0) := ⟨rfl, rfl, fun h => hz h.1 h.2⟩
  simp only [number?, wholePart?_natDigits n hr, hfraction, hexponent, Option.getD_none]
  rw [if_neg, if_pos hinteger]
  exact not_not.mpr (isFinite_toDouble hn)

end Courier.Json
