import Courier.Number.Decimal
import Courier.Proofs.Text.Digits
import Courier.Text.Blank

/-!
# Proofs — Text — Reading

What is left of a text that is trimmed, and the numbers that are read from it.

* `trimmed_padded`: blanks around a text without blanks are all that is trimmed;
  `trimSlashes_append`: the same for slashes at an end.
* `Numeral`: a number in decimal, `readNat_numeral` and `readInt_numeral` how it is read.
* `solid_of_readDouble`: a text that is read as a double has no blanks.
-/

namespace Courier.Text

variable {n m most : Nat} {s : List Char}

/-- No blanks stand in the text. -/
def Solid (s : List Char) : Prop := ∀ c ∈ s, isBlank c = false

/-- Nothing but blanks stands in the text. -/
def Blanks (s : List Char) : Prop := ∀ c ∈ s, isBlank c = true

instance (s : List Char) : Decidable (Solid s) := List.decidableBAll _ s

instance (s : List Char) : Decidable (Blanks s) := List.decidableBAll _ s

/-! ### Trimming -/

/-- Leading blanks stop at a solid text. -/
theorem Solid.dropWhile (h : Solid s) (hs : s ≠ []) (rest : List Char) :
    (s ++ rest).dropWhile isBlank = s ++ rest := by
  cases s with
  | nil => exact absurd rfl hs
  | cons c s => exact dropBlanks_cons (h c List.mem_cons_self) _

/-- Blanks around a text without blanks are all that is trimmed. -/
theorem trimmed_padded {before after : List Char} (hbefore : Blanks before) (hs : Solid s)
    (hne : s ≠ []) (hafter : Blanks after) : trimmed (before ++ s ++ after) = s := by
  have hstart : dropBlanks (before ++ s ++ after) = s ++ after := by
    rw [dropBlanks, List.append_assoc, List.dropWhile_append_of_pos hbefore, hs.dropWhile hne]
  have hreverse : Solid s.reverse := fun c hc => hs c (List.mem_reverse.mp hc)
  have hend : dropBlanks (after.reverse ++ s.reverse) = s.reverse := by
    rw [dropBlanks, List.dropWhile_append_of_pos fun c hc => hafter c (List.mem_reverse.mp hc)]
    have hkeep := hreverse.dropWhile (List.reverse_ne_nil_iff.mpr hne) []
    rwa [List.append_nil] at hkeep
  rw [trimmed, hstart, List.reverse_append, hend, List.reverse_reverse]

/-- Slashes at the end of a text that ends with none are all that is dropped. -/
theorem trimSlashes_append {url : String} (h : url.toList.getLast? ≠ some '/') (slashes : Nat) :
    trimSlashes (url ++ String.ofList (List.replicate slashes '/')) = url := by
  have hslashes : ∀ c ∈ List.replicate slashes '/', (c == '/') = true := fun c hc =>
    beq_iff_eq.mpr (List.eq_of_mem_replicate hc)
  have hurl : url.toList.reverse.dropWhile (· == '/') = url.toList.reverse := by
    rw [← List.head?_reverse] at h
    cases hreverse : url.toList.reverse with
    | nil => rfl
    | cons c rest =>
        rw [hreverse] at h
        exact List.dropWhile_cons_of_neg fun hc => h (congrArg some (beq_iff_eq.mp hc))
  rw [trimSlashes, dropTrailing, String.toList_append, String.toList_ofList,
    List.reverse_append, List.reverse_replicate, List.dropWhile_append_of_pos hslashes, hurl,
    List.reverse_reverse, String.ofList_toList]

/-! ### Whole numbers -/

/-- The text is a number in decimal, which may have a plus sign. -/
inductive Numeral (n : Nat) : List Char → Prop where
  | digits {s : List Char} (hs : s ≠ []) (h : Spells 0 s n) : Numeral n s
  | plus {s : List Char} (hs : s ≠ []) (h : Spells 0 s n) : Numeral n ('+' :: s)

theorem Spells.solid (h : Spells n s m) : Solid s := by
  induction h with
  | nil => exact List.forall_mem_nil _
  | cons hd _ ih => exact List.forall_mem_cons.mpr ⟨isBlank_of_digit hd, ih⟩

theorem Spells.le (h : Spells n s m) : n ≤ m := by
  induction h with
  | nil => exact Nat.le_refl _
  | cons _ _ ih => omega

theorem Numeral.solid (h : Numeral n s) : Solid s := by
  cases h with
  | digits _ h => exact h.solid
  | plus _ h => exact List.forall_mem_cons.mpr ⟨by decide, h.solid⟩

theorem Numeral.ne_nil (h : Numeral n s) : s ≠ [] := by
  cases h with
  | digits hs _ => exact hs
  | plus _ _ => exact List.cons_ne_nil _ _

/-- Digits that stay within the largest value are read as the number they spell. -/
theorem digitsUpTo_of_spells {beyond : IntegerFault} (h : Spells n s m) (hm : m ≤ most) :
    digitsUpTo most beyond n s = .ok m := by
  induction h with
  | nil => rfl
  | cons hd hs ih =>
      rw [digitsUpTo, hd]
      exact (if_pos (hs.le.trans hm)).trans (ih hm)

/-- A number that is not beyond the largest is read from each of its numerals. -/
theorem readNat_numeral (h : Numeral n s) (hn : n ≤ most) : readNat most s = .ok n := by
  cases h with
  | digits hs h =>
      obtain ⟨c, d, t, rfl, hd⟩ := h.exists_cons hs
      have hplus : c ≠ '+' := by
        rintro rfl
        cases hd
      rw [readNat]
      · exact digitsUpTo_of_spells h hn
      all_goals simp [hplus]
  | plus hs h =>
      rw [readNat]
      · exact digitsUpTo_of_spells h hn
      · simpa using hs

/-- A numeral within the bounds is read as its number. -/
theorem readInt_numeral {least most : Int} (h : Numeral n s) (hn : (n : Int) ≤ most) :
    readInt least most s = .ok n := by
  have hmost : n ≤ most.toNat := by omega
  cases h with
  | digits hs h =>
      obtain ⟨c, d, t, rfl, hd⟩ := h.exists_cons hs
      have hsign : c ≠ '+' ∧ c ≠ '-' := by
        constructor <;> (rintro rfl; cases hd)
      rw [readInt]
      · rw [digitsUpTo_of_spells h hmost]
        rfl
      all_goals simp [hsign]
  | plus hs h =>
      rw [readInt]
      · rw [digitsUpTo_of_spells h hmost]
        rfl
      · simpa using hs

/-! ### Doubles -/

theorem solid_cons {c : Char} (hc : isBlank c = false) (h : Solid s) : Solid (c :: s) :=
  List.forall_mem_cons.mpr ⟨hc, h⟩

/-- What is read as digits has no blanks. -/
theorem exists_solid_of_spanDigits {n count m k : Nat} {s rest : List Char}
    (h : Decimal.spanDigits n count s = (m, k, rest)) : ∃ t, Solid t ∧ s = t ++ rest := by
  induction s generalizing n count with
  | nil =>
      rw [Decimal.spanDigits] at h
      cases h
      exact ⟨[], List.forall_mem_nil _, rfl⟩
  | cons c s ih =>
      rw [Decimal.spanDigits] at h
      cases hd : digitValue? c with
      | none =>
          rw [hd] at h
          cases h
          exact ⟨[], List.forall_mem_nil _, rfl⟩
      | some d =>
          rw [hd] at h
          obtain ⟨t, ht, rfl⟩ := ih h
          exact ⟨c :: t, solid_cons (isBlank_of_digit hd) ht, rfl⟩

/-- The digits taken from a text are solid, so it is if the rest is. -/
theorem solid_of_spanDigits {n count m k : Nat} {s rest : List Char}
    (h : Decimal.spanDigits n count s = (m, k, rest)) (hrest : Solid rest) : Solid s := by
  obtain ⟨t, ht, rfl⟩ := exists_solid_of_spanDigits h
  exact List.forall_mem_append.mpr ⟨ht, hrest⟩

theorem solid_of_exponent? {e : Int} (h : Decimal.exponent? s = some e) : Solid s := by
  have hdigits : ∀ {t : List Char} {n k : Nat}, Decimal.spanDigits 0 0 t = (n, k, []) → Solid t :=
    fun h => solid_of_spanDigits h (List.forall_mem_nil _)
  unfold Decimal.exponent? at h
  split at h
  · cases h
  · split at h
    · next hspan => exact solid_cons (by decide) (hdigits hspan)
    · cases h
  · split at h
    · next hspan => exact solid_cons (by decide) (hdigits hspan)
    · cases h
  · split at h
    · next hspan => exact hdigits hspan
    · cases h

/-- A decimal has no blanks: neither its digits nor the exponent that may follow them. -/
theorem solid_of_decimal? {negative : Bool} {d : Decimal}
    (h : Decimal.ofUnsigned? negative s = some d) : Solid s := by
  unfold Decimal.ofUnsigned? at h
  generalize hwhole : Decimal.spanDigits 0 0 s = first at h
  obtain ⟨whole, wholeCount, rest⟩ := first
  refine solid_of_spanDigits hwhole ?_
  dsimp only at h
  split at h
  case' h_1 rest =>
    -- the point, and the digits after it
    generalize hplaces : Decimal.spanDigits whole 0 rest = second at h
    obtain ⟨digits, places, rest'⟩ := second
    refine solid_cons (by decide) (solid_of_spanDigits hplaces ?_)
  all_goals
    dsimp only at h
    split at h
    · cases h
    · split at h
      · exact List.forall_mem_nil _
      · split at h
        · next hc =>
          obtain ⟨e, he, -⟩ := Option.map_eq_some_iff.mp h
          refine solid_cons ?_ (solid_of_exponent? he)
          rcases hc with rfl | rfl <;> decide
        · cases h

/-- Blanks have no case. -/
theorem toLower_of_isBlank {c : Char} (h : isBlank c = true) : c.toLower = c := by
  refine dif_neg fun hcapital => ?_
  have hlow : 65 ≤ c.toNat := hcapital.1
  have hhigh : c.toNat ≤ 90 := hcapital.2
  simp only [isBlank, Bool.or_eq_true, Bool.and_eq_true, decide_eq_true_eq, beq_iff_eq] at h
  omega

theorem solid_of_map_toLower (h : Solid (s.map Char.toLower)) : Solid s := by
  intro c hc
  refine Bool.eq_false_iff.mpr fun hblank => ?_
  have hmem := List.mem_map_of_mem (f := Char.toLower) hc
  rw [toLower_of_isBlank hblank] at hmem
  exact Bool.noConfusion ((h c hmem).symm.trans hblank)

/-- A text that reads as a double has no blank in it. -/
theorem solid_of_ofUnsigned? {negative : Bool} {v : Double}
    (h : Double.ofUnsigned? negative s = some v) : Solid s := by
  have hname : ∀ name : String, Solid name.toList →
      String.ofList (s.map Char.toLower) = name → Solid s := by
    rintro name hsolid rfl
    rw [String.toList_ofList] at hsolid
    exact solid_of_map_toLower hsolid
  unfold Double.ofUnsigned? at h
  dsimp only at h
  split at h
  · next hinfinite =>
    rcases hinfinite with hinf | hinfinity
    · exact hname "inf" (by decide) hinf
    · exact hname "infinity" (by decide) hinfinity
  · split at h
    · next hnan => exact hname "nan" (by decide) hnan
    · obtain ⟨d, hd, -⟩ := Option.map_eq_some_iff.mp h
      exact solid_of_decimal? hd

/-- A text that is read as a double has no blanks. -/
theorem solid_of_readDouble {v : Double} (h : Double.read? s = some v) : Solid s := by
  unfold Double.read? at h
  split at h
  · exact solid_cons (by decide) (solid_of_ofUnsigned? h)
  · exact solid_cons (by decide) (solid_of_ofUnsigned? h)
  · exact solid_of_ofUnsigned? h

theorem ne_nil_of_readDouble {v : Double} (h : Double.read? s = some v) : s ≠ [] := by
  rintro rfl
  cases h

end Courier.Text
