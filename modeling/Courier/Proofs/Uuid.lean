import Courier.Proofs.Text.Digits
import Courier.Uuid

/-!
# Proofs — Uuid

The text of an identifier is read back as the identifier (`ofChars?_text`).
-/

namespace Courier.Uuid
open Text

/-- The five groups of 32 digits. -/
theorem exists_groups {s : List Char} (h : s.length = 32) :
    ∃ a b c d e : List Char, s = a ++ (b ++ (c ++ (d ++ e))) ∧
      (a.length = 8 ∧ b.length = 4 ∧ c.length = 4 ∧ d.length = 4 ∧ e.length = 12) := by
  refine ⟨s.take 8, (s.drop 8).take 4, (s.drop 12).take 4, (s.drop 16).take 4, s.drop 20, ?_, ?_⟩
  · have hcut : ∀ k n, (s.drop k).take n ++ s.drop (k + n) = s.drop k := by
      intro k n
      rw [← List.drop_drop, List.take_append_drop]
    rw [hcut 16 4, hcut 12 4, hcut 8 4, List.take_append_drop]
  · simp only [List.length_take, List.length_drop]
    omega

/-- Hyphens between the groups of 32 digits are passed over. -/
theorem ofGroups?_hyphenated {s : List Char} (h : s.length = 32) :
    ofGroups? (hyphenated s) = ofDigits? s := by
  obtain ⟨a, b, c, d, e, rfl, ha, hb, hc, hd, he⟩ := exists_groups h
  have hwritten : hyphenated (a ++ (b ++ (c ++ (d ++ e)))) =
      a ++ '-' :: (b ++ '-' :: (c ++ '-' :: (d ++ '-' :: e))) := by
    simp (disch := omega) [hyphenated, List.drop_append, List.drop_of_length_le, ha, hb, hc]
  rw [hwritten, ofGroups?, if_pos]
  · simp (disch := omega) [List.drop_append, List.drop_of_length_le, ha, hb, hc, hd]
  · simp [ha, hb, hc, hd, he]

theorem length_hyphenated {s : List Char} (h : s.length = 32) : (hyphenated s).length = 36 := by
  simp only [hyphenated, List.cons_append, List.append_assoc, List.length_append, List.length_cons,
    List.length_take, List.length_drop]
  omega

/-- The digits of an identifier are read back. -/
theorem ofDigits?_hexDigits (u : Uuid) : ofDigits? (hexDigits 32 u.bits.toNat) = some u := by
  have hlt : u.bits.toNat < 16 ^ 32 := u.bits.isLt
  rw [ofDigits?, if_pos (length_hexDigits 32 _), hexNumber?_hexDigits, Nat.mod_eq_of_lt hlt,
    Option.map_some, BitVec.ofNat_toNat, BitVec.setWidth_eq]

/-- **The text of an identifier is read back.** -/
theorem ofChars?_text (u : Uuid) : ofChars? u.text.toList = some u := by
  have hlength := length_hexDigits 32 u.bits.toNat
  have hwritten := length_hyphenated hlength
  rw [text, String.toList_ofList, ofChars?, if_neg (by omega), if_neg (by omega),
    if_neg (by omega), ofGroups?_hyphenated hlength, ofDigits?_hexDigits]

end Courier.Uuid
