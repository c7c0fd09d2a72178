import Mathlib.Algebra.Order.Ring.Int
import Courier.Time.Instant

/-!
# Proofs — Time — Instant

Instants are ordered by their seconds and then by their nanoseconds.  A shift by nothing leads
nowhere, one forwards does not lead back (`le_of_shift?`) and one backwards does
(`not_le_of_shift?`), and one by 2^63 milliseconds or more, either way, leads off the calendar
(`shift?_eq_none_of_le`).
-/

namespace Courier.Instant

variable {a b c t t' : Instant}

theorem le_iff : a.le b = true ↔ a.second < b.second ∨ a.second = b.second ∧ a.nano ≤ b.nano := by
  simp [le]

@[simp] theorem le_refl (a : Instant) : a.le a = true := le_iff.mpr (.inr ⟨rfl, Nat.le_refl _⟩)

theorem le_trans (h : a.le b = true) (h' : b.le c = true) : a.le c = true := by
  rw [le_iff] at h h' ⊢
  omega

theorem le_total (a b : Instant) : a.le b = true ∨ b.le a = true := by
  rw [le_iff, le_iff]
  omega

/-- What is not later is earlier, or the same. -/
theorem lt_or_eq_of_le (h : a.le b = true) : a.lt b = true ∨ a = b := by
  obtain ⟨second, nano, valid⟩ := a
  obtain ⟨second', nano', valid'⟩ := b
  simp only [lt, Bool.or_eq_true, Bool.and_eq_true, beq_iff_eq, decide_eq_true_iff,
    mk.injEq] at h ⊢
  rw [le_iff] at h
  simp only at h
  omega

@[simp] theorem of?_self (t : Instant) : of? t.second t.nano = some t := dif_pos t.valid

@[simp] theorem shift?_zero (t : Instant) : t.shift? 0 = some t := by
  by_cases h : t.nano < nanosPerSecond
  · have hnano : (t.nano : Int) < nanosPerSecond := Int.ofNat_lt.mpr h
    have hadvance : advance t.second t.nano 0 = (t.second, t.nano) := by
      rw [advance, Int.add_zero, Int.ediv_eq_zero_of_lt (Int.natCast_nonneg _) hnano,
        Int.emod_eq_of_lt (Int.natCast_nonneg _) hnano, Int.add_zero, Int.toNat_natCast]
    rw [shift?, if_pos h, hadvance]
    exact t.of?_self
  · -- within a leap second, a shift that does not leave it
    rw [shift?, if_neg h]
    simp

/-- An instant is built exactly from its own second and nanosecond. -/
theorem of?_eq_some_iff {second : Int} {nano : Nat} :
    of? second nano = some t ↔ t.second = second ∧ t.nano = nano := by
  constructor
  · intro h
    rw [of?] at h
    split at h
    · rw [← Option.some.inj h]
      exact ⟨rfl, rfl⟩
    · cases h
  · rintro ⟨rfl, rfl⟩
    exact t.of?_self

/-- A shift forwards does not lead back. -/
theorem le_of_shift? {nanos : Int} (h : t.shift? nanos = some t') (hn : 0 ≤ nanos) :
    t.le t' = true := by
  rw [le_iff]
  simp only [shift?, advance, Int.tmod_eq_emod_of_nonneg hn, Int.tdiv_eq_ediv_of_nonneg hn,
    nanosPerSecond] at h
  split at h
  · obtain ⟨hs, hnano⟩ := of?_eq_some_iff.mp h
    omega
  · split at h
    · obtain ⟨hs, hnano⟩ := of?_eq_some_iff.mp h
      omega
    · split at h
      · omega
      · obtain ⟨hs, hnano⟩ := of?_eq_some_iff.mp h
        omega

/-- A shift backwards does not lead to where it started, or after. -/
theorem not_le_of_shift? {nanos : Int} (h : t.shift? nanos = some t') (hn : nanos < 0) :
    ¬t.le t' = true := by
  rw [le_iff]
  -- division towards zero is that of the amount
  obtain ⟨amount, rfl⟩ : ∃ amount, nanos = -amount := ⟨-nanos, (Int.neg_neg nanos).symm⟩
  have hamount : 0 ≤ amount := by omega
  have hvalid := t.valid.2
  simp only [nanosPerSecond] at hvalid
  simp only [shift?, advance, Int.neg_tmod, Int.neg_tdiv, Int.tmod_eq_emod_of_nonneg hamount,
    Int.tdiv_eq_ediv_of_nonneg hamount, nanosPerSecond] at h
  split at h
  · obtain ⟨hs, hnano⟩ := of?_eq_some_iff.mp h
    omega
  · split at h
    · omega
    · split at h
      · obtain ⟨hs, hnano⟩ := of?_eq_some_iff.mp h
        omega
      · obtain ⟨hs, hnano⟩ := of?_eq_some_iff.mp h
        omega

/-- A shift changes the seconds by as much as it says, but for two of them. -/
theorem second_near_of_shift? {nanos : Int} (h : t.shift? nanos = some t') :
    nanos ≤ (t'.second - t.second + 2) * nanosPerSecond ∧
      (t'.second - t.second - 2) * nanosPerSecond ≤ nanos := by
  have hvalid := t.valid.2
  simp only [nanosPerSecond] at hvalid
  have hdiv : nanos.tdiv nanosPerSecond * nanosPerSecond + nanos.tmod nanosPerSecond = nanos :=
    Int.tdiv_mul_add_tmod nanos nanosPerSecond
  have hlt : nanos.tmod nanosPerSecond < nanosPerSecond := Int.tmod_lt_of_pos nanos (by decide)
  have hgt : -(nanosPerSecond : Int) < nanos.tmod nanosPerSecond :=
    Int.lt_tmod_of_pos nanos (by decide)
  -- the whole seconds and the rest count only where a leap second is left or moved along
  rw [shift?] at h
  by_cases hleap : t.nano < nanosPerSecond
  · rw [if_pos hleap] at h
    obtain ⟨hs, -⟩ := of?_eq_some_iff.mp h
    simp only [nanosPerSecond] at hs hleap ⊢
    omega
  · rw [if_neg hleap] at h
    generalize nanos.tdiv nanosPerSecond = whole at h hdiv
    generalize nanos.tmod nanosPerSecond = part at h hdiv hlt hgt
    simp only [nanosPerSecond] at hleap hdiv hlt hgt ⊢
    dsimp only at h
    split at h
    · obtain ⟨hs, -⟩ := of?_eq_some_iff.mp h
      simp only [advance, nanosPerSecond] at hs
      omega
    · split at h
      · obtain ⟨hs, -⟩ := of?_eq_some_iff.mp h
        simp only [advance, nanosPerSecond] at hs
        omega
      · obtain ⟨hs, -⟩ := of?_eq_some_iff.mp h
        omega

/-- Nothing is that far off: the years begin after and end before. -/
theorem shift?_eq_none_of_le {nanos : Int} (hn : 2 ^ 63 * 1000000 ≤ nanos.natAbs) :
    t.shift? nanos = none := by
  have hmin : Time.minSecond = -8334601228800 := by decide
  have hmax : Time.maxSecond = 8210266876799 := by decide
  have ht := t.valid.1
  rw [Option.eq_none_iff_forall_ne_some]
  intro t' h
  have ht' := t'.valid.1
  have hnear := second_near_of_shift? h
  rw [hmin, hmax] at ht ht'
  simp only [nanosPerSecond] at hnear
  omega
end Courier.Instant
