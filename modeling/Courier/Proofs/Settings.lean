import Mathlib.Tactic.SplitIfs
import Courier.Proofs.Backoff
import Courier.Settings

/-!
# Proofs — Settings

What settings without a fault ensure: their backoff has a delay before every attempt
(`Settings.isSome_delay?_of_check`).  No delay has more milliseconds than 64 bits can count
(`Settings.millis_lt_of_delay?`).
-/

namespace Courier

namespace Settings

variable {s : Settings}

theorem fault?_of_check {t : Settings} (h : s.check = .ok t) : s.fault? = none := by
  rw [check] at h
  split at h
  · assumption
  · cases h

/-- The factor of settings without a fault is a number, and not below one. -/
theorem multiplier_of_check {t : Settings} (h : s.check = .ok t) :
    s.backoff.multiplier.isFinite = true ∧ s.backoff.multiplier.lt (.ofNat 1) = false := by
  have hmultiplier : ¬(¬s.backoffMultiplier.isFinite = true ∨
      s.backoffMultiplier.lt (.ofNat 1) = true) := by
    intro hfault
    have hnone := fault?_of_check h
    simp only [fault?, if_pos hfault] at hnone
    split_ifs at hnone
  rwa [not_or, Decidable.not_not, Bool.not_eq_true] at hmultiplier

theorem unsigned_multiplier_of_check {t : Settings} (h : s.check = .ok t) :
    s.backoff.multiplier.Unsigned := by
  have hmultiplier := (multiplier_of_check h).2
  rw [Double.ofNat_of_le (by decide)] at hmultiplier
  exact Double.unsigned_of_not_lt hmultiplier

/-- **Under settings without a fault there is a delay before every attempt.** -/
theorem isSome_delay?_of_check {t : Settings} (h : s.check = .ok t) (attempt : UInt32) :
    (s.pool.backoff.delay? attempt).isSome = true :=
  Backoff.isSome_delay? (unsigned_multiplier_of_check h) attempt

/-- A delay is no longer than the longest that can be set. -/
theorem millis_lt_of_delay? {attempt : UInt32} {delay : Span}
    (h : s.pool.backoff.delay? attempt = some delay) : delay.millis < 2 ^ 64 := by
  have hle : delay.nanos ≤ s.maxBackoffMs.toNat * 1000000 := Backoff.delay?_le_max h
  have hmax := s.maxBackoffMs.toNat_lt
  rw [Span.millis]
  omega

end Settings

end Courier
