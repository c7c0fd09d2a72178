import Courier.Backoff
import Courier.Proofs.Number.Bounds

/-!
# Proofs — Backoff

A backoff whose factor is not negative always has a delay.  The only product that `Backoff.delay?`
refuses is one below zero, and a product of values that are not below zero is none
(`Double.Unsigned`).

No delay is longer than the longest (`Backoff.delay?_le_max`), though both the product and the longest
delay are rounded before they are compared: what is half a nanosecond longer is a greater value
(`Span.seconds_le`).  For the same reason a product that is below the longest delay is a number of
seconds that fits into 64 bits (`Backoff.fits_product`).
-/

namespace Courier

/-- A span is not below zero in seconds. -/
theorem Span.unsigned_seconds (s : Span) : s.seconds.Unsigned := by
  unfold Span.seconds
  exact (Double.unsigned_ofNat _).add ((Double.unsigned_ofNat _).divNat _)

/-! ### The longest delay -/

namespace Span
open Double

/-- The seconds of a part of a second are off by less than half a nanosecond. -/
theorem two_mul_nearest_nanos_le {r : Nat} (h : r < nanosPerSecond) :
    2 * (nearest (nearest (r * one) 1) nanosPerSecond * nanosPerSecond) ≤ (2 * r + 1) * one := by
  have hn : nanosPerSecond = 1000000000 := rfl
  have hexact : nearest (r * one) 1 ≤ r * one := nearest_le_self (onGrid_mul_one (by omega))
  generalize nearest (r * one) 1 = n at hexact
  have hlt : n / nanosPerSecond < one := by
    refine (Nat.div_lt_iff_lt_mul (by omega)).mpr (hexact.trans_lt ?_)
    rw [Nat.mul_comm one]
    exact Nat.mul_lt_mul_of_pos_right h Double.one_pos
  have hspacing : nanosPerSecond * spacing (n / nanosPerSecond) ≤ one :=
    (Nat.mul_le_mul_right _ (by omega)).trans (spacing_of_lt_one hlt)
  have herr := two_mul_nearest_le n nanosPerSecond
  rw [Nat.add_mul, Nat.one_mul, Nat.mul_assoc]
  omega

/-- The part of a second that a span has in its seconds: less than one, and off by less than half a
nanosecond. -/
theorem exists_part {r : Nat} (h : r < nanosPerSecond) :
    ∃ part, (ofNat r).divNat nanosPerSecond = .finite false part ∧ part < one ∧
      2 * (part * nanosPerSecond) ≤ (2 * r + 1) * one := by
  have hn : nanosPerSecond = 1000000000 := rfl
  have hone := Double.one_pos
  have hpart := two_mul_nearest_nanos_le h
  have hlt : nearest (nearest (r * one) 1) nanosPerSecond < one := by
    have hbound : (2 * r + 1) * one < 2 * nanosPerSecond * one :=
      Nat.mul_lt_mul_of_pos_right (by omega) hone
    refine Nat.lt_of_mul_lt_mul_right (a := 2 * nanosPerSecond) ?_
    rw [Nat.mul_comm one, Nat.mul_left_comm]
    exact hpart.trans_lt hbound
  refine ⟨_, ?_, hlt, hpart⟩
  have hwhole : nearest (r * one) 1 ≤ r * one := nearest_le_self (onGrid_mul_one (by omega))
  rw [ofNat, ofQuotient_of_lt (lt_limit (hwhole.trans (Nat.mul_le_mul_right one (by omega)))),
    divNat, ofQuotient_of_lt (lt_limit (hlt.le.trans (Nat.le_mul_of_pos_left one (by omega))))]

/-- **A value that is half a nanosecond above a span is not below its seconds.** -/
theorem seconds_le {s : Span} {u : Nat} (hu : OnGrid u) (hl : u < limit)
    (h : (2 * s.nanos + 1) * one ≤ 2 * (u * nanosPerSecond)) :
    s.seconds.le (.finite false u) = true := by
  have hn : nanosPerSecond = 1000000000 := rfl
  have hsum := Nat.div_add_mod s.nanos nanosPerSecond
  obtain ⟨part, hpart, hlt, herr⟩ := exists_part (Nat.mod_lt s.nanos (by omega : nanosPerSecond > 0))
  rw [seconds, hpart]
  generalize s.nanos / nanosPerSecond = q at hsum ⊢
  generalize s.nanos % nanosPerSecond = r at hsum herr
  have htotal : 2 * (q * one * nanosPerSecond) + (2 * r + 1) * one ≤ 2 * (u * nanosPerSecond) := by
    refine (Nat.le_of_eq ?_).trans h
    rw [← hsum]
    ring
  have hwhole : q * one ≤ u := by
    refine Nat.le_of_mul_le_mul_right (c := nanosPerSecond) ?_ (by omega)
    omega
  have hle : nearest (q * one) 1 ≤ u := nearest_le hu Nat.one_pos (by omega)
  have hround : nearest (nearest (q * one) 1 + part) 1 ≤ u := by
    refine nearest_le_of_lt hu ?_
    by_cases hq : q ≤ 2 ^ 53
    · -- the whole seconds are exact
      have hexact : nearest (q * one) 1 ≤ q * one := nearest_le_self (onGrid_mul_one hq)
      have hfits : nearest (q * one) 1 + part ≤ u := by
        refine Nat.le_of_mul_le_mul_right (c := nanosPerSecond) ?_ (by omega)
        have := Nat.mul_le_mul_right nanosPerSecond hexact
        rw [Nat.add_mul]
        omega
      have := spacing_pos u
      omega
    · -- the part of a second is less than half the way to the next value
      have hspacing : 2 * one ≤ spacing u :=
        le_spacing ((Nat.mul_le_mul_right one (by omega)).trans hwhole)
      omega
  rw [ofNat, ofQuotient_of_lt (hle.trans_lt hl)]
  refine Double.add_le ?_ hl
  exact hround

/-- A finite number of seconds that is not below zero, and whose whole seconds 64 bits can hold. -/
inductive Fits : Double → Prop where
  | finite {negative : Bool} {units : Nat} (hsign : negative = true → units = 0)
      (hsize : units < 2 ^ 64 * one) : Fits (.finite negative units)

/-- A number of units is rounded to the nearest nanosecond. -/
theorem nanos_ofUnits (u : Nat) :
    (ofUnits u).nanos = roundHalfEven (u * nanosPerSecond) one := by
  simp only [ofUnits]

/-- What is below the seconds of a span comes to no longer span. -/
theorem nanos_ofUnits_le {s : Span} {u : Nat} (hu : OnGrid u) (hl : u < limit)
    (h : ¬s.seconds.le (.finite false u) = true) : (ofUnits u).nanos ≤ s.nanos := by
  rw [nanos_ofUnits]
  exact roundHalfEven_le (Nat.not_le.mp fun hle => h (seconds_le hu hl hle))

end Span

namespace Backoff
open Double

/-- The product of a delay is a double. -/
theorem onGrid_product (b : Backoff) (attempt : UInt32) (negative : Bool) (u : Nat)
    (h : b.product attempt = .finite negative u) : OnGrid u ∧ u < limit :=
  onGrid_mul h

/-- **No delay is longer than the longest.** -/
theorem delay?_le_max {b : Backoff} {attempt : UInt32} {delay : Span}
    (h : b.delay? attempt = some delay) : delay.nanos ≤ b.max.nanos := by
  unfold delay? at h
  have hgrid := b.onGrid_product attempt
  generalize b.product attempt = p at h hgrid
  cases p with
  | nan =>
      rw [← Option.some.inj h]
  | infinite negative =>
      rw [← Option.some.inj h]
  | finite negative u =>
      obtain ⟨hu, hl⟩ := hgrid negative u rfl
      by_cases hless : b.max.seconds.le (.finite negative u) = true
      · rw [if_neg fun hp => hp.2 hless] at h
        rw [← Option.some.inj h]
      · rw [if_pos ⟨rfl, hless⟩] at h
        dsimp only at h
        by_cases hsign : negative = true ∧ u ≠ 0
        · rw [if_pos hsign] at h
          cases h
        · rw [if_neg hsign] at h
          rw [← Option.some.inj h]
          cases negative with
          | false => exact Span.nanos_ofUnits_le hu hl hless
          | true =>
              have hzero : u = 0 := by simpa using hsign
              rw [hzero, Span.nanos_ofUnits, Nat.zero_mul, roundHalfEven_zero]
              exact Nat.zero_le _

/-- With a factor that is not below zero, no product is. -/
theorem unsigned_product {b : Backoff} (h : b.multiplier.Unsigned) (attempt : UInt32) :
    (b.product attempt).Unsigned :=
  b.initial.unsigned_seconds.mul (h.power _)

/-- **A backoff whose factor is not negative has a delay before every attempt.** -/
theorem isSome_delay? {b : Backoff} (h : b.multiplier.Unsigned) (attempt : UInt32) :
    (b.delay? attempt).isSome = true := by
  have hproduct := unsigned_product h attempt
  unfold delay?
  generalize b.product attempt = p at hproduct
  cases hproduct with
  | nan => rfl
  | infinite => rfl
  | @finite negative units hzero =>
      simp only
      split
      · rw [if_neg fun hneg => hneg.2 (hzero hneg.1)]
        rfl
      · rfl

/-- A product below a longest delay of 64 bits of seconds fits as well. -/
theorem fits_product {b : Backoff} (h : b.multiplier.Unsigned) {attempt : UInt32}
    (hmax : b.max.nanos < 2 ^ 64 * nanosPerSecond) (hfinite : (b.product attempt).isFinite = true)
    (hless : ¬b.max.seconds.le (b.product attempt) = true) : Span.Fits (b.product attempt) := by
  have hunsigned := unsigned_product h attempt
  have hgrid := b.onGrid_product attempt
  generalize b.product attempt = p at hfinite hless hunsigned hgrid
  cases hunsigned with
  | nan => cases hfinite
  | infinite => cases hfinite
  | @finite negative u hsign =>
      obtain ⟨hu, hl⟩ := hgrid negative u rfl
      refine .finite hsign (Nat.lt_of_not_le fun hlarge => ?_)
      cases negative with
      | true =>
          have hone := Double.one_pos
          rw [hsign rfl] at hlarge
          omega
      | false =>
          refine hless (Span.seconds_le hu hl ?_)
          calc (2 * b.max.nanos + 1) * one ≤ 2 * (2 ^ 64 * nanosPerSecond) * one :=
                Nat.mul_le_mul_right one (by omega)
            _ = 2 * (2 ^ 64 * one * nanosPerSecond) := by ring
            _ ≤ 2 * (u * nanosPerSecond) :=
                Nat.mul_le_mul_left 2 (Nat.mul_le_mul_right nanosPerSecond hlarge)

end Backoff

end Courier
