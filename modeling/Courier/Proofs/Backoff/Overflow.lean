import Courier.Proofs.Backoff.Growth
import Courier.Proofs.Settings

/-!
# Proofs — Backoff — Overflow

Delays whose factor has a power that may be infinite.  An infinite power of any delay is limited to
the longest; but zero times infinity is not a number, and so limited as well.

* `delay_within_longest`: there is a delay, and it is not longer than the longest, whatever the
  power.
* `delay_without_initial`: the delay of a backoff that starts with none is none as long as the power
  is finite, and then the longest.
-/

namespace Courier

open Double

namespace Span

theorem nanosPerSecond_le_one : nanosPerSecond ≤ one := by
  obtain ⟨e, he, hone⟩ := exists_one_eq
  rw [hone]
  exact (by decide : nanosPerSecond ≤ 2 ^ 30).trans (Nat.pow_le_pow_right Nat.two_pos (by omega))

/-- Only no time at all is no seconds. -/
theorem nanos_eq_zero_of_le {s : Span} (h : s.seconds.le (.finite false 0) = true) :
    s.nanos = 0 := by
  refine Nat.eq_zero_of_not_pos fun hpos => ?_
  have hsome : 0 < min (s.nanos / nanosPerSecond) 1 * one + min (s.nanos % nanosPerSecond) 1 := by
    have hone := Double.one_pos
    have hsplit := Nat.div_add_mod s.nanos nanosPerSecond
    rcases Nat.eq_zero_or_pos (s.nanos / nanosPerSecond) with hq | hq
    · rw [hq, Nat.mul_zero] at hsplit
      omega
    · rw [Nat.min_eq_right hq]
      omega
  have hseconds : s.seconds.AtLeast 1 := (atLeast_ofNat _).add
    (atLeast_divNat_ofNat _ (by decide) nanosPerSecond_le_one) hsome
  generalize s.seconds = p at h hseconds
  cases hseconds with
  | finite hu =>
      rw [le_finite] at h
      have hle := of_decide_eq_true h
      omega
  | infinite => cases h

end Span

namespace Backoff

variable {b : Backoff} {attempt : UInt32}

/-- The product of no delay is zero times a power. -/
theorem product_without_initial (hinitial : b.initial = .ofSeconds 0) :
    b.product attempt = (Double.finite false 0).mul (b.multiplier.power (exponent attempt)) := by
  rw [product, hinitial, Span.seconds_ofSeconds (Nat.zero_le _), ofNat_of_le (Nat.zero_le _),
    Nat.zero_mul]

/-- A finite power of the factor leaves no delay at none. -/
theorem delay?_of_finite_power (hinitial : b.initial = .ofSeconds 0) {u : Nat}
    (h : b.multiplier.power (exponent attempt) = .finite false u) :
    b.delay? attempt = some (.ofSeconds 0) := by
  have hproduct : b.product attempt = .finite false 0 := by
    have hlt : nearest 0 one < limit := by
      rw [nearest_zero]
      exact limit_pos
    rw [product_without_initial hinitial, h, Double.mul, Nat.zero_mul, ofQuotient_of_lt hlt,
      nearest_zero, bne_self_eq_false]
  unfold delay?
  rw [hproduct]
  by_cases hnone : b.max.seconds.le (.finite false 0) = true
  · -- the longest delay is none as well
    have hmax : b.max = .ofSeconds 0 := congrArg Span.mk (Span.nanos_eq_zero_of_le hnone)
    rw [if_neg fun hp => hp.2 hnone, hmax]
  · rw [if_pos ⟨rfl, hnone⟩]
    dsimp only
    rw [if_neg (by simp), Span.ofUnits, Nat.zero_mul, roundHalfEven_zero]
    rfl

/-- Zero times infinity is not a number. -/
theorem delay?_of_infinite_power (hinitial : b.initial = .ofSeconds 0)
    (h : b.multiplier.power (exponent attempt) = .infinite false) :
    b.delay? attempt = some b.max := by
  have hproduct : b.product attempt = .nan := by
    rw [product_without_initial hinitial, h, Double.mul, if_pos rfl]
  unfold delay?
  rw [hproduct, if_neg fun hp => Bool.false_ne_true hp.1]

/-- The limit of the exponent is of no account for powers from 2^1024 on. -/
theorem le_mul_exponent {k : Nat} (h : 1024 ≤ k * (attempt.toNat - 1)) :
    1024 ≤ k * exponent attempt := by
  rw [exponent, exponentLimit]
  rcases Nat.le_total (attempt.toNat - 1) 2147483647 with hle | hge
  · rwa [Nat.min_eq_left hle]
  · have hk : 1 ≤ k := Nat.pos_of_ne_zero fun hk => by simp [hk] at h
    rw [Nat.min_eq_right hge]
    omega

end Backoff

/-- **A backoff whose factor is not below zero has a delay before every attempt, and none is longer
than the longest**, also where the factor is infinite or not a number.  Where the longest delay fits
into 64 bits of seconds, so does every number of seconds that is turned into a delay. -/
theorem delay_within_longest {b : Backoff} (h : b.multiplier.lt .zero = false) (attempt : UInt32) :
    (∃ delay, b.delay? attempt = some delay ∧ delay.nanos ≤ b.max.nanos) ∧
      (b.max.nanos < 2 ^ 64 * nanosPerSecond → (b.product attempt).isFinite = true →
        ¬b.max.seconds.le (b.product attempt) = true → Span.Fits (b.product attempt)) := by
  have hunsigned := unsigned_of_not_lt h
  obtain ⟨delay, hdelay⟩ := Option.isSome_iff_exists.mp (Backoff.isSome_delay? hunsigned attempt)
  exact ⟨⟨delay, hdelay, Backoff.delay?_le_max hdelay⟩, Backoff.fits_product hunsigned⟩

/-- The ninth of the standard delays is turned from seconds into a span, and below the longest. -/
theorem ninth_delay_within_longest :
    Backoff.standard.multiplier.lt .zero = false ∧
      (∃ delay, Backoff.standard.delay? 9 = some delay ∧ delay.nanos ≤ 300 * nanosPerSecond) ∧
      Span.Fits (Backoff.standard.product 9) := by
  have hpositive : ∀ u, (Double.finite false u).lt .zero = false := fun u => by
    simp [lt, zero, signed]
  have hunsigned : Backoff.standard.multiplier.lt .zero = false := by
    rw [Backoff.doubles_standard.multiplier_eq, hpositive]
  have hproduct : Backoff.standard.product 9 = .finite false (256 * one) := by
    rw [Backoff.doubles_standard.product_eq 9, ← ofNat_of_le (by decide)]
    rfl
  have hmax : Backoff.standard.max.seconds = .finite false (300 * one) := by
    rw [Backoff.doubles_standard.max_eq, Span.seconds_ofSeconds (by decide),
      ofNat_of_le (by decide)]
  have hless : ¬Backoff.standard.max.seconds.le (Backoff.standard.product 9) = true := by
    have hone := Double.one_pos
    rw [hproduct, hmax, le_finite]
    simp only [decide_eq_true_eq]
    omega
  obtain ⟨hdelay, hfits⟩ := delay_within_longest hunsigned 9
  exact ⟨hunsigned, hdelay, hfits (by decide) (by rw [hproduct]; rfl) hless⟩

/-- **A backoff that starts with no delay keeps to none as long as the power of its factor is
finite; from then on every delay is the longest.**  The power is finite while the factor is at most
2^k and the doublings are fewer than 1024 together, and infinite from as many on if the factor is at
least 2^k. -/
theorem delay_without_initial {b : Backoff} (hinitial : b.initial = .ofSeconds 0)
    (hfinite : b.multiplier.isFinite = true) (hone : b.multiplier.lt (.ofNat 1) = false)
    (attempt : UInt32) :
    b.delay? attempt =
        some (if (b.multiplier.power (Backoff.exponent attempt)).isFinite = true then .ofSeconds 0
          else b.max) ∧
      (∀ k < 1024, b.multiplier.le (.ofNat (2 ^ k)) = true → k * (attempt.toNat - 1) < 1024 →
        b.delay? attempt = some (.ofSeconds 0)) ∧
      ∀ k < 1024, (Double.ofNat (2 ^ k)).le b.multiplier = true →
        1024 ≤ k * (attempt.toNat - 1) → b.delay? attempt = some b.max := by
  have hfactor : b.multiplier.AtLeast (2 ^ 0 * one) := by
    rw [ofNat_one] at hone
    exact atLeast_of_not_lt hfinite (Nat.mul_pos (Nat.two_pow_pos 0) Double.one_pos) hone
  refine ⟨?_, fun k hk hle hfew => ?_, fun k hk hge hmany => ?_⟩
  · have hpower := hfactor.power (Backoff.exponent attempt)
    generalize hp : b.multiplier.power (Backoff.exponent attempt) = p at hpower
    cases hpower with
    | finite => exact Backoff.delay?_of_finite_power hinitial hp
    | infinite => exact Backoff.delay?_of_infinite_power hinitial hp
  · have hexponent : k * Backoff.exponent attempt < 1024 :=
      (Nat.mul_le_mul_left k (Nat.min_le_left _ _)).trans_lt hfew
    rw [ofNat_two_pow hk] at hle
    have hpower := (hfactor.atMost hle).power hexponent
    generalize hp : b.multiplier.power (Backoff.exponent attempt) = p at hpower
    cases hpower with
    | finite => exact Backoff.delay?_of_finite_power hinitial hp
  · rw [ofNat_two_pow hk] at hge
    have hpos : 0 < 2 ^ k * one := Nat.mul_pos (Nat.two_pow_pos k) Double.one_pos
    have hlarge := atLeast_of_le hge hfinite hpos
    exact Backoff.delay?_of_infinite_power hinitial
      (hlarge.power_eq_infinite hk (Backoff.le_mul_exponent hmany))

namespace Settings.Sample

/-- Settings that put off no first retry, and otherwise the standard ones. -/
def impatient : Settings := { standard with initialBackoffMs := 0 }

theorem check_impatient : impatient.check = .ok impatient := by decide +kernel

theorem multiplier_impatient : impatient.backoff.multiplier = .ofNat (2 ^ 1) := by
  rw [Nat.pow_one]
  simp only [Settings.backoff, impatient, standard]

end Settings.Sample

/-- With a factor of two there is no delay up to attempt 1024, and then the longest. -/
theorem impatient_until_overflow :
    Settings.Sample.impatient.backoff.initial = .ofSeconds 0 ∧
      Settings.Sample.impatient.backoff.multiplier.isFinite = true ∧
      Settings.Sample.impatient.backoff.multiplier.lt (.ofNat 1) = false ∧
      Settings.Sample.impatient.backoff.delay? 1024 = some (.ofSeconds 0) ∧
      Settings.Sample.impatient.backoff.delay? 1025 = some (.ofSeconds 300) := by
  obtain ⟨hfinite, hone⟩ := Settings.multiplier_of_check Settings.Sample.check_impatient
  have hself : ∀ v, (Double.finite false v).le (.finite false v) = true := fun v => by
    rw [le_finite, decide_eq_true (Nat.le_refl v)]
  have hinitial : Settings.Sample.impatient.backoff.initial = .ofSeconds 0 := rfl
  have hdelay := delay_without_initial hinitial hfinite hone
  have hfactor := Settings.Sample.multiplier_impatient
  refine ⟨hinitial, hfinite, hone, (hdelay 1024).2.1 1 (by decide) ?_ (by decide),
    (hdelay 1025).2.2 1 (by decide) ?_ (by decide)⟩
  · rw [hfactor, ofNat_two_pow (by decide), hself]
  · rw [hfactor, ofNat_two_pow (by decide), hself]

/-- Settings without a fault that start with no delay have one of five minutes before attempt
1025. -/
theorem no_delay_becomes_longest :
    Settings.Sample.impatient.check = .ok Settings.Sample.impatient ∧
      Settings.Sample.impatient.backoff.initial = .ofSeconds 0 ∧
      Settings.Sample.impatient.backoff.delay? 1025 = some (.ofSeconds 300) ∧
      Settings.Sample.impatient.backoff.delay? 1025 ≠ some (.ofSeconds 0) := by
  have hpower : Settings.Sample.impatient.backoff.multiplier.power (Backoff.exponent 1025) =
      .infinite false := by
    have hfactor : Settings.Sample.impatient.backoff.multiplier.AtLeast (2 ^ 1 * one) := by
      rw [Settings.Sample.multiplier_impatient, ofNat_two_pow (by decide)]
      exact .finite (Nat.le_refl _)
    exact hfactor.power_eq_infinite (by decide) (by decide)
  have hdelay := Backoff.delay?_of_infinite_power (b := Settings.Sample.impatient.backoff) rfl hpower
  refine ⟨Settings.Sample.check_impatient, rfl, hdelay, ?_⟩
  rw [hdelay]
  decide

end Courier
