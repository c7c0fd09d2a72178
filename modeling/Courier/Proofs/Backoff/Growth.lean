import Courier.Proofs.Backoff

/-!
# Proofs — Backoff — Growth

Delays of a backoff of whole seconds whose factor is a power of two.  Every product of these is
exact in double precision until it is infinite, and what is infinite is beyond the longest delay.

* `Backoff.Doubles`: the backoff is one of these.
* `Backoff.Doubles.product_eq`: its product before an attempt, exact or infinite.
* `doubling_delays`: its delay before every attempt, and that delays do not decrease.
-/

namespace Courier

open Double

namespace Span

/-- Whole seconds up to 2^53 are seconds without rounding. -/
theorem seconds_ofSeconds {n : Nat} (h : n ≤ 2 ^ 53) : (ofSeconds n).seconds = .ofNat n := by
  have hpos : 0 < nanosPerSecond := by decide
  have hwhole : (ofSeconds n).nanos / nanosPerSecond = n := Nat.mul_div_cancel n hpos
  have hpart : (ofSeconds n).nanos % nanosPerSecond = 0 := Nat.mul_mod_left n nanosPerSecond
  have hzero : (Double.ofNat 0).divNat nanosPerSecond = .finite false 0 := by
    have hexact : ofQuotient false (0 * nanosPerSecond) nanosPerSecond = _ :=
      ofQuotient_mul (dvd_zero (spacing 0)) hpos
    rw [Nat.zero_mul, if_pos limit_pos] at hexact
    rwa [ofNat_of_le (Nat.zero_le _), Nat.zero_mul]
  have hlimit : n * one < limit := lt_limit (Nat.mul_le_mul_right one (h.trans (by decide)))
  rw [seconds, hwhole, hpart, hzero, ofNat_of_le h, Double.add_zero (onGrid_mul_one h) hlimit]

/-- Whole seconds are nanoseconds without rounding. -/
theorem ofUnits_mul_one (n : Nat) : ofUnits (n * one) = ofSeconds n := by
  have hround : n * one * nanosPerSecond = n * nanosPerSecond * one := Nat.mul_right_comm ..
  rw [ofUnits, hround, roundHalfEven_mul _ Double.one_pos, ofSeconds]

end Span

namespace Backoff

/-- The delays start at `initial` seconds, grow by the factor `2^k` and stop at `longest` seconds;
both numbers of seconds have 53 bits at most. -/
structure Doubles (b : Backoff) (initial k longest : Nat) : Prop where
  initial_eq : b.initial = .ofSeconds initial
  initial_pos : 1 ≤ initial
  initial_lt : initial < 2 ^ 53
  multiplier_eq : b.multiplier = .finite false (2 ^ k * one)
  k_le : k ≤ 1023
  max_eq : b.max = .ofSeconds longest
  max_lt : longest < 2 ^ 53

variable {b : Backoff} {initial k longest : Nat}

/-- Where a delay doubles some times with each attempt, its product is a number of seconds. -/
theorem Doubles.product_eq (h : b.Doubles initial k longest) (attempt : UInt32) :
    b.product attempt = .ofNat (initial * 2 ^ (k * exponent attempt)) := by
  have hfactor : b.multiplier = .ofNat (2 ^ k) := by
    rw [h.multiplier_eq, ofNat_two_pow (Nat.lt_succ_of_le h.k_le)]
  rw [product, hfactor, h.initial_eq, Span.seconds_ofSeconds h.initial_lt.le, power_two_pow]
  exact mul_ofNat (onGrid_mul_one h.initial_lt.le) (onGrid_two_pow _)
    (onGrid_whole h.initial_lt.le _) h.initial_pos (Nat.two_pow_pos _)

/-- A product that is exact, or infinite, gives its seconds up to the longest delay. -/
theorem delay?_of_product {attempt : UInt32} {n : Nat} (hmax : b.max = .ofSeconds longest)
    (hlongest : longest < 2 ^ 53) (hn : OnGrid (n * one)) (h : b.product attempt = .ofNat n) :
    b.delay? attempt = some (.ofSeconds (min n longest)) := by
  have hseconds : b.max.seconds = .finite false (longest * one) := by
    rw [hmax, Span.seconds_ofSeconds hlongest.le, ofNat_of_le hlongest.le]
  unfold delay?
  rw [h, ofNat_eq hn, hseconds, hmax]
  by_cases hfinite : n * one < limit
  · rw [if_pos hfinite]
    dsimp only
    rw [le_finite]
    rcases Nat.lt_or_ge n longest with hlt | hge
    · have hless : ¬longest * one ≤ n * one :=
        Nat.not_le.mpr (Nat.mul_lt_mul_of_pos_right hlt Double.one_pos)
      rw [if_pos ⟨rfl, by simpa using hless⟩, if_neg (by simp), Span.ofUnits_mul_one,
        Nat.min_eq_left hlt.le]
    · have hreached : longest * one ≤ n * one := Nat.mul_le_mul_right one hge
      rw [if_neg fun hp => hp.2 (decide_eq_true hreached), Nat.min_eq_right hge]
  · -- an infinite product is beyond the longest delay
    have hlimit : longest * one < limit :=
      lt_limit (Nat.mul_le_mul_right one (hlongest.le.trans (by decide)))
    have hge : longest ≤ n := Nat.le_of_mul_le_mul_right (by omega) Double.one_pos
    rw [if_neg hfinite, if_neg fun hp => Bool.false_ne_true hp.1, Nat.min_eq_right hge]

/-- The exponent has a limit, but from 53 doublings on the delay is the longest. -/
theorem min_mul_two_pow {n limit : Nat} (hinitial : 1 ≤ initial) (hlongest : longest < 2 ^ 53)
    (hlimit : 53 ≤ limit) :
    min (initial * 2 ^ (k * min n limit)) longest = min (initial * 2 ^ (k * n)) longest := by
  rcases Nat.le_total n limit with hle | hge
  · rw [Nat.min_eq_left hle]
  · rw [Nat.min_eq_right hge]
    rcases Nat.eq_zero_or_pos k with rfl | hk
    · rw [Nat.zero_mul, Nat.zero_mul]
    · have hbeyond : ∀ e, limit ≤ e → longest ≤ initial * 2 ^ (k * e) := fun e he => by
        have hexponent : 53 ≤ k * e := (hlimit.trans he).trans (Nat.le_mul_of_pos_left e hk)
        calc longest ≤ 2 ^ 53 := hlongest.le
          _ ≤ 2 ^ (k * e) := Nat.pow_le_pow_right Nat.two_pos hexponent
          _ ≤ initial * 2 ^ (k * e) := Nat.le_mul_of_pos_left _ hinitial
      rw [Nat.min_eq_right (hbeyond limit (Nat.le_refl _)), Nat.min_eq_right (hbeyond n hge)]

/-- Where a delay doubles some times with each attempt, it is that many seconds, or the longest. -/
theorem Doubles.delay?_eq (h : b.Doubles initial k longest) (attempt : UInt32) :
    b.delay? attempt =
      some (.ofSeconds (min (initial * 2 ^ (k * (attempt.toNat - 1))) longest)) := by
  rw [delay?_of_product h.max_eq h.max_lt (onGrid_whole h.initial_lt.le _) (h.product_eq attempt),
    exponent, min_mul_two_pow h.initial_pos h.max_lt (by decide)]

end Backoff

/-- **Delays of whole seconds whose factor is a power of two are exact**: the product or the longest
delay, whichever is less.  They do not decrease from one attempt to a later one. -/
theorem doubling_delays {b : Backoff} {initial k longest : Nat}
    (h : b.Doubles initial k longest) :
    (∀ attempt : UInt32, b.delay? attempt =
      some (.ofSeconds (min (initial * 2 ^ (k * (max attempt.toNat 1 - 1))) longest))) ∧
    ∀ earlier later : UInt32, earlier ≤ later → ∃ d e, b.delay? earlier = some d ∧
      b.delay? later = some e ∧ d.nanos ≤ e.nanos := by
  refine ⟨fun attempt => ?_, fun earlier later hle =>
    ⟨_, _, h.delay?_eq earlier, h.delay?_eq later, ?_⟩⟩
  · have hexponent : max attempt.toNat 1 - 1 = attempt.toNat - 1 := by omega
    rw [hexponent]
    exact h.delay?_eq attempt
  · have hattempt : earlier.toNat ≤ later.toNat := hle
    have hexponent : k * (earlier.toNat - 1) ≤ k * (later.toNat - 1) :=
      Nat.mul_le_mul_left k (by omega)
    have hproduct := Nat.mul_le_mul_left initial (Nat.pow_le_pow_right Nat.two_pos hexponent)
    exact Nat.mul_le_mul_right nanosPerSecond (by omega)

/-- The standard delays double with each attempt. -/
theorem Backoff.doubles_standard : standard.Doubles 1 1 300 where
  initial_eq := rfl
  initial_pos := by decide
  initial_lt := by decide
  multiplier_eq := by
    rw [← ofNat_two_pow (by decide), Nat.pow_one]
    simp only [standard]
  k_le := by decide
  max_eq := rfl
  max_lt := by decide

/-- A second that doubles: 256 seconds before the ninth attempt, and then the five minutes. -/
theorem standard_doubles_to_longest :
    Backoff.standard.Doubles 1 1 300 ∧ Backoff.standard.delay? 9 = some (.ofSeconds 256) ∧
      Backoff.standard.delay? 4294967295 = some (.ofSeconds 300) := by
  obtain ⟨hdelay, -⟩ := doubling_delays Backoff.doubles_standard
  have hbeyond : ∀ e, 9 ≤ e → 300 ≤ 1 * 2 ^ (1 * e) := fun e he => by
    rw [Nat.one_mul, Nat.one_mul]
    exact (by decide : 300 ≤ 2 ^ 9).trans (Nat.pow_le_pow_right Nat.two_pos he)
  refine ⟨Backoff.doubles_standard, hdelay 9, ?_⟩
  rw [hdelay, Nat.min_eq_right (hbeyond _ (by decide))]

end Courier
