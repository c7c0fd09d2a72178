import Mathlib.Algebra.Order.Ring.Nat
import Mathlib.Tactic.Ring
import Courier.Number.Double

/-!
# Proofs — Number — Double

Rounding does not go past a value.  The values are the numbers of units that the spacing at them
divides (`OnGrid`).

* `onGrid_nearest`: what a rounding gives is a value.
* `nearest_le_of_lt`: what is nearer to a value than half the way to the next is not rounded above
  it.
* `le_nearest`: what is not below a value is not rounded below it.
* `two_mul_nearest_le`: a rounding is off by half the spacing at most.
* `nearest_mul`: a value is its own rounding.
* `powerFrom_of_mul`: repeated squaring keeps what products keep.
* `power_two_pow`: the power of a power of two is exact, or infinite.
-/

namespace Courier.Double

variable {n d k m u v : Nat}

theorem spacing_pos (n : Nat) : 0 < spacing n := Nat.pow_pos Nat.two_pos

theorem spacing_dvd (h : m.log2 ≤ n.log2) : spacing m ∣ spacing n :=
  Nat.pow_dvd_pow 2 (by omega)

/-- A quotient below a half is rounded to no more. -/
theorem roundHalfEven_le (h : 2 * n < (2 * m + 1) * d) : roundHalfEven n d ≤ m := by
  have hdiv := Nat.div_add_mod n d
  have hpos : 0 < d := Nat.pos_of_ne_zero fun he => by simp [he] at h
  have hbound : (2 * m + 1) * d = 2 * (m * d) + d := by ring
  have hq : n / d ≤ m := by
    refine Nat.le_of_lt_succ ((Nat.div_lt_iff_lt_mul hpos).mpr ?_)
    rw [Nat.succ_mul]
    omega
  simp only [roundHalfEven]
  rcases Nat.lt_or_eq_of_le hq with hlt | he
  · split <;> omega
  · -- the remainder is below one half
    have hr : 2 * (n % d) < d := by
      rw [hbound, ← he, Nat.mul_comm (n / d)] at h
      omega
    rw [if_pos (.inl hr), he]

/-- A quotient of at least a whole number is rounded to no less. -/
theorem le_roundHalfEven (hd : 0 < d) (h : m * d ≤ n) : m ≤ roundHalfEven n d := by
  have hq : m ≤ n / d := (Nat.le_div_iff_mul_le hd).mpr h
  simp only [roundHalfEven]
  split <;> omega

/-- A rounding is off by one half at most. -/
theorem two_mul_roundHalfEven_le (n d : Nat) : 2 * (roundHalfEven n d * d) ≤ 2 * n + d := by
  have hdiv := Nat.div_add_mod n d
  rw [Nat.mul_comm] at hdiv
  simp only [roundHalfEven]
  split
  · omega
  · rw [Nat.add_mul, Nat.one_mul]
    omega

/-! ### Values -/

/-- A number of units that is a value. -/
def OnGrid (v : Nat) : Prop := spacing v ∣ v

/-- At most 53 significant bits. -/
theorem onGrid_mul_pow (h : k ≤ 2 ^ 53) (e : Nat) : OnGrid (k * 2 ^ e) := by
  rcases Nat.lt_or_eq_of_le h with hlt | rfl
  · rw [OnGrid, spacing]
    by_cases hzero : k = 0
    · simp [hzero]
    · refine Dvd.dvd.mul_left (Nat.pow_dvd_pow 2 ?_) k
      have hlog : (k * 2 ^ e).log2 < 53 + e := by
        refine (Nat.log2_lt (Nat.mul_ne_zero hzero (Nat.pow_pos Nat.two_pos).ne')).mpr ?_
        rw [Nat.pow_add]
        exact Nat.mul_lt_mul_of_pos_right hlt (Nat.pow_pos Nat.two_pos)
      omega
  · rw [OnGrid, spacing, ← Nat.pow_add, Nat.log2_two_pow]
    exact Nat.pow_dvd_pow 2 (by omega)

/-- A value has at most 53 digits before its spacing. -/
theorem lt_pow_mul_spacing (n : Nat) : n < 2 ^ 53 * spacing n := by
  have hlog : n < 2 ^ (n.log2 + 1) := Nat.lt_log2_self
  refine hlog.trans_le ?_
  rw [spacing, Nat.pow_eq, ← Nat.pow_add]
  exact Nat.pow_le_pow_right Nat.two_pos (by omega)

/-- What a rounding gives is a value. -/
theorem onGrid_nearest (n d : Nat) : OnGrid (nearest n d) := by
  refine onGrid_mul_pow ?_ _
  have hq := lt_pow_mul_spacing (n / d)
  rcases Nat.eq_zero_or_pos d with rfl | hd
  · simp only [roundHalfEven]
    split <;> simp
  · refine roundHalfEven_le ?_
    have hn : n < (n / d + 1) * d := by
      rw [Nat.mul_comm]
      exact Nat.lt_mul_div_succ n hd
    have hbound : (n / d + 1) * d ≤ 2 ^ 53 * (d * spacing (n / d)) := by
      rw [Nat.mul_left_comm, Nat.mul_comm]
      exact Nat.mul_le_mul_left d hq
    have hhalf : 2 * (2 ^ 53 * (d * spacing (n / d))) ≤
        (2 * 2 ^ 53 + 1) * (d * spacing (n / d)) := by
      rw [← Nat.mul_assoc]
      exact Nat.mul_le_mul_right _ (by omega)
    omega

/-- What is nearer to a value than half the way to the next is not rounded above it. -/
theorem nearest_le_of_lt (hv : OnGrid v) (h : 2 * n < (2 * v + spacing v) * d) :
    nearest n d ≤ v := by
  have hd : 0 < d := Nat.pos_of_ne_zero fun he => by simp [he] at h
  have hn : n / d * d ≤ n := Nat.div_mul_le_self n d
  have hlog : (n / d).log2 ≤ v.log2 := by
    -- the next power of two is a multiple of the spacing, and so at least one spacing off
    refine Nat.not_lt.mp fun hlt => ?_
    have hpow : 2 ^ (v.log2 + 1) ≤ n / d := by
      refine (Nat.pow_le_pow_right Nat.two_pos hlt).trans (Nat.log2_self_le fun he => ?_)
      rw [he] at hlt
      simp at hlt
    obtain ⟨k, hk⟩ := hv
    have hdvd : spacing v ∣ 2 ^ (v.log2 + 1) := Nat.pow_dvd_pow 2 (by omega)
    obtain ⟨l, hl⟩ := hdvd
    have hnext : v + spacing v ≤ 2 ^ (v.log2 + 1) := by
      have hlt : v < 2 ^ (v.log2 + 1) := Nat.lt_log2_self
      have hkl : k < l := by
        refine Nat.lt_of_mul_lt_mul_left (a := spacing v) ?_
        rwa [← hk, ← hl]
      rw [hl]
      calc v + spacing v = spacing v * k + spacing v := by rw [← hk]
        _ = spacing v * (k + 1) := by ring
        _ ≤ spacing v * l := Nat.mul_le_mul_left _ hkl
    have hfar : (v + spacing v) * d ≤ n :=
      (Nat.mul_le_mul_right d (hnext.trans hpow)).trans hn
    rw [Nat.add_mul] at hfar h
    rw [Nat.mul_assoc] at h
    omega
  obtain ⟨k, hk⟩ := (spacing_dvd hlog).trans hv
  rw [nearest, hk, Nat.mul_comm (spacing (n / d))]
  refine Nat.mul_le_mul_right _ (roundHalfEven_le ?_)
  have hgoal : (2 * k + 1) * (d * spacing (n / d)) = 2 * (v * d) + spacing (n / d) * d := by
    rw [hk]
    ring
  rw [hgoal]
  rcases Nat.lt_or_eq_of_le hlog with hlt | he
  · have hq : n / d < v := Nat.lt_of_not_le fun hle => by
      have hv0 : v ≠ 0 := fun he => by simp [he] at hlt
      have hself := (Nat.log2_self_le hv0).trans hle
      exact absurd ((Nat.le_log2 (by omega)).mpr hself) (Nat.not_le.mpr hlt)
    have hlt' : n < v * d := (Nat.div_lt_iff_lt_mul hd).mp hq
    omega
  · rw [spacing, he, ← spacing]
    rw [Nat.add_mul, Nat.mul_assoc] at h
    exact h

/-- Rounding does not lead beyond a representable value. -/
theorem nearest_le (hv : OnGrid v) (hd : 0 < d) (h : n ≤ v * d) : nearest n d ≤ v := by
  refine nearest_le_of_lt hv ?_
  have hpos := Nat.mul_pos (spacing_pos v) hd
  rw [Nat.add_mul, Nat.mul_assoc]
  omega

/-- A value is not rounded up. -/
theorem nearest_le_self (hv : OnGrid v) : nearest v 1 ≤ v :=
  nearest_le hv Nat.one_pos (Nat.mul_one v).ge

/-- What is not below a value is not rounded below it. -/
theorem le_nearest (hv : OnGrid v) (hd : 0 < d) (h : v * d ≤ n) : v ≤ nearest n d := by
  have hvq : v ≤ n / d := (Nat.le_div_iff_mul_le hd).mpr h
  -- a multiple of the spacing is one of the values that the rounding is among
  have hmultiple : ∀ w, spacing (n / d) ∣ w → w * d ≤ n → w ≤ nearest n d := by
    rintro w ⟨k, rfl⟩ hw
    rw [nearest, Nat.mul_comm]
    refine Nat.mul_le_mul_right _ (le_roundHalfEven (Nat.mul_pos hd (spacing_pos _)) ?_)
    rwa [Nat.mul_left_comm, Nat.mul_comm d, Nat.mul_comm k]
  rcases Nat.eq_zero_or_pos v with rfl | hpos
  · exact Nat.zero_le _
  · have hq0 : n / d ≠ 0 := by omega
    have hlog : v.log2 ≤ (n / d).log2 :=
      (Nat.le_log2 hq0).mpr ((Nat.log2_self_le hpos.ne').trans hvq)
    rcases Nat.lt_or_eq_of_le hlog with hlt | he
    · -- a power of two lies between
      have hpow : 2 ^ (n / d).log2 ≤ nearest n d :=
        hmultiple _ (Nat.pow_dvd_pow 2 (by omega))
          ((Nat.le_div_iff_mul_le hd).mp (Nat.log2_self_le hq0))
      exact (Nat.lt_log2_self.le.trans (Nat.pow_le_pow_right Nat.two_pos hlt)).trans hpow
    · refine hmultiple v ?_ h
      rw [spacing, ← he]
      exact hv

/-- A rounding is off by half the spacing at most. -/
theorem two_mul_nearest_le (n d : Nat) :
    2 * (nearest n d * d) ≤ 2 * n + d * spacing (n / d) := by
  have h := two_mul_roundHalfEven_le n (d * spacing (n / d))
  have hmul : roundHalfEven n (d * spacing (n / d)) * (d * spacing (n / d)) = nearest n d * d := by
    rw [nearest]
    ring
  rwa [hmul] at h

/-! ### Distances -/

-- the powers are not to be evaluated

theorem exists_one_eq : ∃ e, e = 1074 ∧ one = 2 ^ e := by
  unfold one
  generalize 1074 = e
  exact ⟨e, rfl, rfl⟩

theorem exists_limit_eq : ∃ e, e = 2098 ∧ limit = 2 ^ e := by
  unfold limit
  generalize 2098 = e
  exact ⟨e, rfl, rfl⟩

theorem one_pos : 0 < one := by
  obtain ⟨e, -, he⟩ := exists_one_eq
  exact he ▸ Nat.pow_pos Nat.two_pos

/-- A whole number of up to 53 bits is a value. -/
theorem onGrid_mul_one (h : k ≤ 2 ^ 53) : OnGrid (k * one) := by
  obtain ⟨e, -, he⟩ := exists_one_eq
  exact he ▸ onGrid_mul_pow h e

/-- Below one, values are close. -/
theorem spacing_of_lt_one (h : n < one) : 2 ^ 30 * spacing n ≤ one := by
  obtain ⟨e, he, hone⟩ := exists_one_eq
  rw [hone] at h ⊢
  have hlog : n.log2 < e := by
    by_cases hzero : n = 0
    · simp [hzero, he]
    · exact (Nat.log2_lt hzero).mpr h
  rw [spacing, Nat.pow_eq, ← Nat.pow_add]
  exact Nat.pow_le_pow_right Nat.two_pos (by omega)

/-- From 2^53 on, values are at least two apart. -/
theorem le_spacing (h : 2 ^ 53 * one ≤ n) : 2 * one ≤ spacing n := by
  obtain ⟨e, he, hone⟩ := exists_one_eq
  rw [hone, ← Nat.pow_add] at h
  have hlog : 53 + e ≤ n.log2 := by
    refine (Nat.le_log2 fun hzero => ?_).mpr h
    have hpos : 0 < 2 ^ (53 + e) := Nat.pow_pos Nat.two_pos
    omega
  rw [hone, spacing, Nat.pow_eq, ← Nat.pow_succ']
  exact Nat.pow_le_pow_right Nat.two_pos (by omega)

/-- A number of 64 bits is far from infinite. -/
theorem lt_limit (h : n ≤ 2 ^ 64 * one) : n < limit := by
  obtain ⟨e, he, hone⟩ := exists_one_eq
  obtain ⟨l, hl, hlimit⟩ := exists_limit_eq
  refine h.trans_lt ?_
  rw [hone, hlimit, ← Nat.pow_add]
  exact Nat.pow_lt_pow_right Nat.one_lt_two (by omega)

/-! ### Operations -/

theorem ofQuotient_of_lt {negative : Bool} (h : nearest n d < limit) :
    ofQuotient negative n d = .finite negative (nearest n d) :=
  if_pos h

/-- What is not infinite after rounding is representable and below the limit. -/
theorem onGrid_ofQuotient {s negative : Bool} (h : ofQuotient s n d = .finite negative u) :
    OnGrid u ∧ u < limit := by
  by_cases hlt : nearest n d < limit
  · rw [ofQuotient_of_lt hlt] at h
    obtain ⟨-, rfl⟩ := Double.finite.inj h
    exact ⟨onGrid_nearest n d, hlt⟩
  · rw [ofQuotient, if_neg hlt] at h
    cases h

/-- A finite product is a value. -/
theorem onGrid_mul {a b : Double} {negative : Bool} (h : a.mul b = .finite negative u) :
    OnGrid u ∧ u < limit := by
  cases a with
  | nan => cases h
  | infinite s =>
      cases b with
      | nan => cases h
      | infinite t => cases h
      | finite t v =>
          rw [Double.mul] at h
          split at h <;> cases h
  | finite s u =>
      cases b with
      | nan => cases h
      | infinite t =>
          rw [Double.mul] at h
          split at h <;> cases h
      | finite t v => exact onGrid_ofQuotient h

/-- A sum whose rounding is not above a value is not. -/
theorem add_le (h : nearest (m + n) 1 ≤ u) (hl : u < limit) :
    ((finite false m).add (finite false n)).le (.finite false u) = true := by
  have hsum : signed false m + signed false n = ((m + n : Nat) : Int) := rfl
  simp only [Double.add, hsum]
  split
  · simp [le, lt, signed]
  · rw [Int.natAbs_natCast, decide_eq_false (by omega), ofQuotient_of_lt (h.trans_lt hl)]
    simp [le, lt, signed, h]

/-! ### Exact results -/

/-- A whole number is its own rounding. -/
theorem roundHalfEven_mul (m : Nat) (hd : 0 < d) : roundHalfEven (m * d) d = m := by
  have hround : 2 * (m * d % d) < d := by
    rw [Nat.mul_mod_left]
    exact hd
  rw [roundHalfEven, if_pos (.inl hround), Nat.mul_div_cancel m hd]

/-- A value is its own rounding. -/
theorem nearest_mul (hv : OnGrid v) (hd : 0 < d) : nearest (v * d) d = v := by
  obtain ⟨k, hk⟩ := hv
  have hmul : v * d = k * (d * spacing v) := by
    rw [Nat.mul_left_comm, Nat.mul_comm k, ← hk, Nat.mul_comm]
  rw [nearest, Nat.mul_div_cancel v hd, hmul, roundHalfEven_mul k (Nat.mul_pos hd (spacing_pos v)),
    Nat.mul_comm, ← hk]

/-- A representable quotient is its own rounding, infinite from the limit on. -/
theorem ofQuotient_mul {negative : Bool} (hv : OnGrid v) (hd : 0 < d) :
    ofQuotient negative (v * d) d =
      if v < limit then .finite negative v else .infinite negative := by
  rw [ofQuotient, nearest_mul hv hd]

/-- To add nothing to a representable value leaves it. -/
theorem add_zero (hv : OnGrid v) (hl : v < limit) :
    (finite false v).add (.finite false 0) = .finite false v := by
  have hsum : signed false v + signed false 0 = (v : Int) := Int.add_zero _
  simp only [Double.add, hsum]
  split
  · next hzero => rw [Int.natCast_eq_zero.mp hzero, Bool.and_self]
  · have hexact : ofQuotient false (v * 1) 1 = _ := ofQuotient_mul hv Nat.one_pos
    rw [Nat.mul_one, if_pos hl] at hexact
    rw [Int.natAbs_natCast, decide_eq_false (by omega), hexact]

theorem le_finite (u v : Nat) : (finite false u).le (.finite false v) = decide (u ≤ v) := by
  rw [Bool.eq_iff_iff]
  simp [le, lt, signed]

/-! ### Whole numbers -/

/-- A whole number of at most 53 significant bits is a value, unless it is infinite. -/
theorem onGrid_whole (h : m ≤ 2 ^ 53) (k : Nat) : OnGrid (m * 2 ^ k * one) := by
  obtain ⟨e, -, he⟩ := exists_one_eq
  rw [he, Nat.mul_assoc, ← Nat.pow_add]
  exact onGrid_mul_pow h _

/-- A whole number is exact where it is representable. -/
theorem ofNat_eq (h : OnGrid (m * one)) :
    ofNat m = if m * one < limit then .finite false (m * one) else .infinite false := by
  have hexact : ofQuotient false (m * one * 1) 1 = _ := ofQuotient_mul h Nat.one_pos
  rwa [Nat.mul_one] at hexact

/-- A whole number of up to 53 bits is exact. -/
theorem ofNat_of_le (h : m ≤ 2 ^ 53) : ofNat m = .finite false (m * one) := by
  rw [ofNat_eq (onGrid_mul_one h),
    if_pos (lt_limit (Nat.mul_le_mul_right one (h.trans (by decide))))]

/-- The product of two whole numbers, of which one may be infinite. -/
theorem mul_ofNat (hm : OnGrid (m * one)) (hn : OnGrid (n * one)) (hmn : OnGrid (m * n * one))
    (hm0 : 0 < m) (hn0 : 0 < n) : (ofNat m).mul (ofNat n) = ofNat (m * n) := by
  have hmle : m * one ≤ m * n * one := Nat.mul_le_mul_right one (Nat.le_mul_of_pos_right m hn0)
  have hnle : n * one ≤ m * n * one := Nat.mul_le_mul_right one (Nat.le_mul_of_pos_left n hm0)
  have hmone : m * one ≠ 0 := (Nat.mul_pos hm0 one_pos).ne'
  have hnone : n * one ≠ 0 := (Nat.mul_pos hn0 one_pos).ne'
  have hproduct : m * one * (n * one) = m * n * one * one := by ring
  rw [ofNat_eq hm, ofNat_eq hn, ofNat_eq hmn]
  split
  · split
    · rw [Double.mul, hproduct, ofQuotient_mul hmn one_pos]
      rfl
    · rw [Double.mul, if_neg hmone, if_neg (by omega)]
      rfl
  · rw [if_neg (show ¬m * n * one < limit by omega)]
    split
    · rw [Double.mul, if_neg hnone]
      rfl
    · rfl

/-! ### Powers -/

/-- Repeated squaring keeps what products keep, with the exponents added up. -/
theorem powerFrom_of_mul {P : Nat → Double → Prop}
    (hmul : ∀ i j a b, P i a → P j b → P (i + j) (a.mul b)) {i j : Nat} {r a : Double}
    (hr : P i r) (ha : P j a) (n : Nat) : P (i + j * n) (powerFrom r a n) := by
  induction n using Nat.strongRecOn generalizing i j r a with
  | ind n ih =>
      -- the result so far, of which the odd power takes one more factor
      have hbit : P (i + j * (n % 2)) (if n % 2 = 1 then r.mul a else r) := by
        rcases Nat.mod_two_eq_zero_or_one n with h | h
        · rwa [h, if_neg (by decide), Nat.mul_zero, Nat.add_zero]
        · rw [h, if_pos rfl, Nat.mul_one]
          exact hmul _ _ _ _ hr ha
      rw [powerFrom]
      split
      · next hlast => rwa [Nat.mod_eq_of_lt (by omega)] at hbit ⊢
      · have hrest := ih (n / 2) (by omega) hbit (hmul _ _ _ _ ha ha)
        have hsplit := Nat.div_add_mod n 2
        have hexponent : i + j * (n % 2) + (j + j) * (n / 2) = i + j * n := by
          calc i + j * (n % 2) + (j + j) * (n / 2) = i + j * (2 * (n / 2) + n % 2) := by ring
            _ = i + j * n := by rw [hsplit]
        rwa [hexponent] at hrest

/-! ### Powers of two -/

/-- The powers of two are representable. -/
theorem onGrid_two_pow (k : Nat) : OnGrid (2 ^ k * one) := by
  have h := onGrid_whole (m := 1) (by decide) k
  rwa [Nat.one_mul] at h

/-- The powers of two below 2^1024 are below the limit. -/
theorem two_pow_lt_limit (h : k < 1024) : 2 ^ k * one < limit := by
  obtain ⟨e, he, hone⟩ := exists_one_eq
  obtain ⟨l, hl, hlimit⟩ := exists_limit_eq
  rw [hone, hlimit, ← Nat.pow_add]
  exact Nat.pow_lt_pow_right Nat.one_lt_two (by omega)

theorem ofNat_two_pow (h : k < 1024) : ofNat (2 ^ k) = .finite false (2 ^ k * one) := by
  rw [ofNat_eq (onGrid_two_pow k), if_pos (two_pow_lt_limit h)]

/-- The exponents of powers of two add up in a product, overflow included. -/
theorem mul_two_pow (i j : Nat) : (ofNat (2 ^ i)).mul (ofNat (2 ^ j)) = ofNat (2 ^ (i + j)) := by
  have hij := onGrid_two_pow (i + j)
  rw [Nat.pow_add] at hij ⊢
  exact mul_ofNat (onGrid_two_pow i) (onGrid_two_pow j) hij (Nat.two_pow_pos i) (Nat.two_pow_pos j)

/-- The power of a power of two is exact, and infinite past the point where it is. -/
theorem power_two_pow (k n : Nat) : (ofNat (2 ^ k)).power n = ofNat (2 ^ (k * n)) := by
  have hmul : ∀ i j a b, a = ofNat (2 ^ i) → b = ofNat (2 ^ j) →
      a.mul b = ofNat (2 ^ (i + j)) := fun i j a b ha hb => by
    rw [ha, hb, mul_two_pow]
  have hone : ofNat 1 = ofNat (2 ^ 0) := by rw [Nat.pow_zero]
  have hpower := powerFrom_of_mul hmul hone (Eq.refl (ofNat (2 ^ k))) n
  rwa [Nat.zero_add] at hpower

end Courier.Double
