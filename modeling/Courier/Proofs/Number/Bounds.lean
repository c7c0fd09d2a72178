import Courier.Proofs.Number.Double

/-!
# Proofs — Number — Bounds

What is known of a value through sums, products and powers, without the value itself.

* `Unsigned`: it is not below zero, or not a number.
* `AtLeast`, `AtMost`: a number of units that it does not fall below, or does not exceed.  A power of
  a factor of at least 2^k is infinite from 1024 doublings on (`AtLeast.power_eq_infinite`), and one
  of at most 2^k is finite with fewer (`AtMost.power`).
-/

namespace Courier.Double

variable {i j k n d u v : Nat} {a b : Double}

theorem limit_pos : 0 < limit := by
  obtain ⟨l, -, hlimit⟩ := exists_limit_eq
  exact hlimit ▸ Nat.two_pow_pos l

theorem roundHalfEven_zero (d : Nat) : roundHalfEven 0 d = 0 := by
  have hround : 2 * (0 % d) < d ∨ (2 * (0 % d) = d ∧ 0 / d % 2 = 0) := by
    rw [Nat.zero_mod, Nat.zero_div]
    omega
  exact (if_pos hround).trans (Nat.zero_div d)

theorem nearest_zero (d : Nat) : nearest 0 d = 0 := by
  rw [nearest, roundHalfEven_zero, Nat.zero_mul]

/-! ### Without a sign -/

/-- A value that is not below zero, or not a number. -/
inductive Unsigned : Double → Prop where
  | nan : Unsigned .nan
  | infinite : Unsigned (.infinite false)
  | finite {negative : Bool} {units : Nat} (h : negative = true → units = 0) :
      Unsigned (.finite negative units)

/-- A quotient without a sign is unsigned, rounded or infinite. -/
theorem unsigned_ofQuotient {negative : Bool} {n : Nat} (h : negative = true → n = 0) (d : Nat) :
    (ofQuotient negative n d).Unsigned := by
  have hzero : negative = true → nearest n d = 0 := fun hneg => by
    rw [h hneg, nearest_zero]
  unfold ofQuotient
  split
  · exact .finite hzero
  · rename_i hlimit
    cases negative with
    | false => exact .infinite
    | true => exact absurd (hzero rfl ▸ limit_pos) hlimit

theorem unsigned_ofNat (n : Nat) : (ofNat n).Unsigned := by
  unfold ofNat
  apply unsigned_ofQuotient
  exact nofun

theorem Unsigned.divNat {a : Double} (h : a.Unsigned) (d : Nat) : (a.divNat d).Unsigned := by
  cases h with
  | nan => exact .nan
  | infinite => exact .infinite
  | finite h => exact unsigned_ofQuotient h d

theorem signed_nonneg {negative : Bool} {units : Nat} (h : negative = true → units = 0) :
    0 ≤ signed negative units := by
  cases negative with
  | false => exact Int.natCast_nonneg units
  | true =>
      rw [h rfl]
      exact Int.le_refl 0

/-- A sum of unsigned values is unsigned. -/
theorem Unsigned.add {a b : Double} (ha : a.Unsigned) (hb : b.Unsigned) : (a.add b).Unsigned := by
  cases ha with
  | nan => exact .nan
  | infinite =>
      cases hb with
      | nan => exact .nan
      | infinite => exact .infinite
      | finite ht => exact .infinite
  | finite hs =>
      cases hb with
      | nan => exact .nan
      | infinite => exact .infinite
      | finite ht =>
          have hs := signed_nonneg hs
          have ht := signed_nonneg ht
          simp only [Double.add]
          split
          · exact .finite fun _ => rfl
          · -- the sign is that of the exact sum, which is not below zero
            refine unsigned_ofQuotient (fun hneg => ?_) 1
            have hlt := of_decide_eq_true hneg
            omega

/-- A product of unsigned values is unsigned. -/
theorem Unsigned.mul {a b : Double} (ha : a.Unsigned) (hb : b.Unsigned) : (a.mul b).Unsigned := by
  cases ha with
  | nan => exact .nan
  | infinite =>
      cases hb with
      | nan => exact .nan
      | infinite => exact .infinite
      | @finite t v ht =>
          simp only [Double.mul]
          split
          · exact .nan
          · rename_i hv
            cases t with
            | false => exact .infinite
            | true => exact absurd (ht rfl) hv
  | @finite s u hs =>
      cases hb with
      | nan => exact .nan
      | infinite =>
          simp only [Double.mul]
          split
          · exact .nan
          · rename_i hu
            cases s with
            | false => exact .infinite
            | true => exact absurd (hs rfl) hu
      | @finite t v ht =>
          refine unsigned_ofQuotient (fun hneg => ?_) one
          cases s with
          | true => rw [hs rfl, Nat.zero_mul]
          | false =>
              cases t with
              | true => rw [ht rfl, Nat.mul_zero]
              | false => exact absurd hneg (by decide)

/-- A power of an unsigned value is unsigned. -/
theorem Unsigned.power {a : Double} (h : a.Unsigned) (n : Nat) : (a.power n).Unsigned :=
  powerFrom_of_mul (P := fun _ a => a.Unsigned) (fun _ _ _ _ ha hb => ha.mul hb)
    (i := 0) (unsigned_ofNat 1) (j := 0) h n

/-- What is not below a value of no sign is unsigned, and so is what is not a number. -/
theorem unsigned_of_not_lt {a : Double} {v : Nat} (h : a.lt (.finite false v) = false) :
    a.Unsigned := by
  cases a with
  | nan => exact .nan
  | infinite negative =>
      cases negative with
      | false => exact .infinite
      | true => cases h
  | finite negative units =>
      refine .finite fun hneg => ?_
      have hle := of_decide_eq_false h
      simp only [signed, hneg, if_true, Bool.false_eq_true, if_false] at hle
      omega

/-! ### Bounds in units -/

/-- A value of at least `v` units, which may be infinite. -/
inductive AtLeast (v : Nat) : Double → Prop where
  | finite {u : Nat} (h : v ≤ u) : AtLeast v (.finite false u)
  | infinite : AtLeast v (.infinite false)

/-- A value of no more than `v` units. -/
inductive AtMost (v : Nat) : Double → Prop where
  | finite {u : Nat} (h : u ≤ v) : AtMost v (.finite false u)

/-- A number that is not less than some units has at least as many. -/
theorem atLeast_of_not_lt (hfinite : a.isFinite = true) (hv : 0 < v)
    (h : a.lt (.finite false v) = false) : a.AtLeast v := by
  cases a with
  | nan => cases hfinite
  | infinite => cases hfinite
  | finite negative u =>
      have hle := of_decide_eq_false h
      simp only [signed, Bool.false_eq_true, if_false] at hle
      cases negative with
      | true =>
          rw [if_pos rfl] at hle
          omega
      | false => exact .finite (by simpa using hle)

theorem atLeast_of_le (h : (Double.finite false v).le a = true) (hfinite : a.isFinite = true)
    (hv : 0 < v) : a.AtLeast v := by
  cases a with
  | nan => cases hfinite
  | infinite => cases hfinite
  | finite negative u =>
      refine atLeast_of_not_lt rfl hv ?_
      simpa [le] using h

/-- A value with bounds on both sides is a number. -/
theorem AtLeast.atMost (ha : a.AtLeast u) (h : a.le (.finite false v) = true) : a.AtMost v := by
  cases ha with
  | finite hu =>
      rw [le_finite] at h
      exact .finite (of_decide_eq_true h)
  | infinite => cases h

/-- A quotient of at least a representable value is rounded to no less. -/
theorem atLeast_ofQuotient (hv : OnGrid v) (hd : 0 < d) (h : v * d ≤ n) :
    (ofQuotient false n d).AtLeast v := by
  rw [ofQuotient]
  split
  · exact .finite (le_nearest hv hd h)
  · exact .infinite

/-- A quotient of at most a representable value is rounded to no more. -/
theorem atMost_ofQuotient (hv : OnGrid v) (hl : v < limit) (hd : 0 < d) (h : n ≤ v * d) :
    (ofQuotient false n d).AtMost v := by
  have hle := nearest_le hv hd h
  rw [ofQuotient_of_lt (hle.trans_lt hl)]
  exact .finite hle

theorem onGrid_of_le_one (h : v ≤ 1) : OnGrid v := by
  have hgrid := onGrid_mul_pow (k := v) (by omega) 0
  rwa [Nat.pow_zero, Nat.mul_one] at hgrid

theorem atLeast_ofNat (n : Nat) : (ofNat n).AtLeast (min n 1 * one) := by
  refine atLeast_ofQuotient (onGrid_mul_one (by omega)) Nat.one_pos ?_
  rw [Nat.mul_one]
  exact Nat.mul_le_mul_right one (Nat.min_le_left n 1)

/-- Some nanoseconds are not rounded to none. -/
theorem atLeast_divNat_ofNat (n : Nat) (hd : 0 < d) (h : d ≤ one) :
    ((ofNat n).divNat d).AtLeast (min n 1) := by
  have hn := atLeast_ofNat n
  generalize ofNat n = a at hn
  cases hn with
  | finite hu =>
      exact atLeast_ofQuotient (onGrid_of_le_one (Nat.min_le_right n 1)) hd
        ((Nat.mul_le_mul_left _ h).trans hu)
  | infinite => exact .infinite

/-- A sum of which one part is more than nothing is so, too. -/
theorem AtLeast.add (ha : a.AtLeast u) (hb : b.AtLeast v) (h : 0 < u + v) :
    (a.add b).AtLeast 1 := by
  cases ha with
  | @finite m hm =>
      cases hb with
      | @finite n hn =>
          have hsum : signed false m + signed false n = ((m + n : Nat) : Int) := rfl
          simp only [Double.add, hsum]
          rw [if_neg (by omega), Int.natAbs_natCast, decide_eq_false (by omega)]
          exact atLeast_ofQuotient (onGrid_of_le_one (Nat.le_refl 1)) Nat.one_pos (by omega)
      | infinite => exact .infinite
  | infinite =>
      cases hb with
      | finite => exact .infinite
      | infinite => exact .infinite

/-- The exponents of lower bounds add up in a product. -/
theorem AtLeast.mul (ha : a.AtLeast (2 ^ i * one)) (hb : b.AtLeast (2 ^ j * one)) :
    (a.mul b).AtLeast (2 ^ (i + j) * one) := by
  have hpos : ∀ e, 0 < 2 ^ e * one := fun e => Nat.mul_pos (Nat.two_pow_pos e) one_pos
  cases ha with
  | @finite u hu =>
      cases hb with
      | @finite v hv =>
          refine atLeast_ofQuotient (onGrid_two_pow _) one_pos ?_
          calc 2 ^ (i + j) * one * one = 2 ^ i * one * (2 ^ j * one) := by ring
            _ ≤ u * v := Nat.mul_le_mul hu hv
      | infinite =>
          rw [Double.mul, if_neg ((hpos i).trans_le hu).ne']
          exact .infinite
  | infinite =>
      cases hb with
      | @finite v hv =>
          rw [Double.mul, if_neg ((hpos j).trans_le hv).ne']
          exact .infinite
      | infinite => exact .infinite

/-- The exponents of upper bounds add up in a product, below the limit. -/
theorem AtMost.mul (hij : i + j < 1024) (ha : a.AtMost (2 ^ i * one))
    (hb : b.AtMost (2 ^ j * one)) : (a.mul b).AtMost (2 ^ (i + j) * one) := by
  obtain @⟨u, hu⟩ := ha
  obtain @⟨v, hv⟩ := hb
  refine atMost_ofQuotient (onGrid_two_pow _) (two_pow_lt_limit hij) one_pos ?_
  calc u * v ≤ 2 ^ i * one * (2 ^ j * one) := Nat.mul_le_mul hu hv
    _ = 2 ^ (i + j) * one * one := by ring

theorem ofNat_one : ofNat 1 = .finite false (2 ^ 0 * one) := by
  rw [ofNat_of_le (by decide), Nat.pow_zero]

/-- The exponent of a lower bound is multiplied in a power. -/
theorem AtLeast.power (h : a.AtLeast (2 ^ k * one)) (n : Nat) :
    (a.power n).AtLeast (2 ^ (k * n) * one) := by
  have hone : (ofNat 1).AtLeast (2 ^ 0 * one) := ofNat_one ▸ .finite (Nat.le_refl _)
  have hpower := powerFrom_of_mul (P := fun i a => a.AtLeast (2 ^ i * one))
    (fun _ _ _ _ => AtLeast.mul) hone h n
  rwa [Nat.zero_add] at hpower

/-- The exponent of an upper bound is multiplied in a power, below the limit. -/
theorem AtMost.power (h : a.AtMost (2 ^ k * one)) (hn : k * n < 1024) :
    (a.power n).AtMost (2 ^ (k * n) * one) := by
  have hone : (ofNat 1).AtMost (2 ^ 0 * one) := ofNat_one ▸ .finite (Nat.le_refl _)
  have hpower := powerFrom_of_mul (P := fun i a => i < 1024 → a.AtMost (2 ^ i * one))
    (fun i j _ _ ha hb hij => (ha (by omega)).mul hij (hb (by omega)))
    (fun _ => hone) (fun _ => h) n
  rw [Nat.zero_add] at hpower
  exact hpower hn

/-- A power of two factors or more is a product, and so finite only below the limit. -/
theorem power_lt_limit (hn : 2 ≤ n) {negative : Bool} (h : a.power n = .finite negative u) :
    u < limit := by
  have hpower := powerFrom_of_mul
    (P := fun i a => 2 ≤ i → ∀ s u, a = .finite s u → u < limit)
    (fun _ _ _ _ _ _ _ _ _ h => (onGrid_mul h).2) (i := 0) (r := ofNat 1) nofun
    (j := 1) (a := a) nofun n
  rw [Nat.zero_add, Nat.one_mul] at hpower
  exact hpower hn _ _ h

/-- A factor of 2^k or more has infinite powers from 1024 doublings on. -/
theorem AtLeast.power_eq_infinite (h : a.AtLeast (2 ^ k * one)) (hk : k < 1024)
    (hn : 1024 ≤ k * n) : a.power n = .infinite false := by
  have hn2 : 2 ≤ n := Nat.lt_of_not_le fun hle => by
    have hkn : k * n ≤ k * 1 := Nat.mul_le_mul_left k hle
    omega
  have hpower := h.power n
  generalize hp : a.power n = p at hpower
  cases hpower with
  | infinite => rfl
  | @finite u hu =>
      have hlarge : limit ≤ 2 ^ (k * n) * one := by
        obtain ⟨e, he, hone⟩ := exists_one_eq
        obtain ⟨l, hl, hlimit⟩ := exists_limit_eq
        rw [hone, hlimit, ← Nat.pow_add]
        exact Nat.pow_le_pow_right Nat.two_pos (by omega)
      have hlimit := power_lt_limit hn2 hp
      omega

end Courier.Double
