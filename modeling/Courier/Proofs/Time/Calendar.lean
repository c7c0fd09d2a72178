import Courier.Time.Calendar

/-!
# Proofs — Time — Calendar

Days and dates.  The date that `ofDays` makes of a day is one of the calendar (`exists?_ofDays`), and
`toDays` leads from it back to the day (`toDays_ofDays`).  The year of an era comes from a quotient
that grows with the day, so that the ends of the 400 years decide it (`yearOfEra_bounds`).
-/

namespace Courier.Time.Date

/-- The year of an era that a day of the era lies in. -/
def yearOfEra (day : Int) : Int := (day - day / 1460 + day / 36524 - day / 146096) / 365

theorem yearOfEra_mono {a b : Int} (h : a ≤ b) : yearOfEra a ≤ yearOfEra b := by
  have hera : ∀ n : Int, n / 146096 = n / 36524 / 4 := fun n => by omega
  have hslow : ∀ {k l : Int}, k ≤ l → l / 1460 - k / 1460 ≤ l - k ∧ l / 4 - k / 4 ≤ l - k :=
    fun hkl => by omega
  have hcentury := (hslow (Int.ediv_le_ediv (c := 36524) (by decide) h)).2
  have hdays := (hslow h).1
  refine Int.ediv_le_ediv (by decide) ?_
  rw [hera, hera]
  omega

/-- The first and the last day of each year of an era. -/
theorem yearOfEra_ends : ∀ y < 400, yearOfEra (daysBeforeYear (y : Nat)) = y ∧
    yearOfEra (daysBeforeYear (y + 1) - 1) = y := by
  decide +kernel

/-- The day of the year: the 366th only of the years before which the leap day comes. -/
theorem yearOfEra_bounds {day : Int} (h0 : 0 ≤ day) (h1 : day < 146097) :
    (0 ≤ yearOfEra day ∧ yearOfEra day < 400) ∧ daysBeforeYear (yearOfEra day) ≤ day ∧
      (day < daysBeforeYear (yearOfEra day + 1) ∨ yearOfEra day = 399) := by
  have hfirst : yearOfEra 0 = 0 := by decide
  have hlast : yearOfEra 146096 = 399 := by decide
  have hlo := yearOfEra_mono h0
  have hhi := yearOfEra_mono (Int.le_sub_one_of_lt h1)
  obtain ⟨y, hy⟩ := Int.eq_ofNat_of_zero_le (hfirst ▸ hlo)
  change yearOfEra day ≤ yearOfEra 146096 at hhi
  rw [hlast, hy] at hhi
  rw [hy]
  refine ⟨by omega, Int.not_lt.mp fun hlt => ?_, ?_⟩
  · -- a day before the first one lies in the year before
    cases y with
    | zero => simp [daysBeforeYear] at hlt; omega
    | succ y =>
        have hbefore := yearOfEra_mono (Int.le_sub_one_of_lt hlt)
        rw [Int.natCast_succ, (yearOfEra_ends y (by omega)).2] at hbefore
        omega
  · rcases Int.lt_or_le day (daysBeforeYear (y + 1)) with hlt | hle
    · exact .inl hlt
    · -- a day after the last one lies in the year after, if the era has one
      refine .inr (Int.le_antisymm hhi (Int.not_lt.mp fun hlt => ?_))
      have hafter := yearOfEra_mono hle
      rw [hy, ← Int.natCast_succ, (yearOfEra_ends (y + 1) (by omega)).1] at hafter
      omega

/-- The month that a day of the year lies in, and how far it is from the first of the month. -/
theorem month_bounds {day month : Int} (h0 : 0 ≤ day) (h1 : day ≤ 365)
    (hm : month = (5 * day + 2) / 153) :
    (0 ≤ month ∧ month ≤ 11) ∧ daysBeforeMonth month ≤ day ∧ day < daysBeforeMonth (month + 1) := by
  unfold daysBeforeMonth
  omega

/-- The parts from which a date is made. -/
theorem ofDays_eq (days : Int) : ∃ era year day month : Int,
    days = era * 146097 + daysBeforeYear year + day - 719468 ∧ (0 ≤ year ∧ year < 400) ∧
      (0 ≤ day ∧ day ≤ 365) ∧ (day = 365 → isLeap (year + era * 400 + 1) = true) ∧
      month = (5 * day + 2) / 153 ∧
      ofDays days = ⟨if month < 10 then year + era * 400 else year + era * 400 + 1,
        (if month < 10 then month + 3 else month - 9).toNat,
        (day - daysBeforeMonth month + 1).toNat⟩ := by
  have hday := Int.emod_nonneg (days + 719468) (b := 146097) (by decide)
  have hlt := Int.emod_lt_of_pos (days + 719468) (b := 146097) (by decide)
  have hera := Int.mul_ediv_add_emod (days + 719468) 146097
  obtain ⟨hyear, hfirst, hlast⟩ := yearOfEra_bounds hday hlt
  refine ⟨(days + 719468) / 146097, yearOfEra ((days + 719468) % 146097),
    (days + 719468) % 146097 - daysBeforeYear (yearOfEra ((days + 719468) % 146097)), _, ?_, hyear,
    ?_, ?_, rfl, rfl⟩
  · omega
  -- of the year only its bounds matter from here on
  all_goals
    generalize yearOfEra ((days + 719468) % 146097) = year at hyear hfirst hlast ⊢
    generalize (days + 719468) % 146097 = day at hday hlt hfirst hlast ⊢
    generalize (days + 719468) / 146097 = era
    simp only [daysBeforeYear] at hfirst hlast ⊢
  · omega
  · -- a 366th day is left over only before the leap day of the year after
    intro hleap
    simp only [isLeap, Bool.and_eq_true, Bool.or_eq_true, beq_iff_eq, bne_iff_ne]
    rcases hlast with hlast | rfl
    · have hcentury : year / 100 ≤ (year + 1) / 100 := by omega
      have hfourth : (year + 1) / 4 ≤ year / 4 + 1 := by omega
      have hfour : (year + 1) % 4 = 0 := by omega
      have hnot : (year + 1) % 100 ≠ 0 := by omega
      exact ⟨by omega, .inl (by omega)⟩
    · exact ⟨by omega, .inr (by omega)⟩

/-- **The date of a day leads back to the day.** -/
theorem toDays_ofDays (days : Int) : (ofDays days).toDays = days := by
  obtain ⟨era, year, day, month, hdays, hyear, hday, -, hmonth, heq⟩ := ofDays_eq days
  obtain ⟨hmonths, hfirst, hlast⟩ := month_bounds hday.1 hday.2 hmonth
  rw [heq, toDays]
  by_cases hm : month < 10
  · simp only [if_pos hm]
    rw [if_neg (by omega), if_neg (by omega)]
    have hera : (year + era * 400) / 400 = era := by omega
    have hof : (year + era * 400) % 400 = year := by omega
    have hback : (((month + 3).toNat : Int) - 3) = month := by omega
    rw [hera, hof, hback]
    omega
  · simp only [if_neg hm]
    rw [if_pos (by omega), if_pos (by omega)]
    have hera : (year + era * 400 + 1 - 1) / 400 = era := by omega
    have hof : (year + era * 400 + 1 - 1) % 400 = year := by omega
    have hback : (((month - 9).toNat : Int) + 9) = month := by omega
    rw [hera, hof, hback]
    omega

/-- **The calendar has the date of every day.** -/
theorem exists?_ofDays (days : Int) : (ofDays days).exists? = true := by
  obtain ⟨era, year, day, month, -, -, hday, hleap, hmonth, heq⟩ := ofDays_eq days
  obtain ⟨hmonths, hfirst, hlast⟩ := month_bounds hday.1 hday.2 hmonth
  rw [heq]
  simp only [exists?, daysIn, Bool.and_eq_true, decide_eq_true_eq]
  simp only [daysBeforeMonth] at hfirst hlast
  by_cases hm : month < 10
  · simp only [if_pos hm, daysBeforeMonth]
    refine ⟨⟨⟨by omega, by omega⟩, by omega⟩, ?_⟩
    split <;> split <;> omega
  · simp only [if_neg hm, daysBeforeMonth]
    refine ⟨⟨⟨by omega, by omega⟩, by omega⟩, ?_⟩
    by_cases hday' : day = 365
    · have hyear : isLeap (year + era * 400 + 1) = true := hleap hday'
      rw [hyear, if_pos (by omega), if_pos rfl]
      omega
    · split
      · split <;> omega
      · split <;> omega

theorem lt_hundred {d : Date} (h : d.exists? = true) : d.month < 100 ∧ d.day < 100 := by
  simp only [exists?, Bool.and_eq_true, decide_eq_true_eq] at h
  have hday : daysIn d.year d.month ≤ 31 := by
    rw [daysIn]
    split
    · split <;> omega
    · split <;> omega
  omega

end Courier.Time.Date
