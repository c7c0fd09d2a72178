import Courier.Proofs.Text.Digits
import Courier.Proofs.Time.Calendar
import Courier.Proofs.Time.Instant
import Courier.Time.Rfc3339

/-!
# Proofs — Time — Rfc3339

The text of an instant is read back as the instant (`read?_write`), in any year and in leap seconds.
-/

namespace Courier.Time
open Text

variable {n m width : Nat} {s rest : List Char}

/-! ### Fields -/

/-- Digits are read up to the first character that is none, or to the width of the field. -/
theorem digitsWithin?_of_spells (h : Spells n s m) {some? : Bool} (hs : s = [] → some? = true)
    (hw : s.length ≤ width) (hr : s.length < width → Stops rest) :
    digitsWithin? width n some? (s ++ rest) = some (m, rest) := by
  induction h generalizing width some? with
  | nil n =>
      cases width with
      | zero => rw [List.nil_append, digitsWithin?, if_pos (hs rfl)]
      | succ width =>
          cases rest with
          | nil => rw [List.nil_append, digitsWithin?, if_pos (hs rfl)]
          | cons c rest =>
              rw [List.nil_append, digitsWithin?, hr (Nat.succ_pos width) c rfl]
              exact if_pos (hs rfl)
  | @cons n m d c s hd _ ih =>
      cases width with
      | zero => cases hw
      | succ width =>
          rw [List.cons_append, digitsWithin?, hd]
          exact ih (fun _ => rfl) (Nat.le_of_succ_le_succ hw)
            fun hlt => hr (Nat.succ_lt_succ hlt)

theorem dropBlanks_of_spells (h : Spells n s m) (hs : s ≠ []) :
    dropBlanks (s ++ rest) = s ++ rest := by
  obtain ⟨c, d, t, rfl, hd⟩ := h.exists_cons hs
  exact dropBlanks_cons (isBlank_of_digit hd) _

theorem mark?_cons {c : Char} (h : isBlank c = false) (s : List Char) :
    mark? c (c :: s) = some s := by
  rw [mark?, dropBlanks_cons h]
  exact if_pos rfl

/-- A field of full width is read whatever follows it. -/
theorem field?_fixedDigits (hw : 0 < width) (h : n < 10 ^ width) :
    field? width (fixedDigits width n ++ rest) = some (n, rest) := by
  have hspells := spells_fixedDigits width h
  have hlength := length_fixedDigits width n
  have hne : fixedDigits width n ≠ [] := List.ne_nil_of_length_pos (hlength.symm ▸ hw)
  rw [field?, dropBlanks_of_spells hspells hne]
  exact digitsWithin?_of_spells hspells (fun he => absurd he hne) (Nat.le_of_eq hlength)
    fun hlt => absurd hlt (by omega)

/-! ### Years -/

/-- The digits of a year, at least four. -/
theorem spells_year (n : Nat) :
    Spells 0 (List.replicate (4 - (natDigits n).length) '0' ++ natDigits n) n :=
  (Spells.zeros _).append (spells_natDigits n)

/-- Four digits are read as a year. -/
theorem year?_of_spells (h : Spells 0 s n) (hs : s.length = 4) :
    year? (s ++ rest) = some ((n : Int), rest) := by
  have hne : s ≠ [] := List.ne_nil_of_length_pos (by omega)
  have hread : digitsWithin? 4 0 false (s ++ rest) = some (n, rest) :=
    digitsWithin?_of_spells h (fun he => absurd he hne) (Nat.le_of_eq hs)
      fun hlt => absurd hlt (by omega)
  rw [year?, dropBlanks_of_spells h hne]
  obtain ⟨c, d, t, rfl, hd⟩ := h.exists_cons hne
  -- a digit is no sign
  split
  · rename_i heq
    rw [List.cons_append] at heq
    rw [(List.cons.inj heq).1] at hd
    cases hd
  · rename_i heq
    rw [List.cons_append] at heq
    rw [(List.cons.inj heq).1] at hd
    cases hd
  · rw [hread, Option.map_some]

/-- **Any year is read back,** up to what is no digit. -/
theorem year?_yearText (year : Int) (hr : Stops rest) :
    year? (yearText year ++ rest) = some (year, rest) := by
  have hspells := spells_year year.natAbs
  have hne : List.replicate (4 - (natDigits year.natAbs).length) '0' ++ natDigits year.natAbs ≠
      [] := fun he => natDigits_ne_nil _ (List.append_eq_nil_iff.mp he).2
  have hlength : year.natAbs < 10 ^ 4 → (List.replicate (4 - (natDigits year.natAbs).length) '0' ++
      natDigits year.natAbs).length = 4 := by
    intro hlt
    have hle := length_natDigits_le (by decide) hlt
    rw [List.length_append, List.length_replicate]
    omega
  simp only [yearText]
  generalize List.replicate (4 - (natDigits year.natAbs).length) '0' ++ natDigits year.natAbs =
    padded at hspells hne hlength
  have hread : digitsWithin? (padded ++ rest).length 0 false (padded ++ rest) =
      some (year.natAbs, rest) :=
    digitsWithin?_of_spells hspells (fun he => absurd he hne)
      (by rw [List.length_append]; omega) fun _ => hr
  by_cases hneg : year < 0
  · rw [if_pos hneg, List.cons_append, year?, dropBlanks_cons (by decide)]
    simp only [hread, Option.map_some]
    congr 2
    omega
  · by_cases hlarge : 9999 < year
    · rw [if_neg hneg, if_pos hlarge, List.cons_append, year?, dropBlanks_cons (by decide)]
      simp only [hread, Option.map_some]
      congr 2
      omega
    · rw [if_neg hneg, if_neg hlarge, year?_of_spells hspells (hlength (by omega))]
      congr 2
      omega

/-! ### Dates and times -/

/-- A written date is read back. -/
theorem date?_text {d : Date} (hm : d.month < 100) (hd : d.day < 100) :
    date? (d.text ++ rest) = some (d, rest) := by
  simp only [Date.text, List.append_assoc, List.cons_append, date?]
  rw [year?_yearText d.year (stops_cons rfl)]
  simp only [Option.bind_eq_bind, Option.bind_some, mark?_cons (c := '-') (by decide)]
  rw [field?_fixedDigits (by decide) hm]
  simp only [Option.bind_some, mark?_cons (c := '-') (by decide)]
  rw [field?_fixedDigits (by decide) hd]
  rfl

/-- The places of a fraction that are written count as the first of nine. -/
theorem nanos?_fixedDigits (hw : 0 < width) (hle : width ≤ 9) (h : n < 10 ^ width)
    (hr : Stops rest) :
    nanos? (fixedDigits width n ++ rest) = some (n * 10 ^ (9 - width), rest) := by
  have hspells := spells_fixedDigits width h
  have hlength := length_fixedDigits width n
  have hne : fixedDigits width n ≠ [] := List.ne_nil_of_length_pos (hlength.symm ▸ hw)
  rw [nanos?, digitsWithin?_of_spells hspells (fun he => absurd he hne) (hlength.symm ▸ hle)
    fun _ => hr]
  have hdrop : rest.dropWhile (fun c => (digitValue? c).isSome) = rest := by
    cases rest with
    | nil => rfl
    | cons c rest => exact List.dropWhile_cons_of_neg (by simp [hr c rfl])
  simp only [Option.map_some, hdrop, List.length_append, hlength, Nat.add_sub_cancel, Nat.pow_eq]

/-- A fraction has no places, or the fewest that lose nothing. -/
theorem fractionText_cases {nano : Nat} (h : nano < nanosPerSecond) :
    (fractionText nano = [] ∧ nano = 0) ∨ ∃ width n,
      fractionText nano = '.' :: fixedDigits width n ∧ 0 < width ∧ width ≤ 9 ∧ n < 10 ^ width ∧
        n * 10 ^ (9 - width) = nano := by
  have hn : nanosPerSecond = 1000000000 := rfl
  rw [fractionText]
  split
  · rename_i hzero
    exact .inl ⟨rfl, hzero⟩
  · refine .inr ?_
    split
    · exact ⟨3, nano / 1000000, rfl, by decide, by decide, by omega, by omega⟩
    · split
      · exact ⟨6, nano / 1000, rfl, by decide, by decide, by omega, by omega⟩
      · exact ⟨9, nano, rfl, by decide, by decide, by omega, by omega⟩

/-- A written time of day is read back. -/
theorem time?_text {hour minute second nano : Nat} (hh : hour < 100) (hm : minute < 100)
    (hs : second < 100) (hn : nano < nanosPerSecond) :
    time? (fixedDigits 2 hour ++ ':' :: (fixedDigits 2 minute ++ ':' :: (fixedDigits 2 second ++
      (fractionText nano ++ 'Z' :: rest)))) = some ((hour, minute, second, nano), 'Z' :: rest) := by
  rw [time?, field?_fixedDigits (by decide) hh]
  simp only [Option.bind_eq_bind, Option.bind_some, mark?_cons (c := ':') (by decide)]
  rw [field?_fixedDigits (by decide) hm]
  simp only [Option.bind_some, mark?_cons (c := ':') (by decide)]
  rw [field?_fixedDigits (by decide) hs]
  rcases fractionText_cases hn with ⟨htext, rfl⟩ | ⟨width, n, htext, hw, hle, hlt, rfl⟩
  · rw [htext]
    rfl
  · rw [htext]
    simp only [Option.bind_some, List.cons_append,
      nanos?_fixedDigits hw hle hlt (stops_cons (rfl : digitValue? 'Z' = none))]

/-! ### Instants -/

/-- The second of a minute as it is written: the 60th is a leap second. -/
def writtenSecond (t : Instant) : Nat :=
  (t.second % 60).toNat + if nanosPerSecond ≤ t.nano then 1 else 0

/-- The nanoseconds as they are written. -/
def writtenNano (t : Instant) : Nat :=
  if nanosPerSecond ≤ t.nano then t.nano - nanosPerSecond else t.nano

theorem write_eq (t : Instant) :
    write t = t.date.text ++ 'T' :: (fixedDigits 2 (t.secondOfDay / 3600).toNat ++
      ':' :: (fixedDigits 2 (t.secondOfDay / 60 % 60).toNat ++ ':' ::
        (fixedDigits 2 (writtenSecond t) ++ (fractionText (writtenNano t) ++ ['Z'])))) := by
  simp only [write, clockText, writtenSecond, writtenNano, List.append_assoc, List.cons_append]

theorem writtenNano_lt (t : Instant) : writtenNano t < nanosPerSecond := by
  have hvalid := t.valid.2
  rw [writtenNano]
  split <;> omega

/-- The date and the time of an instant lead back to it. -/
theorem instant?_self (t : Instant) :
    instant? t.date (t.secondOfDay / 3600).toNat (t.secondOfDay / 60 % 60).toNat
      (writtenSecond t) (writtenNano t) 0 = some t := by
  have hdays : t.date.toDays = t.second / 86400 := Date.toDays_ofDays _
  have hexists : t.date.exists? = true := Date.exists?_ofDays _
  have hmin : minSecond = -8334601228800 := by decide
  have hmax : maxSecond = 8210266876799 := by decide
  obtain ⟨⟨hlow, hhigh⟩, hleap⟩ := t.valid
  rw [hmin] at hlow
  rw [hmax] at hhigh
  have hvalid : Valid (t.second / 86400 * 86400) 0 :=
    ⟨⟨by rw [hmin]; omega, by rw [hmax]; omega⟩, .inl (by decide)⟩
  rw [instant?, hdays, if_pos]
  · rw [writtenSecond, writtenNano, Instant.secondOfDay]
    by_cases h : nanosPerSecond ≤ t.nano
    · have hlast : t.second % 60 = 59 := by omega
      simp only [if_pos h, hlast, if_pos (show Int.toNat 59 + 1 = 60 from rfl)]
      refine Instant.of?_eq_some_iff.mpr ⟨?_, ?_⟩ <;> omega
    · have hne : (t.second % 60).toNat + 0 ≠ 60 := by omega
      simp only [if_neg h, if_neg hne]
      refine Instant.of?_eq_some_iff.mpr ⟨?_, ?_⟩ <;> omega
  · rw [Instant.secondOfDay, writtenSecond]
    refine ⟨hexists, by omega, by omega, ?_, by omega, hvalid⟩
    split <;> omega

/-- **Every instant is read back from its text.** -/
theorem read?_write (t : Instant) : read? (write t) = some t := by
  have hexists : t.date.exists? = true := Date.exists?_ofDays _
  obtain ⟨hmonth, hday⟩ := Date.lt_hundred hexists
  have hsecond : writtenSecond t < 100 := by
    rw [writtenSecond]
    split <;> omega
  have hclock : (t.secondOfDay / 3600).toNat < 100 ∧ (t.secondOfDay / 60 % 60).toNat < 100 := by
    rw [Instant.secondOfDay]
    omega
  rw [write_eq, read?, date?_text hmonth hday]
  simp only [Option.bind_eq_bind, Option.bind_some]
  rw [if_pos (.inl trivial)]
  simp only [Option.bind_some,
    time?_text hclock.1 hclock.2 hsecond (writtenNano_lt t)]
  exact instant?_self t

end Courier.Time
