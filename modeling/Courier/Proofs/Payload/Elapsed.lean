import Courier.Payload.Elapsed
import Courier.Proofs.Text.Digits

/-!
# Proofs — Payload — Elapsed

How the length of an event is written: in parts that say how many days, hours and minutes it had,
or in seconds if it was over within a minute.

* `WrittenParts`: the form of the text, from which its parts can be told (`WrittenParts.unique`).
* `PartsOf`: the parts that stand for a number of seconds.
* `duration_tells_minutes`: a duration is written so, and of two that are told apart the texts are
  different.
-/

namespace Courier

open Text

/-- The seconds in a unit. -/
def unitSeconds : Char → Nat
  | 'd' => 86400
  | 'h' => 3600
  | 'm' => 60
  | _ => 1

/-- What parts with their units add up to. -/
def totalSeconds (parts : List (Nat × Char)) : Nat :=
  (parts.map fun part => part.1 * unitSeconds part.2).sum

/-- What is told of a number of seconds: from a minute on, the whole minutes. -/
def toldSeconds (t : Nat) : Nat := if t < 60 then t else t - t % 60

/-- The text consists of parts with a space between two, each of them a number in decimal and a unit
after it. -/
inductive WrittenParts : List (Nat × Char) → List Char → Prop where
  | last {n : Nat} {unit : Char} {digits : List Char} (hn : Canonical n digits)
      (hunit : digitValue? unit = none) : WrittenParts [(n, unit)] (digits ++ [unit])
  | more {n : Nat} {unit : Char} {digits text : List Char} {parts : List (Nat × Char)}
      (hn : Canonical n digits) (hunit : digitValue? unit = none) (ht : WrittenParts parts text) :
      WrittenParts ((n, unit) :: parts) (digits ++ unit :: ' ' :: text)

/-- The parts stand for a number of seconds. -/
structure PartsOf (t : Nat) (parts : List (Nat × Char)) : Prop where
  /-- Below a minute the seconds are all there is. -/
  seconds : t < 60 → parts = [(t, 's')]
  order : 60 ≤ t → (parts.map Prod.snd).Sublist ['d', 'h', 'm']
  ne_zero : ∀ part ∈ parts, part.1 = 0 → parts = [(0, 's')]
  hours : ∀ n, (n, 'h') ∈ parts → n < 24
  minutes : ∀ n, (n, 'm') ∈ parts → n < 60
  total : totalSeconds parts = toldSeconds t

/-! ### The text -/

/-- The parts can be told from the text. -/
theorem WrittenParts.unique {parts parts' : List (Nat × Char)} {s s' : List Char}
    (h : WrittenParts parts s) (h' : WrittenParts parts' s') (heq : s = s') : parts = parts' := by
  induction h generalizing parts' s' with
  | last hn hunit =>
      cases h' with
      | last hn' hunit' =>
          obtain ⟨rfl, hrest⟩ :=
            hn.spells.unique hn'.spells (stops_cons hunit) (stops_cons hunit') heq
          rw [(List.cons.inj hrest).1]
      | more hn' hunit' =>
          obtain ⟨-, hrest⟩ :=
            hn.spells.unique hn'.spells (stops_cons hunit) (stops_cons hunit') heq
          cases hrest
  | more hn hunit _ ih =>
      cases h' with
      | last hn' hunit' =>
          obtain ⟨-, hrest⟩ :=
            hn.spells.unique hn'.spells (stops_cons hunit) (stops_cons hunit') heq
          cases hrest
      | more hn' hunit' ht' =>
          obtain ⟨rfl, hrest⟩ :=
            hn.spells.unique hn'.spells (stops_cons hunit) (stops_cons hunit') heq
          obtain ⟨rfl, htext⟩ := List.cons.inj hrest
          rw [ih ht' (List.cons.inj htext).2]

/-- The text of parts consists of them. -/
theorem written_partsText {parts : List (Nat × Char)} (hne : parts ≠ [])
    (h : ∀ part ∈ parts, digitValue? part.2 = none) : WrittenParts parts (partsText parts) := by
  induction parts with
  | nil => exact absurd rfl hne
  | cons part rest ih =>
      obtain ⟨hpart, hrest⟩ := List.forall_mem_cons.mp h
      cases rest with
      | nil => exact .last (canonical_natDigits _) hpart
      | cons next rest =>
          exact .more (canonical_natDigits _) hpart (ih (List.cons_ne_nil _ _) hrest)

/-! ### The parts -/

/-- The parts that a duration is written in. -/
def shownParts (t : Nat) : List (Nat × Char) :=
  if (durationParts t).isEmpty then [(t % 60, 's')] else durationParts t

/-- A duration is written as the text of its parts. -/
theorem toList_formatDuration (s : Int) :
    (formatDuration s).toList = partsText (shownParts s.toNat) := by
  simp only [formatDuration, String.toList_ofList, shownParts]

/-- The parts of a duration are its days, hours and minutes, as far as they are not zero. -/
theorem mem_durationParts {t : Nat} {part : Nat × Char} (h : part ∈ durationParts t) :
    part.1 ≠ 0 ∧ (part = (t / 86400, 'd') ∨ part = (t % 86400 / 3600, 'h') ∨
      part = (t % 3600 / 60, 'm')) := by
  obtain ⟨hmem, hne⟩ := List.mem_filter.mp h
  refine ⟨by simpa using hne, ?_⟩
  simpa using hmem

/-- Parts that are zero add nothing. -/
theorem totalSeconds_filter (parts : List (Nat × Char)) :
    totalSeconds (parts.filter fun part => part.1 ≠ 0) = totalSeconds parts := by
  induction parts with
  | nil => rfl
  | cons part rest ih =>
      rw [List.filter_cons]
      split
      · simp only [totalSeconds, List.map_cons, List.sum_cons] at ih ⊢
        rw [ih]
      · next hzero =>
        have hpart : part.1 = 0 := by simpa using hzero
        rw [ih]
        simp only [totalSeconds, List.map_cons, List.sum_cons, hpart, Nat.zero_mul, Nat.zero_add]

/-- Days, hours and minutes leave out the seconds alone. -/
theorem totalSeconds_durationParts (t : Nat) : totalSeconds (durationParts t) = t - t % 60 := by
  rw [durationParts, totalSeconds_filter]
  simp only [totalSeconds, unitSeconds, List.map_cons, List.map_nil, List.sum_cons, List.sum_nil]
  omega

/-- There are no days, hours or minutes exactly below a minute. -/
theorem durationParts_eq_nil_iff {t : Nat} : durationParts t = [] ↔ t < 60 := by
  constructor
  · intro h
    have htotal := totalSeconds_durationParts t
    rw [h] at htotal
    have hnone : totalSeconds [] = 0 := rfl
    omega
  · intro h
    refine List.eq_nil_iff_forall_not_mem.mpr fun part hpart => ?_
    obtain ⟨hne, rfl | rfl | rfl⟩ := mem_durationParts hpart
    all_goals
      dsimp only at hne
      omega

theorem shownParts_of_lt {t : Nat} (h : t < 60) : shownParts t = [(t, 's')] := by
  rw [shownParts, durationParts_eq_nil_iff.mpr h, Nat.mod_eq_of_lt h]
  rfl

theorem shownParts_of_le {t : Nat} (h : 60 ≤ t) : shownParts t = durationParts t := by
  have hne : durationParts t ≠ [] := mt durationParts_eq_nil_iff.mp (Nat.not_lt.mpr h)
  rw [shownParts, if_neg (by simpa using hne)]

/-- Below a minute the seconds stand for the duration. -/
theorem partsOf_seconds {t : Nat} (h : t < 60) : PartsOf t [(t, 's')] where
  seconds _ := rfl
  order hle := absurd h (Nat.not_lt.mpr hle)
  ne_zero part hpart hzero := by
    rw [List.mem_singleton.mp hpart] at hzero
    have hnone : t = 0 := hzero
    rw [hnone]
  hours n hn := by cases List.mem_singleton.mp hn
  minutes n hn := by cases List.mem_singleton.mp hn
  total := by
    rw [toldSeconds, if_pos h]
    simp [totalSeconds, unitSeconds]

/-- From a minute on days, hours and minutes stand for the duration. -/
theorem partsOf_durationParts {t : Nat} (h : 60 ≤ t) : PartsOf t (durationParts t) where
  seconds hlt := absurd hlt (Nat.not_lt.mpr h)
  order _ := List.filter_sublist.map Prod.snd
  ne_zero part hpart hzero := absurd hzero (mem_durationParts hpart).1
  hours n hn := by
    obtain ⟨-, he | he | he⟩ := mem_durationParts hn <;> cases he
    omega
  minutes n hn := by
    obtain ⟨-, he | he | he⟩ := mem_durationParts hn <;> cases he
    omega
  total := by rw [totalSeconds_durationParts, toldSeconds, if_neg (Nat.not_lt.mpr h)]

/-- The parts that are shown stand for the duration. -/
theorem partsOf_shownParts (t : Nat) : PartsOf t (shownParts t) := by
  rcases Nat.lt_or_ge t 60 with h | h
  · rw [shownParts_of_lt h]
    exact partsOf_seconds h
  · rw [shownParts_of_le h]
    exact partsOf_durationParts h

/-- The parts show no more than is told. -/
theorem shownParts_congr {t t' : Nat} (h : toldSeconds t = toldSeconds t') :
    shownParts t = shownParts t' := by
  rw [toldSeconds, toldSeconds] at h
  split at h
  · next hlt =>
    split at h
    · rw [h]
    · omega
  · next hge =>
    split at h
    · omega
    · next hge' =>
      have hminutes : t / 60 = t' / 60 := by omega
      have hd : t / 86400 = t' / 86400 := by omega
      have hh : t % 86400 / 3600 = t' % 86400 / 3600 := by omega
      have hm : t % 3600 / 60 = t' % 3600 / 60 := by omega
      rw [shownParts_of_le (Nat.not_lt.mp hge), shownParts_of_le (Nat.not_lt.mp hge'),
        durationParts, durationParts, hd, hh, hm]

/-- A duration is written in the parts that are shown. -/
theorem written_formatDuration (s : Int) :
    WrittenParts (shownParts s.toNat) (formatDuration s).toList := by
  rw [toList_formatDuration]
  rcases Nat.lt_or_ge s.toNat 60 with h | h
  · rw [shownParts_of_lt h]
    exact written_partsText (List.cons_ne_nil _ _) (List.forall_mem_singleton.mpr rfl)
  · rw [shownParts_of_le h]
    refine written_partsText (mt durationParts_eq_nil_iff.mp (Nat.not_lt.mpr h)) fun part hpart => ?_
    obtain ⟨-, rfl | rfl | rfl⟩ := mem_durationParts hpart <;> rfl

/-- **A duration is written in parts that add up to what is told of it**: to its whole minutes, or to
its seconds below a minute, where a negative duration counts as none.  Two durations are written
alike exactly if the same is told of them. -/
theorem duration_tells_minutes (s : Int) :
    (∃ parts, WrittenParts parts (formatDuration s).toList ∧ PartsOf s.toNat parts) ∧
      ∀ s' : Int, formatDuration s = formatDuration s' ↔
        toldSeconds s.toNat = toldSeconds s'.toNat := by
  refine ⟨⟨_, written_formatDuration s, partsOf_shownParts s.toNat⟩, fun s' => ⟨fun h => ?_,
    fun h => ?_⟩⟩
  · have hparts := (written_formatDuration s).unique (written_formatDuration s')
      (congrArg String.toList h)
    rw [← (partsOf_shownParts s.toNat).total, hparts, (partsOf_shownParts s'.toNat).total]
  · rw [← String.toList_inj, toList_formatDuration, toList_formatDuration, shownParts_congr h]

example : formatDuration 90061 = "1d 1h 1m" := by decide +kernel

end Courier
