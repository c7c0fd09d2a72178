import Mathlib.Data.List.Basic
import Courier.Registry

/-!
# Proofs — Registry

Which sender serves a kind of channel: the last one that was registered for it (`isLast_of_sender?`), and
none exactly where none was registered (`sender?_eq_none_iff`).
-/

namespace Courier

namespace Registry

/-- The place is that of the last sender of the kind. -/
def IsLast (t : ChannelType) (types : List ChannelType) (place : Nat) : Prop :=
  types[place]? = some t ∧ ∀ later, place < later → types[later]? ≠ some t

theorem lastFrom_eq_none_iff {t : ChannelType} {place : Nat} {types : List ChannelType} :
    lastFrom t place types = none ↔ t ∉ types := by
  induction types generalizing place with
  | nil => simp [lastFrom]
  | cons first rest ih =>
      by_cases h : first = t
      · simp [lastFrom, h]
      · simp [lastFrom, h, ih, Ne.symm h]

/-- A kind of channel is served exactly if a sender of the kind is registered. -/
theorem sender?_eq_none_iff {r : Registry} {t : ChannelType} : r.sender? t = none ↔ t ∉ r.types :=
  lastFrom_eq_none_iff

theorem IsLast.cons {t first : ChannelType} {rest : List ChannelType} {i : Nat}
    (h : IsLast t rest i) : IsLast t (first :: rest) (i + 1) := by
  refine ⟨h.1, fun later hlater => ?_⟩
  cases later with
  | zero => omega
  | succ k => exact h.2 k (by omega)

/-- Where no other sender of the kind follows, the first one is the last. -/
theorem isLast_head {t : ChannelType} {rest : List ChannelType} (h : t ∉ rest) :
    IsLast t (t :: rest) 0 := by
  refine ⟨rfl, fun later hlater hk => ?_⟩
  cases later with
  | zero => omega
  | succ k => exact h (List.mem_of_getElem? hk)

/-- The place looked up is that of the last sender of the type. -/
theorem exists_isLast_of_lastFrom {t : ChannelType} {start place : Nat}
    {types : List ChannelType} (h : lastFrom t start types = some place) :
    ∃ i, place = start + i ∧ IsLast t types i := by
  induction types generalizing start with
  | nil => exact nomatch h
  | cons first rest ih =>
      rw [lastFrom, Option.or_eq_some_iff] at h
      rcases h with h | ⟨hnone, h⟩
      · obtain ⟨i, hi, hlast⟩ := ih h
        exact ⟨i + 1, by omega, hlast.cons⟩
      · obtain ⟨rfl, hstart⟩ := Option.ite_none_right_eq_some.mp h
        exact ⟨0, (Option.some.inj hstart).symm, isLast_head (lastFrom_eq_none_iff.mp hnone)⟩

/-- **A kind of channel is served by the last sender that was registered for it.** -/
theorem isLast_of_sender? {r : Registry} {t : ChannelType} {place : Nat}
    (h : r.sender? t = some place) : IsLast t r.types place := by
  obtain ⟨i, hi, hlast⟩ := exists_isLast_of_lastFrom h
  rw [Nat.zero_add] at hi
  exact hi ▸ hlast

end Registry

end Courier
