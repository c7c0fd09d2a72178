import Mathlib.Data.List.Basic
import Courier.Order

/-!
# Proofs — Order

`sortBy` only moves elements: its result is a permutation of the list (`sortBy_perm`), and a list
that is in order stays as it is (`sortBy_eq_self`).  Where the order is total, the result is in
order, and equal elements stand as they stood (`pairwise_sortBy`).  What the elements carry along
makes no difference (`map_sortBy`).
-/

namespace Courier

/-- An element is inserted, and nothing else is changed. -/
theorem insertBy_perm {α : Type} (le : α → α → Bool) (a : α) (l : List α) :
    (insertBy le a l).Perm (a :: l) := by
  induction l with
  | nil => exact .refl _
  | cons b rest ih =>
      by_cases h : le a b = true
      · rw [insertBy, if_pos h]
      · rw [insertBy, if_neg h]
        exact (ih.cons b).trans (.swap a b rest)

/-- A list is sorted without loss or addition. -/
theorem sortBy_perm {α : Type} (le : α → α → Bool) (l : List α) : (sortBy le l).Perm l := by
  induction l with
  | nil => exact .refl _
  | cons a rest ih => exact (insertBy_perm le a _).trans (ih.cons a)

/-- What is in order stays as it is. -/
theorem sortBy_eq_self {α : Type} {le : α → α → Bool} {l : List α}
    (h : l.Pairwise fun a b => le a b = true) : sortBy le l = l := by
  induction l with
  | nil => rfl
  | cons a rest ih =>
      obtain ⟨ha, hrest⟩ := List.pairwise_cons.mp h
      rw [sortBy, ih hrest]
      cases rest with
      | nil => rfl
      | cons b rest => rw [insertBy, if_pos (ha b List.mem_cons_self)]

/-- An element comes to stand before those equal to it that it stood before. -/
theorem pairwise_insertBy {α : Type} {le : α → α → Bool} {r : α → α → Prop}
    (htotal : ∀ a b, le a b = true ∨ le b a = true)
    (htrans : ∀ {a b c}, le a b = true → le b c = true → le a c = true) {a : α} {l : List α}
    (ha : ∀ b ∈ l, r a b) (hl : l.Pairwise fun a b => le a b = true ∧ (le b a = true → r a b)) :
    (insertBy le a l).Pairwise fun a b => le a b = true ∧ (le b a = true → r a b) := by
  induction l with
  | nil => exact List.pairwise_singleton _ a
  | cons b rest ih =>
      obtain ⟨hb, hrest⟩ := List.pairwise_cons.mp hl
      by_cases h : le a b = true
      · rw [insertBy, if_pos h]
        refine List.pairwise_cons.mpr ⟨fun c hc => ⟨?_, fun _ => ha c hc⟩, hl⟩
        rcases List.mem_cons.mp hc with rfl | hc
        · exact h
        · exact htrans h (hb c hc).1
      · rw [insertBy, if_neg h]
        refine List.pairwise_cons.mpr
          ⟨fun c hc => ?_, ih (fun c hc => ha c (List.mem_cons_of_mem b hc)) hrest⟩
        rcases List.mem_cons.mp ((insertBy_perm le a rest).mem_iff.mp hc) with rfl | hc
        · exact ⟨(htotal c b).resolve_left h, fun hle => absurd hle h⟩
        · exact hb c hc

/-- A sorted list is in order, and what ranks the same stays in the order that it had. -/
theorem pairwise_sortBy {α : Type} {le : α → α → Bool} {r : α → α → Prop}
    (htotal : ∀ a b, le a b = true ∨ le b a = true)
    (htrans : ∀ {a b c}, le a b = true → le b c = true → le a c = true) {l : List α}
    (hl : l.Pairwise r) :
    (sortBy le l).Pairwise fun a b => le a b = true ∧ (le b a = true → r a b) := by
  induction l with
  | nil => exact .nil
  | cons a rest ih =>
      obtain ⟨ha, hrest⟩ := List.pairwise_cons.mp hl
      exact pairwise_insertBy htotal htrans
        (fun b hb => ha b ((sortBy_perm le rest).mem_iff.mp hb)) (ih hrest)

/-- Elements are sorted alike by what they are compared by. -/
theorem map_insertBy {α β : Type} {le : α → α → Bool} {le' : β → β → Bool} {f : α → β}
    (h : ∀ a b, le a b = le' (f a) (f b)) (a : α) (l : List α) :
    (insertBy le a l).map f = insertBy le' (f a) (l.map f) := by
  induction l with
  | nil => rfl
  | cons b rest ih =>
      rw [List.map_cons, insertBy, insertBy, h]
      split
      · rfl
      · rw [List.map_cons, ih]

/-- To sort and to map commute, where the map keeps the comparison. -/
theorem map_sortBy {α β : Type} {le : α → α → Bool} {le' : β → β → Bool} {f : α → β}
    (h : ∀ a b, le a b = le' (f a) (f b)) (l : List α) :
    (sortBy le l).map f = sortBy le' (l.map f) := by
  induction l with
  | nil => rfl
  | cons a rest ih => rw [List.map_cons, sortBy, sortBy, map_insertBy h, ih]

/-- What is left out of a start comes after all that is in it. -/
theorem rel_of_mem_take {α : Type} {r : α → α → Prop} {l : List α} (h : l.Pairwise r) {n : Nat}
    {x y : α} (hx : x ∈ l.take n) (hy : y ∈ l) (hleft : y ∉ l.take n) : r x y := by
  rw [← List.take_append_drop n l] at h hy
  obtain ⟨-, -, hcross⟩ := List.pairwise_append.mp h
  exact hcross x hx y ((List.mem_append.mp hy).resolve_left hleft)

/-- The elements that are picked out with their places. -/
theorem map_fst_filter_zipIdx {α : Type} (p : α → Bool) (l : List α) :
    (l.zipIdx.filter fun entry => p entry.1).map (·.1) = l.filter p := by
  rw [← List.zipIdx_map_fst 0 l, List.filter_map, List.zipIdx_map_fst]
  rfl

/-- What fails for good from some element on holds exactly of the elements before it. -/
theorem filter_eq_take_countP {α : Type} {p : α → Bool} {l : List α}
    (h : l.Pairwise fun a b => p b = true → p a = true) : l.filter p = l.take (l.countP p) := by
  induction l with
  | nil => rfl
  | cons a rest ih =>
      obtain ⟨ha, hrest⟩ := List.pairwise_cons.mp h
      cases hp : p a with
      | true => simp [hp, ih hrest]
      | false =>
          have hnone : ∀ b ∈ rest, ¬p b = true := fun b hb hpb => by simp [ha b hb hpb] at hp
          have hzero : rest.countP p = 0 := List.countP_eq_zero.mpr hnone
          simp [hp, hzero, List.filter_eq_nil_iff.mpr hnone]

end Courier
