import Mathlib.Data.List.Perm.Subperm
import Courier.Proofs.Queue.History

/-!
# Proofs — Queue — Count

How many rows stand in `processing` under an identifier, whether or not identifiers are distinct.

* `heldUnder_claimDue_le`: a claim adds no more of them than it hands out under the identifier.
* `heldUnder_change`: a report takes one of them away.
* `Operation.heldUnder_apply_le`: nothing but a claim adds any.
-/

namespace Courier

section

variable {α : Type} {p q r : α → Bool}

theorem countP_le_add {l : List α} (h : ∀ a ∈ l, p a = true → q a = true ∨ r a = true) :
    l.countP p ≤ l.countP q + l.countP r := by
  induction l with
  | nil => exact Nat.le_refl 0
  | cons a rest ih =>
      have hrest := ih fun b hb => h b (List.mem_cons_of_mem a hb)
      by_cases hp : p a = true
      · rw [List.countP_cons_of_pos hp]
        rcases h a List.mem_cons_self hp with hq | hr
        · rw [List.countP_cons_of_pos hq, List.countP_cons]
          omega
        · rw [List.countP_cons_of_pos hr, List.countP_cons]
          omega
      · rw [List.countP_cons_of_neg hp, List.countP_cons, List.countP_cons]
        omega

/-- Where each element that is picked out replaces one that was, no more are picked out. -/
theorem countP_le_of_forall₂ {R : α → α → Prop} (hr : ∀ a b, R a b → p b = true → p a = true)
    {l l' : List α} (h : List.Forall₂ R l l') : l'.countP p ≤ l.countP p := by
  induction h with
  | nil => exact Nat.le_refl 0
  | @cons a b _ _ hab _ ih =>
      by_cases hb : p b = true
      · rw [List.countP_cons_of_pos hb, List.countP_cons_of_pos (hr a b hab hb)]
        exact Nat.add_le_add_right ih 1
      · rw [List.countP_cons_of_neg hb, List.countP_cons]
        exact Nat.le_trans ih (Nat.le_add_right _ _)

end

namespace Store

/-- How many rows stand in `processing` under the identifier. -/
def heldUnder (id : Uuid) (s : Store) : Nat := s.items.countP (·.isIn id .processing)

/-- A report takes one row away, if there is one. -/
theorem heldUnder_change {f : QueueItem → QueueItem} (hf : ∀ row, (f row).status ≠ .processing)
    (id : Uuid) (s : Store) :
    (s.change id .processing f).heldUnder id = s.heldUnder id - 1 := by
  show (changeFirst _ f s.items).countP _ = s.items.countP _ - 1
  induction s.items with
  | nil => rfl
  | cons row rest ih =>
      by_cases h : row.isIn id .processing = true
      · have hnot : ¬(f row).isIn id .processing = true := fun hin => hf row (isIn_iff.mp hin).2
        rw [changeFirst, if_pos h, List.countP_cons_of_neg hnot, List.countP_cons_of_pos h,
          Nat.add_sub_cancel]
      · rw [changeFirst, if_neg h, List.countP_cons_of_neg h, List.countP_cons_of_neg h, ih]

/-- It adds none under another identifier. -/
theorem heldUnder_change_le {f : QueueItem → QueueItem} (hf : KeepsId f) {id k : Uuid} (hk : k ≠ id)
    (s : Store) : (s.change id .processing f).heldUnder k ≤ s.heldUnder k := by
  refine countP_le_of_forall₂ (fun _ _ h => h) (Operation.forall₂_changeFirst
    (R := fun row row' => row'.isIn k .processing = true → row.isIn k .processing = true)
    (fun _ h => h) (fun row hid _ hin => ?_) s.items)
  exact absurd ((isIn_iff.mp hin).1.symm.trans ((hf row).trans hid)) hk

/-- A claim adds no more rows than it hands out under the identifier. -/
theorem heldUnder_claimDue_le (now : Instant) (limit : UInt32) (s : Store) (id : Uuid) :
    (s.claimDue now limit).heldUnder id ≤
      s.heldUnder id + (s.claimed now limit).countP (·.id = id) := by
  let places := (s.claimable now limit).map (·.2)
  let taken : QueueItem × Nat → Bool := fun entry => decide (entry.2 ∈ places)
  -- what is handed out has each place once, so the rows at these places are no more than that
  have hplaces : (s.items.zipIdx.filter taken).Subperm (s.claimable now limit) := by
    refine List.subperm_of_subset ?_ fun entry he => ?_
    · have hnodup : (s.items.zipIdx.map (·.2)).Nodup := by
        rw [List.zipIdx_map_snd]
        exact List.nodup_range'
      exact (List.Nodup.of_map _ hnodup).filter _
    · obtain ⟨hin, htaken⟩ := List.mem_filter.mp he
      obtain ⟨other, hother, hplace⟩ := List.mem_map.mp (of_decide_eq_true htaken)
      obtain ⟨hrow, -⟩ := mem_claimable hother
      rw [hplace, List.mk_mem_zipIdx_iff_getElem?.mp hin] at hrow
      rwa [Prod.ext (Option.some.inj hrow) hplace.symm]
  have hclaimed : (s.items.zipIdx.filter taken).countP (fun entry => entry.1.id = id) ≤
      (s.claimed now limit).countP (·.id = id) := by
    rw [claimed, List.countP_map]
    exact hplaces.countP_le _
  have hleft : s.items.zipIdx.countP (fun entry => entry.1.isIn id .processing) =
      s.heldUnder id := by
    rw [heldUnder, ← List.zipIdx_map_fst 0 s.items, List.countP_map, List.zipIdx_map_fst]
    rfl
  rw [List.countP_filter] at hclaimed
  show (s.items.zipIdx.map _).countP _ ≤ _
  rw [List.countP_map, ← hleft]
  refine Nat.le_trans (countP_le_add fun entry _ he => ?_) (Nat.add_le_add_left hclaimed _)
  by_cases h : entry.2 ∈ places
  · refine .inr (Bool.and_eq_true_iff.mpr ⟨decide_eq_true ?_, decide_eq_true h⟩)
    simp only [Function.comp, places, h] at he
    exact (isIn_iff.mp he).1
  · refine .inl ?_
    simp only [Function.comp, places, h] at he
    exact he

end Store

namespace Operation

/-- What an operation other than a claim leaves in `processing` was so before. -/
theorem Alters.isIn {op : Operation} {now : Instant} {row row' : QueueItem}
    (h : op.Alters now row row') (hop : ∀ limit, op ≠ .call (.claimDue limit)) {id : Uuid}
    (hin : row'.isIn id .processing = true) : row.isIn id .processing = true := by
  obtain ⟨hid, hs⟩ := isIn_iff.mp hin
  cases h with
  | leave => exact hin
  | claim => exact absurd rfl (hop _)
  | putBack _ error nextAttemptAt =>
      exact nomatch (Store.putBack_status now error nextAttemptAt row).symm.trans hs
  | makeDue h => exact nomatch h.symm.trans hs
  | backdate h updatedAt => exact isIn_iff.mpr ⟨hid, h⟩
  | _ => exact nomatch hs

/-- Nothing but a claim adds rows in `processing`. -/
theorem heldUnder_apply_le {op : Operation} (hop : ∀ limit, op ≠ .call (.claimDue limit))
    (now : Instant) (s : Store) (id : Uuid) :
    (op.apply now s).heldUnder id ≤ s.heldUnder id := by
  obtain ⟨rows, hitems, hrows⟩ := op.alters_apply now s
  have hnews : (op.news.map (·.enter now)).countP (·.isIn id .processing) = 0 := by
    refine List.countP_eq_zero.mpr fun row hrow hin => ?_
    obtain ⟨item, -, rfl⟩ := List.mem_map.mp hrow
    exact nomatch (isIn_iff.mp hin).2
  rw [Store.heldUnder, hitems, List.countP_append, hnews]
  exact countP_le_of_forall₂ (fun _ _ h => h.isIn hop) hrows

end Operation

end Courier
