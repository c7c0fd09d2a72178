import Courier.Proofs.Crew.Scene

/-!
# Proofs — Crew — Custody

Where no claim is given back behind a worker's back, an item that is claimed and not yet written back
is in the hands of one worker, and the worker knows its row.

* `Custody`: who holds what, and how that ties to the rows.  It is an invariant of all that happens
  but recoveries (`Happens.custody`).
-/

namespace Courier

/-- What is claimed and not yet written back is `processing`, is held by one worker, and is known to
that worker as it is. -/
structure Custody (s : Scene) : Prop where
  distinct : s.store.Distinct
  row : ∀ {n x}, x ∈ s.held n → s.store.getItem? x.id = some x
  processing : ∀ {n x}, x ∈ s.held n → x.status = .processing
  once : ∀ n, ((s.held n).map (·.id)).Nodup
  apart : ∀ {n m x y}, x ∈ s.held n → y ∈ s.held m → x.id = y.id → n = m
  /-- What a worker is still to process it holds. -/
  todo : ∀ n, (s.stages n).todo.Sublist (s.held n)

namespace Custody

variable {s : Scene}

/-- At first nobody holds anything. -/
theorem first {store : Store} (hd : store.Distinct) : Custody (.first store) where
  distinct := hd
  row := fun h => nomatch h
  processing := fun h => nomatch h
  once := fun _ => List.nodup_nil
  apart := fun h => nomatch h
  todo := fun _ => List.Sublist.refl _

/-! ### What follows from it -/

/-- A worker holds what it is still to process. -/
theorem mem_held (h : Custody s) {n : Nat} {x : QueueItem} (hx : x ∈ (s.stages n).todo) :
    x ∈ s.held n :=
  (h.todo n).subset hx

/-- The present item is held. -/
theorem mem_held_of_item? (h : Custody s) {n : Nat} {x : QueueItem}
    (hx : (s.stages n).item? = some x) : x ∈ s.held n :=
  h.mem_held (Stage.todo_of_item? hx ▸ List.mem_cons_self)

/-- A worker has no item to process twice. -/
theorem nodup_todo (h : Custody s) (n : Nat) : ((s.stages n).todo.map (·.id)).Nodup :=
  (h.once n).sublist ((h.todo n).map _)

/-- No two items at hand have one identifier. -/
theorem eq_of_id (h : Custody s) {n m : Nat} {x y : QueueItem} (hx : x ∈ s.held n)
    (hy : y ∈ s.held m) (hid : x.id = y.id) : x = y :=
  Option.some.inj ((h.row hx).symm.trans (hid ▸ h.row hy))

/-- The items after the present one have other identifiers. -/
theorem tail_ne (h : Custody s) {n : Nat} {x y : QueueItem} (hx : (s.stages n).item? = some x)
    (hy : y ∈ (s.stages n).todo.tail) : y.id ≠ x.id := by
  have hnodup := h.nodup_todo n
  rw [Stage.todo_of_item? hx, List.map_cons] at hnodup
  exact fun hid => (List.nodup_cons.mp hnodup).1 (hid ▸ List.mem_map_of_mem hy)

/-! ### What preserves it -/

/-- A worker goes on, and has no more to process than before. -/
theorem advance (h : Custody s) {n : Nat} {t : Stage} (ht : t.todo.Sublist (s.stages n).todo)
    (deeds : List Deed) : Custody (s.advance n t deeds) where
  distinct := h.distinct
  row := h.row
  processing := h.processing
  once := h.once
  apart := h.apart
  todo := by
    intro m
    by_cases hm : m = n
    · subst hm
      rw [Scene.stages_advance, if_pos rfl]
      exact ht.trans (h.todo m)
    · rw [Scene.stages_advance, if_neg hm]
      exact h.todo m

/-- The store changes from outside, and leaves the rows that are `processing`. -/
theorem visit (h : Custody s) {store : Store} (hd : store.Distinct)
    (hrow : ∀ {x : QueueItem}, s.store.getItem? x.id = some x → x.status = .processing →
      store.getItem? x.id = some x) (deeds : List Deed) : Custody (s.visit store deeds) where
  distinct := hd
  row := fun hx => hrow (h.row hx) (h.processing hx)
  processing := h.processing
  once := h.once
  apart := h.apart
  todo := h.todo

/-- A claim takes only what nobody holds. -/
theorem not_held (h : Custody s) {n : Nat} {now : Instant} {limit : UInt32} {x y : QueueItem}
    (hx : x ∈ s.held n) (hy : y ∈ s.store.claimed now limit) : x.id ≠ y.id := by
  intro hid
  have hin : x.id ∈ (s.store.claimed now limit).map (·.id) := hid ▸ List.mem_map_of_mem hy
  exact Store.not_claimed h.distinct (h.row hx) (h.processing hx ▸ nofun) hin

/-- A claim gives its items to one worker alone. -/
theorem claim (h : Custody s) {n : Nat} {now : Instant} {limit : UInt32} :
    Custody (s.claim n now limit) where
  distinct := h.distinct.claimDue now limit
  row := by
    intro m x hx
    rcases Scene.mem_held_claim hx with hx | ⟨-, hx⟩
    · exact Store.getItem?_claimDue_of_status h.distinct (h.row hx) (h.processing hx ▸ nofun)
    · exact Store.getItem?_claimDue_of_mem h.distinct hx
  processing := by
    intro m x hx
    rcases Scene.mem_held_claim hx with hx | ⟨-, hx⟩
    · exact h.processing hx
    · obtain ⟨row, -, -, rfl⟩ := Store.mem_claimed h.distinct hx
      rfl
  once := by
    intro m
    by_cases hm : m = n
    · rw [Scene.held_claim, if_pos hm, List.map_append, List.nodup_append]
      refine ⟨h.once n, Store.nodup_claimed h.distinct, fun a ha b hb => ?_⟩
      obtain ⟨x, hx, rfl⟩ := List.mem_map.mp ha
      obtain ⟨y, hy, rfl⟩ := List.mem_map.mp hb
      exact h.not_held hx hy
    · rw [Scene.held_claim, if_neg hm]
      exact h.once m
  apart := by
    intro k m x y hx hy hid
    rcases Scene.mem_held_claim hx with hx' | ⟨hk, hx'⟩
    · rcases Scene.mem_held_claim hy with hy' | ⟨-, hy'⟩
      · exact h.apart hx' hy' hid
      · exact absurd hid (h.not_held hx' hy')
    · rcases Scene.mem_held_claim hy with hy' | ⟨hm, -⟩
      · exact absurd hid.symm (h.not_held hy' hx')
      · exact hk.trans hm.symm
  todo := by
    intro m
    by_cases hm : m = n
    · rw [Scene.held_claim, Scene.stages_claim, if_pos hm, if_pos hm]
      exact List.sublist_append_right _ _
    · rw [Scene.held_claim, Scene.stages_claim, if_neg hm, if_neg hm]
      exact h.todo m

/-- A worker writes the present item back. -/
theorem report (h : Custody s) {n : Nat} {x : QueueItem} (hx : (s.stages n).item? = some x)
    {f : QueueItem → QueueItem} (hf : KeepsId f) {t : Stage}
    (ht : t.todo.Sublist (s.stages n).todo.tail) : Custody (s.report n x.id f t) where
  distinct := h.distinct.change hf x.id .processing
  row := by
    intro m y hy
    obtain ⟨hy, hne⟩ := Scene.mem_held_report hy
    -- another holder of the identifier would be the reporting worker, which no longer holds it
    have hid : y.id ≠ x.id := fun hid => hne (h.apart hy (h.mem_held_of_item? hx) hid) hid
    exact (Store.getItem?_change_of_ne h.distinct hf hid _).trans (h.row hy)
  processing := fun hy => h.processing (Scene.mem_held_report hy).1
  once := by
    intro m
    by_cases hm : m = n
    · rw [Scene.held_report, if_pos hm]
      exact (h.once n).sublist (List.filter_sublist.map _)
    · rw [Scene.held_report, if_neg hm]
      exact h.once m
  apart := fun hy hz => h.apart (Scene.mem_held_report hy).1 (Scene.mem_held_report hz).1
  todo := by
    intro m
    by_cases hm : m = n
    · -- what is still to be processed is not the item that is no longer held
      have htail : (s.stages n).todo.tail.filter (fun y => decide (y.id ≠ x.id)) =
          (s.stages n).todo.tail :=
        List.filter_eq_self.mpr fun y hy => decide_eq_true (h.tail_ne hx hy)
      rw [← htail] at ht
      rw [Scene.held_report, Scene.stages_report, if_pos hm, if_pos hm]
      exact ht.trans (((List.tail_sublist _).trans (h.todo n)).filter _)
    · rw [Scene.held_report, Scene.stages_report, if_neg hm, if_neg hm]
      exact h.todo m

end Custody

/-- **Custody is an invariant** of all that happens but recoveries. -/
theorem Happens.custody {team : Nat → Worker} {s s' : Scene} (hs : Happens team s s')
    (h : Custody s) : Custody s' := by
  cases hs with
  | claim n now hs => exact h.claim
  | look n hs answer ha => exact h.advance (by rw [hs]; exact List.Sublist.refl _) _
  | send n hs hv he hm hp result => exact h.advance (by rw [hs]; exact List.Sublist.refl _) _
  | succeed n now hs =>
      exact h.report (by rw [hs]; rfl) (Store.keepsId_succeed now) (List.Sublist.refl _)
  | fail n now hr => exact h.report hr.item? (Store.keepsId_fail now _) (List.Sublist.refl _)
  | putBack n now hs hl hw ha ht =>
      refine h.report (by rw [hs]; rfl) (Store.keepsId_putBack now _ _) ?_
      rcases ht with rfl | rfl
      · exact List.Sublist.refl _
      · exact List.nil_sublist _
  | lose n => exact h.advance (t := .ended _) (List.tail_sublist _) _
  | pass n ht => exact h.advance ht.todo _
  | enqueue now hf =>
      refine h.visit (h.distinct.enqueueBatch hf now) (fun hrow _ => ?_) _
      exact Store.getItem?_enqueueBatch_of_some hrow now _
  | requeue now id =>
      have hf := Store.keepsId_requeue now
      refine h.visit (h.distinct.change hf id .failed) (fun hrow hstatus => ?_) _
      exact Store.getItem?_change_of_status h.distinct hf hrow (hstatus ▸ nofun)
  | edit hi =>
      exact h.visit (h.distinct.of_items hi)
        (fun hrow _ => (Store.getItem?_of_items hi _).trans hrow) _

end Courier
