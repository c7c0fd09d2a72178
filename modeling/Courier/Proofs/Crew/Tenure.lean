import Courier.Proofs.Crew.Scene

/-!
# Proofs — Crew — Tenure

Which claim of an item is open where claims may be recovered while their worker is still at it.  A
claim is open until the row is written back or recovered.  A report names an item and no claim, so it
is the status of the row alone that guards it.

* `Tenure`: of the items that were claimed those are `processing` whose last claim is open, and what
  a worker is still to process it claimed.  It is an invariant of all that happens, recoveries
  included (`Happens.tenure`, `Tenure.recover`).
* `report_needs_open_claim`: in every run a report changes at most its own row, and that only while
  a claim of it is open.
* `report_of_recovered_claim`: the open claim need not be the one that is reported.
-/

namespace Courier

namespace Deed

/-- Who claimed the item. -/
def claimant? (id : Uuid) : Deed → Option Nat
  | claimed n items => if id ∈ items.map (·.id) then some n else none
  | _ => none

/-- A claim of the item ended: its row was written back or recovered. -/
def closes (id : Uuid) : Deed → Bool
  | wrote _ k => k = id
  | recovered ids => id ∈ ids
  | _ => false

/-- Neither is an item claimed, nor does a claim end. -/
def Idle (d : Deed) : Prop := ∀ id, d.claimant? id = none ∧ d.closes id = false

end Deed

/-- Who claimed the item last. -/
def lastClaim? (id : Uuid) (log : List Deed) : Option Nat := log.findSome? (·.claimant? id)

/-- Who holds the open claim of the item. -/
def openClaim? (id : Uuid) : List Deed → Option Nat
  | [] => none
  | d :: log =>
    match d.claimant? id with
    | some n => some n
    | none => if d.closes id then none else openClaim? id log

/-- Whether a claim of the item has ended since the worker claimed it last. -/
def closedSince (n : Nat) (id : Uuid) : List Deed → Bool
  | [] => false
  | d :: log => d.claimant? id ≠ some n && (d.closes id || closedSince n id log)

variable {id : Uuid} {n : Nat} {d : Deed} {log deeds : List Deed}

/-- A claim is open for who made it. -/
theorem openClaim?_cons_of_claimant (h : d.claimant? id = some n) :
    openClaim? id (d :: log) = some n := by
  simp only [openClaim?, h]

/-- A deed that ends a claim leaves none open. -/
theorem openClaim?_cons_of_closes (h : d.claimant? id = none) (hc : d.closes id = true) :
    openClaim? id (d :: log) = none := by
  simp only [openClaim?, h, if_pos hc]

/-- Other deeds leave the open claim as it is. -/
theorem openClaim?_cons_of_neither (h : d.claimant? id = none) (hc : d.closes id = false) :
    openClaim? id (d :: log) = openClaim? id log := by
  simp [openClaim?, h, hc]

/-- Other deeds end no claim. -/
theorem closedSince_cons_of_neither (h : d.claimant? id ≠ some n) (hc : d.closes id = false) :
    closedSince n id (d :: log) = closedSince n id log := by
  simp [closedSince, h, hc]

theorem closedSince_cons_of_idle (h : d.claimant? id = none) (hc : d.closes id = false) :
    closedSince n id (d :: log) = closedSince n id log :=
  closedSince_cons_of_neither (by simp [h]) hc

/-- A deed that ends a claim has ended the last one, whoever made it. -/
theorem closedSince_cons_of_closes (h : d.claimant? id = none) (hc : d.closes id = true) :
    closedSince n id (d :: log) = true := by
  simp [closedSince, h, hc]

/-- While nothing is claimed and no claim ends, the open claim stays. -/
theorem openClaim?_append (hd : ∀ d ∈ deeds, d.Idle) :
    openClaim? id (deeds ++ log) = openClaim? id log := by
  induction deeds with
  | nil => rfl
  | cons d deeds ih =>
      have hidle := hd d List.mem_cons_self id
      exact (openClaim?_cons_of_neither hidle.1 hidle.2).trans
        (ih fun e he => hd e (List.mem_cons_of_mem d he))

/-- While nothing is claimed and no claim ends, none has ended since. -/
theorem closedSince_append (hd : ∀ d ∈ deeds, d.Idle) :
    closedSince n id (deeds ++ log) = closedSince n id log := by
  induction deeds with
  | nil => rfl
  | cons d deeds ih =>
      have hidle := hd d List.mem_cons_self id
      exact (closedSince_cons_of_idle hidle.1 hidle.2).trans
        (ih fun e he => hd e (List.mem_cons_of_mem d he))

/-- While nothing is claimed, the last claim stays the last. -/
theorem lastClaim?_append (hd : ∀ d ∈ deeds, d.Idle) :
    lastClaim? id (deeds ++ log) = lastClaim? id log := by
  induction deeds with
  | nil => rfl
  | cons d deeds ih =>
      have hidle := hd d List.mem_cons_self id
      exact (List.findSome?_cons_of_isNone (by rw [hidle.1]; rfl)).trans
        (ih fun e he => hd e (List.mem_cons_of_mem d he))

theorem lastClaim?_cons_of_claimant (h : d.claimant? id = some n) :
    lastClaim? id (d :: log) = some n :=
  (List.findSome?_cons_of_isSome (by rw [h]; rfl)).trans h

theorem lastClaim?_cons_of_none (h : d.claimant? id = none) :
    lastClaim? id (d :: log) = lastClaim? id log :=
  List.findSome?_cons_of_isNone (by rw [h]; rfl)

/-- The open claim is the last one. -/
theorem lastClaim?_of_openClaim? (h : openClaim? id log = some n) : lastClaim? id log = some n := by
  induction log with
  | nil => exact h
  | cons d log ih =>
      cases hd : d.claimant? id with
      | some m =>
          rw [openClaim?_cons_of_claimant hd] at h
          exact lastClaim?_cons_of_claimant (hd.trans h)
      | none =>
          cases hc : d.closes id with
          | true =>
              rw [openClaim?_cons_of_closes hd hc] at h
              exact nomatch h
          | false =>
              rw [openClaim?_cons_of_neither hd hc] at h
              exact (lastClaim?_cons_of_none hd).trans (ih h)

/-- Which claims are open, and whose they are. -/
structure Tenure (s : Scene) : Prop where
  distinct : s.store.Distinct
  /-- What was claimed is in the queue. -/
  known : ∀ {id}, (lastClaim? id s.log).isSome = true → ∃ row, s.store.getItem? id = some row
  /-- An item that was claimed is `processing` while its last claim is open. -/
  processing : ∀ {id row}, s.store.getItem? id = some row → (lastClaim? id s.log).isSome = true →
    (row.status = .processing ↔ (openClaim? id s.log).isSome = true)
  /-- What a worker is still to process it claimed. -/
  claimed : ∀ {n x}, x ∈ (s.stages n).todo → (lastClaim? x.id s.log).isSome = true
  /-- The open claim is the worker's own, or its own has ended. -/
  mine : ∀ {n x}, x ∈ (s.stages n).todo →
    openClaim? x.id s.log = some n ∨ closedSince n x.id s.log = true

namespace Tenure

variable {s : Scene}

/-- At first there are no claims. -/
theorem first {store : Store} (hd : store.Distinct) : Tenure (.first store) where
  distinct := hd
  known := fun h => nomatch h
  processing := fun _ h => nomatch h
  claimed := fun h => nomatch h
  mine := fun h => nomatch h

/-- The store changes, but no row becomes `processing` or ceases to be, and no claim is made or
ends. -/
theorem visit (h : Tenure s) {store : Store} (hd : store.Distinct)
    (hkeep : ∀ {k row}, s.store.getItem? k = some row → ∃ row', store.getItem? k = some row' ∧
      (row'.status = .processing ↔ row.status = .processing)) (hq : ∀ d ∈ deeds, d.Idle) :
    Tenure (s.visit store deeds) := by
  have hlast : ∀ k, lastClaim? k (deeds ++ s.log) = lastClaim? k s.log :=
    fun _ => lastClaim?_append hq
  have hopen : ∀ k, openClaim? k (deeds ++ s.log) = openClaim? k s.log :=
    fun _ => openClaim?_append hq
  refine ⟨hd, fun {k} hk => ?_, fun {k row'} hrow' hk => ?_, fun {n x} hx => ?_,
    fun {n x} hx => ?_⟩
  · rw [Scene.visit, hlast] at hk
    obtain ⟨row, hrow⟩ := h.known hk
    obtain ⟨row', hrow', -⟩ := hkeep hrow
    exact ⟨row', hrow'⟩
  · rw [Scene.visit, hlast] at hk
    obtain ⟨row, hrow⟩ := h.known hk
    obtain ⟨other, hother, hiff⟩ := hkeep hrow
    rw [← Option.some.inj (hother.symm.trans hrow'), Scene.visit, hopen]
    exact hiff.trans (h.processing hrow hk)
  · rw [Scene.visit, hlast]
    exact h.claimed hx
  · rw [Scene.visit, hopen, closedSince_append hq]
    exact h.mine hx

/-- A worker goes on, and has no more to process than before. -/
theorem advance (h : Tenure s) {t : Stage} (ht : t.todo ⊆ (s.stages n).todo)
    (hq : ∀ d ∈ deeds, d.Idle) : Tenure (s.advance n t deeds) := by
  have hv : Tenure (s.visit s.store deeds) :=
    h.visit h.distinct (fun hrow => ⟨_, hrow, Iff.rfl⟩) hq
  have htodo : ∀ {m x}, x ∈ ((s.advance n t deeds).stages m).todo → x ∈ (s.stages m).todo := by
    intro m x hx
    by_cases hm : m = n
    · rw [Scene.stages_advance, if_pos hm] at hx
      exact hm ▸ ht hx
    · rw [Scene.stages_advance, if_neg hm] at hx
      exact hx
  exact ⟨hv.distinct, hv.known, hv.processing, fun hx => hv.claimed (htodo hx),
    fun hx => hv.mine (htodo hx)⟩

/-- What is handed out and was claimed before has no open claim. -/
theorem openClaim?_of_claimed (h : Tenure s) {now : Instant} {limit : UInt32} {k : Uuid}
    (hk : k ∈ (s.store.claimed now limit).map (·.id))
    (hlast : (lastClaim? k s.log).isSome = true) : openClaim? k s.log = none := by
  obtain ⟨x, hx, rfl⟩ := List.mem_map.mp hk
  obtain ⟨row, hrow, hdue, -⟩ := Store.mem_claimed h.distinct hx
  by_contra hopen
  have hs := (h.processing hrow hlast).mpr (Option.isSome_iff_ne_none.mpr hopen)
  exact nomatch (Store.pending_of_isDue hdue).symm.trans hs

/-- A claim is open from then on, for the worker that made it. -/
theorem claim (h : Tenure s) {now : Instant} {limit : UInt32} :
    Tenure (s.claim n now limit) := by
  have hmem : ∀ {k}, k ∈ (s.store.claimed now limit).map (·.id) →
      Deed.claimant? k (.claimed n (s.store.claimed now limit)) = some n := fun hk => if_pos hk
  have hnot : ∀ {k}, k ∉ (s.store.claimed now limit).map (·.id) →
      Deed.claimant? k (.claimed n (s.store.claimed now limit)) = none := fun hk => if_neg hk
  refine ⟨h.distinct.claimDue now limit, fun {k} hk => ?_, fun {k row'} hrow' hk => ?_,
    fun {m x} hx => ?_, fun {m x} hx => ?_⟩
  · by_cases hin : k ∈ (s.store.claimed now limit).map (·.id)
    · obtain ⟨x, hx, rfl⟩ := List.mem_map.mp hin
      exact ⟨x, Store.getItem?_claimDue_of_mem h.distinct hx⟩
    · rw [Scene.claim, lastClaim?_cons_of_none (hnot hin)] at hk
      obtain ⟨row, hrow⟩ := h.known hk
      exact ⟨_, (Store.getItem?_claimDue h.distinct now limit k).trans (congrArg _ hrow)⟩
  · rw [Scene.claim, Store.getItem?_claimDue h.distinct, Option.map_eq_some_iff] at hrow'
    obtain ⟨row, hrow, rfl⟩ := hrow'
    rw [Store.claimRow, Store.id_of_getItem? hrow]
    by_cases hin : k ∈ (s.store.claimed now limit).map (·.id)
    · rw [if_pos hin, Scene.claim, openClaim?_cons_of_claimant (hmem hin)]
      exact ⟨fun _ => rfl, fun _ => rfl⟩
    · rw [Scene.claim, lastClaim?_cons_of_none (hnot hin)] at hk
      rw [if_neg hin, Scene.claim, openClaim?_cons_of_neither (hnot hin) rfl]
      exact h.processing hrow hk
  · by_cases hin : x.id ∈ (s.store.claimed now limit).map (·.id)
    · rw [Scene.claim, lastClaim?_cons_of_claimant (hmem hin)]
      rfl
    · rw [Scene.claim, lastClaim?_cons_of_none (hnot hin)]
      by_cases hm : m = n
      · rw [Scene.stages_claim, if_pos hm] at hx
        exact absurd (List.mem_map_of_mem hx) hin
      · rw [Scene.stages_claim, if_neg hm] at hx
        exact h.claimed hx
  · by_cases hm : m = n
    · rw [Scene.stages_claim, if_pos hm] at hx
      subst hm
      exact .inl (openClaim?_cons_of_claimant (hmem (List.mem_map_of_mem hx)))
    · rw [Scene.stages_claim, if_neg hm] at hx
      have hmine := h.mine hx
      by_cases hin : x.id ∈ (s.store.claimed now limit).map (·.id)
      · -- the worker's claim must have ended, or the item would not be handed out again
        rw [h.openClaim?_of_claimed hin (h.claimed hx)] at hmine
        have hclosed := hmine.resolve_left (Option.some_ne_none m).symm
        refine .inr ((closedSince_cons_of_neither ?_ rfl).trans hclosed)
        rw [hmem hin]
        exact fun he => hm (Option.some.inj he).symm
      · rw [Scene.claim, openClaim?_cons_of_neither (hnot hin) rfl,
          closedSince_cons_of_idle (hnot hin) rfl]
        exact hmine

/-- A claim ends, as the rows do that it was for. -/
theorem close (h : Tenure s) {store : Store} (hd : store.Distinct) (ha : ∀ k, d.claimant? k = none)
    (hkeep : ∀ {k row}, s.store.getItem? k = some row → ∃ row', store.getItem? k = some row' ∧
      (row'.status = .processing ↔ row.status = .processing ∧ d.closes k = false)) :
    Tenure (s.visit store [d]) := by
  have hlast : ∀ k, lastClaim? k (d :: s.log) = lastClaim? k s.log :=
    fun k => lastClaim?_cons_of_none (ha k)
  refine ⟨hd, fun {k} hk => ?_, fun {k row'} hrow' hk => ?_, fun {m x} hx => ?_,
    fun {m x} hx => ?_⟩
  · obtain ⟨row, hrow⟩ := h.known ((hlast k).symm ▸ hk)
    obtain ⟨row', hrow', -⟩ := hkeep hrow
    exact ⟨row', hrow'⟩
  · have hk := (congrArg Option.isSome (hlast k)).symm.trans hk
    obtain ⟨row, hrow⟩ := h.known hk
    obtain ⟨other, hother, hiff⟩ := hkeep hrow
    have hsame : other = row' := Option.some.inj (hother.symm.trans hrow')
    have hprocessing := h.processing hrow hk
    show row'.status = .processing ↔ (openClaim? k (d :: s.log)).isSome = true
    cases hc : d.closes k with
    | true =>
        rw [openClaim?_cons_of_closes (ha k) hc, ← hsame, hiff, hc]
        simp
    | false =>
        rw [openClaim?_cons_of_neither (ha k) hc, ← hsame, hiff, hc, ← hprocessing]
        simp
  · exact (congrArg Option.isSome (hlast _)).trans (h.claimed hx)
  · show openClaim? x.id (d :: s.log) = some m ∨ closedSince m x.id (d :: s.log) = true
    cases hc : d.closes x.id with
    | true => exact .inr (closedSince_cons_of_closes (ha _) hc)
    | false =>
        rw [openClaim?_cons_of_neither (ha _) hc, closedSince_cons_of_idle (ha _) hc]
        exact h.mine hx

/-- A worker writes the present item back, so that it is no longer `processing`. -/
theorem report (h : Tenure s) {x : QueueItem} {f : QueueItem → QueueItem} (hf : KeepsId f)
    (hrow : ∀ row, (f row).status ≠ .processing) {t : Stage}
    (ht : t.todo ⊆ (s.stages n).todo) : Tenure (s.report n x.id f t) := by
  have hv : Tenure (s.visit (s.store.change x.id .processing f) (s.reported n x.id)) := by
    rw [Scene.reported]
    cases hfind : s.store.findIn? x.id .processing with
    | none =>
        rw [Store.change_of_findIn?_eq_none f hfind]
        exact h.visit h.distinct (fun hrow => ⟨_, hrow, Iff.rfl⟩) (List.forall_mem_nil _)
    | some found =>
        refine h.close (h.distinct.change hf _ _) (fun _ => rfl) fun {k row} hk => ?_
        refine ⟨_, (Store.getItem?_change h.distinct hf _ _ _).trans (congrArg _ hk), ?_⟩
        have hid := Store.id_of_getItem? hk
        by_cases hin : row.isIn x.id .processing = true
        · have hclose : x.id = k := (isIn_iff.mp hin).1.symm.trans hid
          rw [changeIn_of_isIn hin]
          simp [hrow, Deed.closes, hclose]
        · have hout : row.status = .processing → x.id ≠ k :=
            fun hs he => hin (isIn_iff.mpr ⟨hid.trans he.symm, hs⟩)
          simpa [changeIn_of_not_isIn hin, Deed.closes] using hout
  have htodo : ∀ {m y}, y ∈ ((s.report n x.id f t).stages m).todo → y ∈ (s.stages m).todo := by
    intro m y hy
    by_cases hm : m = n
    · rw [Scene.stages_report, if_pos hm] at hy
      exact hm ▸ ht hy
    · rw [Scene.stages_report, if_neg hm] at hy
      exact hy
  exact ⟨hv.distinct, hv.known, hv.processing, fun hy => hv.claimed (htodo hy),
    fun hy => hv.mine (htodo hy)⟩

/-- Abandoned claims end. -/
theorem recover (h : Tenure s) (now olderThan : Instant) : Tenure (s.recover now olderThan) := by
  have hd : (s.store.recoverStale now olderThan).Distinct := by
    rw [Store.Distinct, Store.ids_recoverStale]
    exact h.distinct
  refine h.close hd (fun _ => rfl) fun {k row} hk => ?_
  refine ⟨_, (Store.getItem?_recoverStale _ _ _ _).trans (congrArg _ hk), ?_⟩
  rw [Store.recoverRow]
  cases hstale : row.isStale olderThan with
  | true =>
      have hin : k ∈ (s.store.items.filter (·.isStale olderThan)).map (·.id) :=
        List.mem_map.mpr ⟨row, List.mem_filter.mpr ⟨Store.mem_of_getItem? hk, hstale⟩,
          Store.id_of_getItem? hk⟩
      simp [Deed.closes, QueueItem.recover, decide_eq_true hin]
  | false =>
      have hout : k ∉ (s.store.items.filter (·.isStale olderThan)).map (·.id) := by
        intro hin
        obtain ⟨other, hother, hid⟩ := List.mem_map.mp hin
        obtain ⟨hmem, hs⟩ := List.mem_filter.mp hother
        have hsame := (h.distinct.getItem?_iff.mpr ⟨hmem, hid⟩).symm.trans hk
        rw [Option.some.inj hsame, hstale] at hs
        exact Bool.false_ne_true hs
      simp [Deed.closes, decide_eq_false hout]

end Tenure

/-- **Which claims are open, and whose they are,** is an invariant of all that happens. -/
theorem Happens.tenure {team : Nat → Worker} {s s' : Scene} (hs : Happens team s s')
    (h : Tenure s) : Tenure s' := by
  cases hs with
  | claim n now hs => exact h.claim
  | look n hs answer ha =>
      exact h.advance (by rw [hs]; exact List.Subset.refl _)
        (List.forall_mem_singleton.mpr fun _ => ⟨rfl, rfl⟩)
  | send n hs hv he hm hp result =>
      exact h.advance (by rw [hs]; exact List.Subset.refl _)
        (List.forall_mem_singleton.mpr fun _ => ⟨rfl, rfl⟩)
  | succeed n now hs =>
      exact h.report (Store.keepsId_succeed now) (fun _ => nofun) (List.tail_sublist _).subset
  | fail n now hr =>
      exact h.report (Store.keepsId_fail now _) (fun _ => nofun) (List.tail_sublist _).subset
  | putBack n now hs hl hw ha ht =>
      refine h.report (Store.keepsId_putBack now _ _)
        (fun row => Store.putBack_status now _ _ row ▸ nofun) ?_
      rcases ht with rfl | rfl
      · exact (List.tail_sublist _).subset
      · exact List.nil_subset _
  | lose n =>
      exact h.advance (t := .ended _) (List.tail_sublist _).subset (List.forall_mem_nil _)
  | pass n ht => exact h.advance ht.todo.subset (List.forall_mem_nil _)
  | enqueue now hf =>
      refine h.visit (h.distinct.enqueueBatch hf now) (fun {k row} hrow => ?_)
        (List.forall_mem_nil _)
      exact ⟨row, Store.getItem?_enqueueBatch_of_some hrow now _, Iff.rfl⟩
  | requeue now id =>
      have hf := Store.keepsId_requeue now
      refine h.visit (h.distinct.change hf id .failed) (fun {k row} hrow => ?_) fun d hd => ?_
      · refine ⟨_, (Store.getItem?_change h.distinct hf _ _ _).trans (congrArg _ hrow), ?_⟩
        by_cases hin : row.isIn id .failed = true
        · simp [changeIn_of_isIn hin, QueueItem.requeue, (isIn_iff.mp hin).2]
        · rw [changeIn_of_not_isIn hin]
      · rw [List.eq_of_mem_singleton (List.mem_ite_nil_right.mp hd).2]
        exact fun _ => ⟨rfl, rfl⟩
  | edit hi =>
      refine h.visit (h.distinct.of_items hi) (fun {k row} hrow => ⟨row, ?_, Iff.rfl⟩)
        (List.forall_mem_nil _)
      exact (Store.getItem?_of_items hi _).trans hrow

/-! ### Every run -/

/-- In every run it is known whose claims are open. -/
theorem Run.tenure {team : Nat → Worker} {rule : Crew → Move → Prop} {w : World} {c : Crew}
    (h : Run team rule w c) (hd : w.store.Distinct) : Tenure c.scene :=
  h.scene_induction (.first hd) (fun hs ih => hs.tenure ih) fun _ ih => ih.recover _ _

/-- A report is about the present item. -/
theorem Permits.item?_of_report {w : Worker} {s : Stage} {call : StoreCall} {id : Uuid}
    (h : Permits w s (.store call)) (hr : call.report? = some id) :
    ∃ x, s.item? = some x ∧ x.id = id := by
  cases h with
  | claim => exact nomatch hr
  | look item rest => exact nomatch hr
  | succeed item rest channel => exact ⟨item, rfl, Option.some.inj hr⟩
  | fail hf => exact ⟨_, hf.item?, Option.some.inj hr⟩
  | putBack item rest setback hl hw ha => exact ⟨item, rfl, Option.some.inj hr⟩

/-- A report changes the row of its item where it is `processing`. -/
theorem StoreCall.serve_report {call : StoreCall} {id : Uuid} (h : call.report? = some id)
    (now : Instant) :
    ∃ f, KeepsId f ∧ ∀ s : Store, call.serve now s = s.change id .processing f := by
  cases call with
  | markSent k => exact ⟨_, Store.keepsId_succeed now, fun _ => Option.some.inj h ▸ rfl⟩
  | markFailed k error =>
      exact ⟨_, Store.keepsId_fail now error, fun _ => Option.some.inj h ▸ rfl⟩
  | markForRetry k error at_ =>
      exact ⟨_, Store.keepsId_putBack now error at_, fun _ => Option.some.inj h ▸ rfl⟩
  | _ => exact nomatch h

/-- What a report does: nothing where it fails, and else a change of its row. -/
theorem Crew.hear_report {c : Crew} {call : StoreCall}
    {next : Except StoreError call.Result → Program (Except StoreError Nat)}
    {handled : World × Option (Except StoreError call.Result)} (hr : call.report? = some id)
    (h : c.world.Handled (.store call) handled) :
    (c.hear n (.store call) next handled).world.store = c.world.store ∨
      (∃ f, KeepsId f ∧ (c.hear n (.store call) next handled).world.store =
        c.world.store.change id .processing f) ∧
      (c.hear n (.store call) next handled).log = c.scene.reported n id ++ c.log := by
  cases h with
  | failed _ hw e => exact .inl hw
  | served _ hw =>
      obtain ⟨f, hf, hserve⟩ := StoreCall.serve_report hr c.world.now
      have htook : (Request.store call).took
          ((call.answer? c.world.now c.world.store).map .ok) = true := by
        cases call.answer? c.world.now c.world.store <;> rfl
      refine .inr ⟨⟨f, hf, hw.trans (hserve _)⟩, ?_⟩
      simp only [hear, Crew.deeds_report hr, htook, true_and]
      rfl

/-- Of the items that were claimed, those with no open claim are not `processing`. -/
theorem Tenure.findIn?_eq_none {s : Scene} (h : Tenure s)
    (hlast : (lastClaim? id s.log).isSome = true) (hopen : openClaim? id s.log = none) :
    s.store.findIn? id .processing = none := by
  rw [h.distinct.findIn?_eq]
  obtain ⟨row, hrow⟩ := h.known hlast
  have hstatus : row.status ≠ .processing := fun hs => by
    have hsome := (h.processing hrow hlast).mp hs
    rw [hopen] at hsome
    exact nomatch hsome
  rw [hrow, Option.filter_some, if_neg (by simpa using hstatus)]

/-- **A report changes at most its own row, and that only while a claim of the item is open**: one
that is the last of the item, and that is the worker's own unless the worker's own has ended.  The
report ends it.  So what is reported of a recovered claim changes nothing, as long as the item is not
claimed anew. -/
theorem report_needs_open_claim {team : Nat → Worker} {w : World} {c : Crew} {call : StoreCall}
    {next : Except StoreError call.Result → Program (Except StoreError Nat)}
    (hd : w.store.Distinct) (h : Run team Free w c)
    (hj : (c.desks n).job = some (.ask (.store call) next)) (hr : call.report? = some id) :
    (∀ k, k ≠ id → (c.step team (.proceed n)).world.store.getItem? k =
        c.world.store.getItem? k) ∧
      (openClaim? id c.log = none → (c.step team (.proceed n)).world.store = c.world.store) ∧
      ((c.step team (.proceed n)).world.store.getItem? id ≠ c.world.store.getItem? id →
        ∃ m, openClaim? id c.log = some m ∧ lastClaim? id c.log = some m ∧
          (m = n ∨ closedSince n id c.log = true) ∧
          openClaim? id (c.step team (.proceed n)).log = none) := by
  have ht : Tenure c.scene := h.tenure hd
  obtain ⟨x, hitem, rfl⟩ := Permits.item?_of_report ((h.kept n).follows hj).1 hr
  have htodo : x ∈ (c.scene.stages n).todo := Stage.todo_of_item? hitem ▸ List.mem_cons_self
  have hlast := ht.claimed htodo
  have hstep : c.step team (.proceed n) =
      c.hear n (.store call) next (c.world.handle (.store call)) := Crew.proceed_of_ask hj
  rw [hstep]
  rcases Crew.hear_report hr (c.world.handled (.store call)) with
    hstore | ⟨⟨f, hf, hstore⟩, hlog⟩
  · rw [hstore]
    exact ⟨fun _ _ => rfl, fun _ => rfl, fun hne => absurd rfl hne⟩
  · rw [hstore, hlog]
    -- without an open claim the row is not `processing`, and the report finds no row
    have hnone : openClaim? x.id c.log = none →
        c.world.store.change x.id .processing f = c.world.store :=
      fun hopen => Store.change_of_findIn?_eq_none f (ht.findIn?_eq_none hlast hopen)
    refine ⟨fun k hk => Store.getItem?_change_of_ne ht.distinct hf hk _, hnone, fun hne => ?_⟩
    have hfind : (c.world.store.findIn? x.id .processing).isSome = true := by
      by_contra hfind
      exact hne (by rw [Store.change_of_findIn?_eq_none f (Option.not_isSome_iff_eq_none.mp hfind)])
    cases hopen : openClaim? x.id c.log with
    | none => exact absurd (by rw [hnone hopen]) hne
    | some m =>
        refine ⟨m, rfl, lastClaim?_of_openClaim? hopen, ?_, ?_⟩
        · exact (ht.mine htodo).imp_left fun hn => Option.some.inj (hopen.symm.trans hn)
        · have hreported : c.scene.reported n x.id = [.wrote n x.id] := if_pos hfind
          rw [hreported]
          exact openClaim?_cons_of_closes rfl (decide_eq_true rfl)

namespace Sample

/-- One worker has sent a message and is about to report it. -/
def sending : Crew := ((loaded 5).step team (.begin 0)).proceeds team 0 5

/-- Its claim was recovered, and another worker has claimed the message. -/
def overtaken : Crew :=
  (((sending.step team (.turn ⟨600, 0, by decide⟩ .empty .empty)).step team
    (.recover ⟨300, 0, by decide⟩)).step team (.begin 1)).proceeds team 1 1

/-- The sample is a run, under free moves. -/
theorem run_overtaken : Run team Free world overtaken := by
  have hsending : Run team Free world sending :=
    .proceeds (.step (run_loaded Free 5 fun _ _ => trivial) (.begin 0) trivial trivial) 0 5
      fun _ => trivial
  exact .proceeds (.step (.step (.step hsending (.turn _ _ _) trivial trivial) (.recover _) trivial
    trivial) (.begin 1) trivial trivial) 1 1 fun _ => trivial

end Sample

/-- The report changes the row and ends the claim of the other worker. -/
theorem overtaken_report_ends_open_claim :
    ∃ m, openClaim? (Sample.id 3) Sample.overtaken.log = some m ∧
      lastClaim? (Sample.id 3) Sample.overtaken.log = some m ∧
      (m = 0 ∨ closedSince 0 (Sample.id 3) Sample.overtaken.log = true) ∧
      openClaim? (Sample.id 3) (Sample.overtaken.step Sample.team (.proceed 0)).log = none :=
  (report_needs_open_claim (w := Sample.world) List.nodup_nil Sample.run_overtaken rfl rfl).2.2
    (by decide)

/-- A report of a recovered claim that changes the row under a newer one. -/
theorem report_of_recovered_claim :
    ∃ (c : Crew) (next : Except StoreError Unit → Program (Except StoreError Nat)),
      Run Sample.team Free Sample.world c ∧
      (c.desks 0).job = some (.ask (.store (.markSent (Sample.id 3))) next) ∧
      lastClaim? (Sample.id 3) c.log = some 1 ∧
      (c.step Sample.team (.proceed 0)).world.store.getItem? (Sample.id 3) ≠
        c.world.store.getItem? (Sample.id 3) :=
  ⟨Sample.overtaken, _, Sample.run_overtaken, rfl, rfl, by decide⟩

end Courier
