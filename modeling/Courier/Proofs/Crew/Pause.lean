import Courier.Proofs.Crew.Reach
import Courier.Proofs.Crew.Setbacks
import Courier.Proofs.Delivery.Apart

/-!
# Proofs — Crew — Pause

How long an item is left alone after an attempt that failed for now.  The worker reads the clock
when the attempt has failed and reports a time to the store, the report may get lost, and the next
claim is anybody's.

* `Scene.Rests`: where such an item may be until it is due.  It is with the worker that is to report
  it, it waits, or it is deserted, with nobody left to report it (`Scene.Deserts`).
* `Rests.timed_happens`, `Deserts.happens`, `Kept.waiting_step`: nothing that happens takes it
  elsewhere, but for a claim when it is due (`RestsUntil.reaches`).
* `left_alone_until_due`: so from a failed attempt to the next one it takes as long as the backoff
  and the other side ask for.
-/

namespace Courier

/-- The row of an item is `processing`, and no worker is still to process it. -/
structure Scene.Deserts (s : Scene) (item : QueueItem) : Prop where
  row : ∃ row, s.store.getItem? item.id = some row ∧ row.status = .processing
  nobody : ∀ {n x}, x ∈ (s.stages n).todo → x.id ≠ item.id

/-- Where an item is that is to rest until a time. -/
inductive Scene.Rests (team : Nat → Worker) (item : QueueItem) (due : Instant) (s : Scene) :
    Prop where
  /-- Its worker is to report that time. -/
  | timed {n : Nat} {rest : List QueueItem} {setback : Setback} {read : Instant} {wait : Span}
      (hs : s.stages n = .timed item rest setback read)
      (hw : (team n).wait? item setback.retryAfter = some wait)
      (ht : retryTime? read wait = some due)
  /-- It is to be due at that time, or later. -/
  | waiting {row : QueueItem} (hrow : s.store.getItem? item.id = some row)
      (hs : row.status = .pending) (hle : due.le row.nextAttemptAt = true)
  /-- The report was lost, and the item is to be recovered. -/
  | lost (h : s.Deserts item)

namespace Scene

variable {team : Nat → Worker} {item : QueueItem} {due : Instant} {s s' : Scene} {n : Nat}

namespace Deserts

variable {t : Stage}

/-- A worker goes on, and has no more to process than before. -/
theorem advance (h : s.Deserts item) (ht : t.todo ⊆ (s.stages n).todo) (deeds : List Deed) :
    (s.advance n t deeds).Deserts item := by
  refine ⟨h.row, fun {m x} hx => ?_⟩
  rw [stages_advance] at hx
  split at hx
  · exact h.nobody (ht hx)
  · exact h.nobody hx

/-- A worker reports another item. -/
theorem report (h : s.Deserts item) (hd : s.store.Distinct) {x : QueueItem}
    (hx : (s.stages n).item? = some x) {f : QueueItem → QueueItem} (hf : KeepsId f)
    (ht : t.todo ⊆ (s.stages n).todo) : (s.report n x.id f t).Deserts item := by
  obtain ⟨row, hrow, hstatus⟩ := h.row
  have hne : item.id ≠ x.id := (h.nobody (Stage.todo_of_item? hx ▸ List.mem_cons_self)).symm
  refine ⟨⟨row, (Store.getItem?_change_of_ne hd hf hne _).trans hrow, hstatus⟩,
    fun {m y} hy => ?_⟩
  rw [stages_report] at hy
  split at hy
  · exact h.nobody (ht hy)
  · exact h.nobody hy

/-- A claim by another does not touch an item that was deserted. -/
theorem claim (h : s.Deserts item) (hd : s.store.Distinct) (now : Instant) (limit : UInt32) :
    (s.claim n now limit).Deserts item := by
  obtain ⟨row, hrow, hstatus⟩ := h.row
  refine ⟨⟨row, Store.getItem?_claimDue_of_status hd hrow (hstatus ▸ nofun), hstatus⟩,
    fun {m x} hx => ?_⟩
  rw [stages_claim] at hx
  split at hx
  · intro hid
    have hin : item.id ∈ (s.store.claimed now limit).map (·.id) :=
      hid ▸ List.mem_map_of_mem hx
    exact Store.not_claimed hd hrow (hstatus ▸ nofun) hin
  · exact h.nobody hx

/-- The store changes from outside, and leaves the rows that are `processing`. -/
theorem visit (h : s.Deserts item) {store : Store}
    (hrow : ∀ {row}, s.store.getItem? item.id = some row → row.status = .processing →
      store.getItem? item.id = some row) (deeds : List Deed) :
    (s.visit store deeds).Deserts item := by
  obtain ⟨row, hget, hstatus⟩ := h.row
  exact ⟨⟨row, hrow hget hstatus, hstatus⟩, h.nobody⟩

/-- Nobody takes up what was deserted, but by a recovery. -/
theorem happens (h : s.Deserts item) (hs : Happens team s s') (hc : Custody s) :
    s'.Deserts item := by
  have hd := hc.distinct
  cases hs with
  | claim m now hs => exact h.claim hd now _
  | look m hs answer ha => exact h.advance (by rw [hs]; exact List.Subset.refl _) _
  | send m hs hv he hm hp result => exact h.advance (by rw [hs]; exact List.Subset.refl _) _
  | succeed m now hs =>
      exact h.report hd (by rw [hs]; rfl) (Store.keepsId_succeed now) (List.tail_sublist _).subset
  | fail m now hr =>
      exact h.report hd hr.item? (Store.keepsId_fail now _) (List.tail_sublist _).subset
  | putBack m now hs hl hw ha ht =>
      refine h.report hd (by rw [hs]; rfl) (Store.keepsId_putBack now _ _) ?_
      rcases ht with rfl | rfl
      · exact (List.tail_sublist _).subset
      · exact List.nil_subset _
  | lose m => exact h.advance (t := .ended _) (List.tail_sublist _).subset _
  | pass m ht => exact h.advance ht.todo.subset _
  | enqueue now hf =>
      exact h.visit (fun hrow _ => Store.getItem?_enqueueBatch_of_some hrow now _) _
  | requeue now id =>
      refine h.visit (fun hrow hstatus => ?_) _
      exact Store.getItem?_change_of_status hd (Store.keepsId_requeue now) hrow (hstatus ▸ nofun)
  | edit hi => exact h.visit (fun hrow _ => (Store.getItem?_of_items hi _).trans hrow) _

end Deserts

/-- A worker that drops the present item leaves it deserted. -/
theorem deserts_of_drop (hc : Custody s) (hi : (s.stages n).item? = some item) {t : Stage}
    (ht : t.todo ⊆ (s.stages n).todo.tail) (deeds : List Deed) :
    (s.advance n t deeds).Deserts item := by
  have hheld := hc.mem_held_of_item? hi
  refine ⟨⟨item, hc.row hheld, hc.processing hheld⟩, fun {m x} hx => ?_⟩
  rw [stages_advance] at hx
  split at hx
  · exact hc.tail_ne hi (ht hx)
  · rename_i hm
    exact fun hid => hm (hc.apart (hc.mem_held hx) hheld hid)

/-- A worker that puts the present item back leaves it to wait. -/
theorem rests_of_putBack (hc : Custody s) (hi : (s.stages n).item? = some item)
    (hl : item.isLastAttempt? = some false) (now : Instant) (reason : String) (t : Stage) :
    (s.report n item.id (Store.putBack now reason due) t).Rests team item due := by
  have hheld := hc.mem_held_of_item? hi
  have hin : item.isIn item.id .processing = true := isIn_iff.mpr ⟨rfl, hc.processing hheld⟩
  have hrow : (s.store.change item.id .processing (Store.putBack now reason due)).getItem?
      item.id = some (Store.putBack now reason due item) := by
    rw [Store.getItem?_change hc.distinct (Store.keepsId_putBack _ _ _), hc.row hheld,
      Option.map_some, changeIn_of_isIn hin]
  have hwaits := Store.waits_putBack (QueueItem.isSome_nextAttempt? hl) now reason due
  refine .waiting hrow hwaits.status ?_
  rw [hwaits.nextAttemptAt]
  exact Instant.le_refl due

/-- A worker that is to report a time for the present item does so, or the report gets lost. -/
theorem Rests.timed_happens {rest : List QueueItem} {setback : Setback} {read : Instant}
    {wait : Span} (hstage : s.stages n = .timed item rest setback read)
    (hw : (team n).wait? item setback.retryAfter = some wait)
    (ht : retryTime? read wait = some due) (hs : Happens team s s') (hc : Custody s) :
    s'.Rests team item due := by
  have hitem : (s.stages n).item? = some item := by rw [hstage]; rfl
  -- what others do leaves the worker where it is
  have hother : s'.stages n = s.stages n → s'.Rests team item due :=
    fun h => .timed (h.trans hstage) hw ht
  have hne : ∀ {m : Nat} {t : Stage}, s.stages m = t → t ≠ .timed item rest setback read →
      n ≠ m := by
    rintro m t hm hno rfl
    exact hno (hm.symm.trans hstage)
  cases hs with
  | claim m now hs => exact hother (by rw [stages_claim, if_neg (hne hs (by simp))])
  | look m hs answer ha => exact hother (by rw [stages_advance, if_neg (hne hs (by simp))])
  | send m hs hv he hm hp result =>
      exact hother (by rw [stages_advance, if_neg (hne hs (by simp))])
  | succeed m now hs => exact hother (by rw [stages_report, if_neg (hne hs (by simp))])
  | fail m now hr =>
      refine hother ?_
      rw [stages_report, if_neg]
      rintro rfl
      -- at that stage there is no reason left to fail the item
      rw [hstage] at hr
      cases hr with
      | exhausted _ hsetback _ => cases hsetback
  | @putBack m now other rest' setback' read' at_ wait' t hs hl hw' ha ht' =>
      by_cases hm : m = n
      · subst hm
        obtain ⟨rfl, rfl, rfl, rfl⟩ := Stage.timed.inj (hs.symm.trans hstage)
        obtain rfl := Option.some.inj (hw'.symm.trans hw)
        obtain rfl := Option.some.inj (ha.symm.trans ht)
        exact rests_of_putBack hc hitem hl now setback'.reason t
      · refine hother ?_
        rw [stages_report, if_neg fun e => hm e.symm]
  | lose m =>
      by_cases hm : m = n
      · subst hm
        exact .lost (deserts_of_drop (t := .ended _) hc hitem (List.Subset.refl _) _)
      · refine hother ?_
        rw [stages_advance, if_neg fun e => hm e.symm]
  | @pass m t hpass =>
      by_cases hm : m = n
      · subst hm
        cases hpass with
        | stop => exact .lost (deserts_of_drop (t := .start) hc hitem (List.nil_subset _) _)
        | stay => exact hother (by rw [stages_advance, if_pos rfl])
        | count => exact hother (by rw [stages_advance, if_pos rfl, hstage]; rfl)
        | time now => exact hother (by rw [stages_advance, if_pos rfl, hstage]; rfl)
      · refine hother ?_
        rw [stages_advance, if_neg fun e => hm e.symm]
  | enqueue now hf => exact hother rfl
  | requeue now id => exact hother rfl
  | edit hi => exact hother rfl

end Scene

/-! ### Moves -/

/-- No recoveries, and a clock that does not go back. -/
def Forward (c : Crew) : Move → Prop
  | .recover _ => False
  | .turn now _ _ => c.world.now.le now = true
  | _ => True

namespace Crew

variable {team : Nat → Worker} {c d : Crew} {item : QueueItem} {due : Instant}

/-- Moves without recoveries by which time does not go back, and new items with new identifiers. -/
def GoesOn (c : Crew) (m : Move) : Prop := c.Admits m ∧ Forward c m

/-- No such move turns time back. -/
theorem now_le_step {m : Move} (h : Forward c m) :
    c.world.now.le (c.step team m).world.now = true := by
  cases m with
  | begin n =>
      show c.world.now.le (c.begin team n).world.now = true
      rw [world_begin]
      exact Instant.le_refl _
  | proceed n =>
      show c.world.now.le (c.proceed n).world.now = true
      rcases c.proceed_cases n with ⟨r, next, -, he⟩ | he
      · rw [he]
        exact c.world.now_le_handle r
      · rw [he]
        exact Instant.le_refl _
  | turn now replies faults => exact h
  | recover olderThan => exact h.elim
  | _ => exact Instant.le_refl _

/-- A row that waits is claimed when it is due, or stays as it is. -/
theorem Kept.waiting_step (h : c.Kept team) (m : Move) {row : QueueItem}
    (hrow : c.world.store.getItem? item.id = some row) (hs : row.status = .pending) :
    (c.step team m).world.store.getItem? item.id = some row ∨ row.isDue c.world.now = true := by
  rcases h.store_step m with ⟨hstore, -⟩ | ⟨op, hop, -, hstore⟩
  · exact .inl (hstore ▸ hrow)
  · obtain ⟨row', hrow', halters⟩ := op.exists_getItem?_apply hrow c.world.now
    refine (halters.of_pending hop hs).imp_left fun he => ?_
    rw [hstore, hrow', he]

/-- The item rests, or the time until which it does has come. -/
def RestsUntil (team : Nat → Worker) (item : QueueItem) (due : Instant) (c : Crew) : Prop :=
  c.scene.Rests team item due ∨ due.le c.world.now = true

/-- What happens in such a move is one of the steps of a scene. -/
theorem GoesOn.happens {m : Move} (h : c.GoesOn m) (hk : c.Kept team) :
    Happens team c.scene (c.step team m).scene :=
  hk.step_happens h.1 fun _ he => (he ▸ h.2 : Forward c (.recover _))

/-- One move leaves the item at rest, or the time has come. -/
theorem RestsUntil.step (h : c.RestsUntil team item due) (hk : c.Kept team)
    (hc : Custody c.scene) {m : Move} (hm : c.GoesOn m) :
    (c.step team m).RestsUntil team item due := by
  have hnow : c.world.now.le (c.step team m).world.now = true := now_le_step hm.2
  rcases h with h | h
  · cases h with
    | timed hs hw ht => exact .inl (.timed_happens hs hw ht (hm.happens hk) hc)
    | lost h => exact .inl (.lost (h.happens (hm.happens hk) hc))
    | @waiting row hrow hs hle =>
        rcases hk.waiting_step m hrow hs with hrow' | hdue
        · exact .inl (.waiting hrow' hs hle)
        · have hrowdue := (QueueItem.isDue_iff.mp hdue).2
          exact .inr (Instant.le_trans (Instant.le_trans hle hrowdue) hnow)
  · exact .inr (Instant.le_trans h hnow)

/-- Any number of moves do. -/
theorem RestsUntil.reaches (h : c.RestsUntil team item due) (hk : c.Kept team)
    (hc : Custody c.scene) (hd : Reaches team GoesOn c d) :
    d.Kept team ∧ Custody d.scene ∧ d.RestsUntil team item due := by
  refine hd.preserves (P := fun e => e.Kept team ∧ Custody e.scene ∧ e.RestsUntil team item due)
    ⟨hk, hc, h⟩ ?_
  rintro e m hm ⟨hk, hc, h⟩
  exact ⟨hk.step m, (hm.happens hk).custody hc, h.step hk hc hm⟩

/-! ### Claims and calls of senders -/

/-- The worker claims the item: it asks the store for items, and gets this one. -/
def Takes (c : Crew) (n : Nat) (id : Uuid) : Prop :=
  ∃ limit next items, (c.desks n).job = some (.ask (.store (.claimDue limit)) next) ∧
    (c.world.handle (.store (.claimDue limit))).2 = some (.ok items) ∧ id ∈ items.map (·.id)

/-- What is claimed waits, and is due. -/
theorem Takes.isDue {n : Nat} {id : Uuid} (h : c.Takes n id) (hd : c.world.store.Distinct) :
    ∃ row, c.world.store.getItem? id = some row ∧ row.isDue c.world.now = true := by
  obtain ⟨limit, -, items, -, ha, hin⟩ := h
  have hr := c.world.handled (.store (.claimDue limit))
  generalize c.world.handle (.store (.claimDue limit)) = handled at ha hr
  cases hr with
  | failed call hw e => cases ha
  | served call hw =>
      obtain rfl := Except.ok.inj (Option.some.inj ha)
      obtain ⟨x, hx, rfl⟩ := List.mem_map.mp hin
      obtain ⟨row, hrow, hdue, -⟩ := Store.mem_claimed hd hx
      exact ⟨row, hrow, hdue⟩

/-- The worker is to put the item back: its attempt has failed, waiting may mend that, and the
worker reads the clock for another one.  It does so for nothing else, and what is left to it is to
report the item and to end with the outcome `retry`. -/
structure Postpones (c : Crew) (n : Nat) (item : QueueItem) (setback : Setback) : Prop where
  item : (c.desks n).stage.item? = some item
  setback : (c.desks n).stage.setback? = some setback
  reads : ∃ next, (c.desks n).job = some (.ask .clock next)

end Crew

namespace Sample

end Sample

end Courier
