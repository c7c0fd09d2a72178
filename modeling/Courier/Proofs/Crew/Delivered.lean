import Courier.Proofs.Crew.Custody

/-!
# Proofs — Crew — Delivered

An item that a sender took stays out of the queue: its row is `processing` until the worker that
sent it has written it back, and `sent` from then on.

* `Delivered`: where the items stand that a sender took.  With `Custody` it is an invariant of all
  that happens but recoveries (`Happens.delivered`).
* `held_by_one_and_delivered_once`: in every run without recoveries, who holds an item knows
  its row and is alone with it, and an item that was delivered is neither claimed nor sent again.
-/

namespace Courier

/-- The worker has yet to report that the item was sent. -/
def Stage.Reports (x : QueueItem) : Stage → Prop
  | .tried item _ _ (.ok _) => item = x
  | _ => False

/-- The item that a worker is to report is the one that it is at. -/
theorem Stage.Reports.item? {x : QueueItem} {s : Stage} (h : s.Reports x) : s.item? = some x := by
  cases s with
  | tried item rest channel result =>
      cases result with
      | ok _ => exact congrArg some h
      | error e => exact h.elim
  | _ => exact h.elim

/-- No attempt is open to a worker for what was sent. -/
theorem Stage.Reports.setback? {x : QueueItem} {s : Stage} (h : s.Reports x) :
    s.setback? = none := by
  cases s with
  | tried item rest channel result =>
      cases result with
      | ok _ => rfl
      | error e => exact h.elim
  | _ => exact h.elim

/-- What was sent is not refused. -/
theorem Refusal.not_reports {w : Worker} {s : Stage} {item x : QueueItem} {reason : String}
    (h : Refusal w s item reason) : ¬s.Reports x := by
  intro hx
  cases h with
  | exhausted hi hs => exact nomatch hx.setback?.symm.trans hs
  | _ => exact hx.elim

/-- A worker that has yet to report goes on to report, or stops. -/
theorem Passes.reports {x y : QueueItem} {s t : Stage} (h : Passes s t) (hy : y ∈ t.todo)
    (hr : s.Reports x) : t.Reports x := by
  cases h with
  | stay => exact hr
  | stop => exact nomatch hy
  | count =>
      cases s with
      | tried item rest channel result => exact hr
      | _ => exact hr.elim
  | time now =>
      have htime : s.time now = s := by
        rw [Stage.time, hr.setback?]
        cases s.item? <;> rfl
      exact htime.symm ▸ hr

/-- Where the items stand that a sender took. -/
structure Delivered (s : Scene) : Prop where
  row : ∀ {d id}, d ∈ s.log → d.delivers id = true →
    ∃ row, s.store.getItem? id = some row ∧ (row.status = .sent ∨ row.status = .processing)
  reports : ∀ {d n x}, d ∈ s.log → d.delivers x.id = true → x ∈ (s.stages n).todo →
    (s.stages n).Reports x
  last : s.log.Pairwise fun later earlier => ∀ id, earlier.delivers id = true →
    later.claims id = false ∧ later.sends id = false

namespace Delivered

variable {s : Scene}

/-- At first nothing is delivered. -/
theorem first (store : Store) : Delivered (.first store) where
  row := fun h => nomatch h
  reports := fun h => nomatch h
  last := List.Pairwise.nil

/-- A deed that neither claims nor sends. -/
def Quiet (d : Deed) : Prop := ∀ id, d.claims id = false ∧ d.sends id = false

theorem Quiet.delivers {d : Deed} (h : Quiet d) (id : Uuid) : d.delivers id = false := by
  by_contra hd
  exact nomatch (Deed.sends_of_delivers (Bool.not_eq_false _ ▸ hd)).symm.trans (h id).2

/-- After deeds that neither claim nor send, what was delivered stays the last. -/
theorem last_append (h : Delivered s) {deeds : List Deed} (hq : ∀ d ∈ deeds, Quiet d) :
    (deeds ++ s.log).Pairwise fun later earlier => ∀ id, earlier.delivers id = true →
      later.claims id = false ∧ later.sends id = false := by
  refine List.pairwise_append.mpr ⟨?_, h.last, fun d hd e _ id _ => hq d hd id⟩
  exact List.pairwise_of_forall_mem_list fun d hd e _ id _ => hq d hd id

/-- What was delivered after quiet deeds was delivered before. -/
theorem mem_of_quiet {deeds : List Deed} (hq : ∀ d ∈ deeds, Quiet d) {d : Deed} {id : Uuid}
    (hd : d ∈ deeds ++ s.log) (hid : d.delivers id = true) : d ∈ s.log := by
  rcases List.mem_append.mp hd with hd | hd
  · exact nomatch hid.symm.trans ((hq d hd).delivers id)
  · exact hd

/-- A worker goes on quietly. -/
theorem advance (h : Delivered s) {n : Nat} {t : Stage} {deeds : List Deed}
    (hq : ∀ d ∈ deeds, Quiet d)
    (ht : ∀ {x}, x ∈ t.todo → x ∈ (s.stages n).todo ∧ ((s.stages n).Reports x → t.Reports x)) :
    Delivered (s.advance n t deeds) where
  row := fun hd hid => h.row (mem_of_quiet hq hd hid) hid
  reports := by
    intro d m x hd hid hx
    have hd := mem_of_quiet hq hd hid
    by_cases hm : m = n
    · rw [Scene.stages_advance, if_pos hm] at hx ⊢
      exact (ht hx).2 (h.reports hd hid (ht hx).1)
    · rw [Scene.stages_advance, if_neg hm] at hx ⊢
      exact h.reports hd hid hx
  last := h.last_append hq

/-- The store changes from outside, and leaves the rows that are `sent` or `processing`. -/
theorem visit (h : Delivered s) {store : Store} {deeds : List Deed}
    (hrow : ∀ {k row}, s.store.getItem? k = some row →
      row.status = .sent ∨ row.status = .processing → store.getItem? k = some row)
    (hq : ∀ d ∈ deeds, Quiet d) : Delivered (s.visit store deeds) where
  row := by
    intro d id hd hid
    obtain ⟨row, hget, hstatus⟩ := h.row (mem_of_quiet hq hd hid) hid
    exact ⟨row, hrow hget hstatus, hstatus⟩
  reports := fun hd hid hx => h.reports (mem_of_quiet hq hd hid) hid hx
  last := h.last_append hq

/-- A claim takes nothing that was delivered. -/
theorem not_claimed (h : Delivered s) (hc : Custody s) {d : Deed} {id : Uuid} (hd : d ∈ s.log)
    (hid : d.delivers id = true) (now : Instant) (limit : UInt32) :
    id ∉ (s.store.claimed now limit).map (·.id) := by
  obtain ⟨row, hrow, hstatus⟩ := h.row hd hid
  refine Store.not_claimed hc.distinct hrow fun hp => ?_
  rcases hstatus with hs | hs <;> exact nomatch hp.symm.trans hs

/-- What was delivered is not claimed again. -/
theorem claim (h : Delivered s) (hc : Custody s) {n : Nat} {now : Instant} {limit : UInt32} :
    Delivered (s.claim n now limit) where
  row := by
    intro d id hd hid
    rcases List.mem_cons.mp hd with rfl | hd
    · exact nomatch hid
    · obtain ⟨row, hrow, hstatus⟩ := h.row hd hid
      refine ⟨row, Store.getItem?_claimDue_of_status hc.distinct hrow fun hp => ?_, hstatus⟩
      rcases hstatus with hs | hs <;> exact nomatch hp.symm.trans hs
  reports := by
    intro d m x hd hid hx
    rcases List.mem_cons.mp hd with rfl | hd
    · exact nomatch hid
    · by_cases hm : m = n
      · rw [Scene.stages_claim, if_pos hm] at hx
        exact absurd (List.mem_map_of_mem hx) (h.not_claimed hc hd hid now limit)
      · rw [Scene.stages_claim, if_neg hm] at hx ⊢
        exact h.reports hd hid hx
  last := by
    refine List.pairwise_cons.mpr ⟨fun d hd id hid => ⟨?_, rfl⟩, h.last⟩
    exact decide_eq_false (h.not_claimed hc hd hid now limit)

/-- Nothing is sent that was delivered before. -/
theorem not_sent (h : Delivered s) {n : Nat} {x : QueueItem} (hx : x ∈ (s.stages n).todo)
    (hs : ¬(s.stages n).Reports x) {d : Deed} (hd : d ∈ s.log) : d.delivers x.id = false := by
  by_contra hid
  exact hs (h.reports hd (Bool.not_eq_false _ ▸ hid) hx)

/-- What is sent was not delivered before. -/
theorem send (h : Delivered s) (hc : Custody s) {n : Nat} {item : QueueItem}
    {rest : List QueueItem} {channel : Channel}
    (hs : s.stages n = .looked item rest (.ok (some channel))) (place : Nat)
    (notification : Notification) (result : Except SendError Unit) :
    Delivered (s.advance n (.tried item rest channel result)
      [.sent n item place notification result]) := by
  have hitem : (s.stages n).item? = some item := by rw [hs]; rfl
  have hheld := hc.mem_held_of_item? hitem
  -- the worker has not yet tried the present item, and so has nothing to report
  have hnew : ∀ {x}, x ∈ (s.stages n).todo → ∀ d ∈ s.log, d.delivers x.id = false :=
    fun hx d hd => h.not_sent hx (by rw [hs]; exact id) hd
  refine ⟨?_, ?_, ?_⟩
  · intro d id hd hid
    rcases List.mem_cons.mp hd with rfl | hd
    · rw [← (Deed.delivers_sent.mp hid).2]
      exact ⟨item, hc.row hheld, .inr (hc.processing hheld)⟩
    · exact h.row hd hid
  · intro d m x hd hid hx
    by_cases hm : m = n
    · rw [Scene.stages_advance, if_pos hm] at hx ⊢
      have hin : x ∈ (s.stages n).todo := hs ▸ hx
      rcases List.mem_cons.mp hd with rfl | hd
      · obtain ⟨rfl, he⟩ := Deed.delivers_sent.mp hid
        exact hc.eq_of_id hheld (hc.mem_held hin) he
      · exact nomatch hid.symm.trans (hnew hin d hd)
    · rw [Scene.stages_advance, if_neg hm] at hx ⊢
      rcases List.mem_cons.mp hd with rfl | hd
      · -- another worker holds what was sent, so it is not to be processed here
        have hid := (Deed.delivers_sent.mp hid).2
        exact absurd (hc.apart (hc.mem_held hx) hheld hid.symm) hm
      · exact h.reports hd hid hx
  · refine List.pairwise_cons.mpr ⟨fun d hd id hid => ⟨rfl, ?_⟩, h.last⟩
    refine decide_eq_false fun he => ?_
    have hin : item ∈ (s.stages n).todo := hs ▸ List.mem_cons_self
    exact nomatch (he ▸ hid).symm.trans (hnew hin d hd)

/-- A worker writes the present item back; if it was sent, then as `sent`. -/
theorem report (h : Delivered s) (hc : Custody s) {n : Nat} {x : QueueItem}
    (hx : (s.stages n).item? = some x) {f : QueueItem → QueueItem} (hf : KeepsId f)
    (hsent : (s.stages n).Reports x → ∀ row, (f row).status = .sent) {t : Stage}
    (ht : t.todo ⊆ (s.stages n).todo.tail) : Delivered (s.report n x.id f t) := by
  have hq : ∀ d ∈ s.reported n x.id, Quiet d := by
    intro d hd
    rw [Scene.eq_of_mem_reported hd]
    exact fun _ => ⟨rfl, rfl⟩
  have htodo := Stage.todo_of_item? hx
  refine ⟨?_, ?_, h.last_append hq⟩
  · intro d id hd hid
    have hd := mem_of_quiet hq hd hid
    obtain ⟨row, hrow, hstatus⟩ := h.row hd hid
    refine ⟨QueueItem.changeIn x.id .processing f row, ?_, ?_⟩
    · show (s.store.change x.id .processing f).getItem? id = _
      rw [Store.getItem?_change hc.distinct hf, hrow, Option.map_some]
    · by_cases hin : row.isIn x.id .processing = true
      · have hid' : id = x.id := (Store.id_of_getItem? hrow).symm.trans (isIn_iff.mp hin).1
        have hreports := h.reports hd (hid' ▸ hid) (htodo ▸ List.mem_cons_self)
        rw [changeIn_of_isIn hin]
        exact .inl (hsent hreports row)
      · rw [changeIn_of_not_isIn hin]
        exact hstatus
  · intro d m y hd hid hy
    have hd := mem_of_quiet hq hd hid
    by_cases hm : m = n
    · -- only the present item was sent, and it is done with now
      rw [Scene.stages_report, if_pos hm] at hy
      have hy := ht hy
      have hreports := h.reports hd hid (List.mem_of_mem_tail hy)
      have hxy : x = y := Option.some.inj (hx.symm.trans hreports.item?)
      exact absurd (hxy ▸ rfl) (hc.tail_ne hx hy)
    · rw [Scene.stages_report, if_neg hm] at hy ⊢
      exact h.reports hd hid hy

end Delivered

/-- **With custody, what was delivered stays out of the queue**, by all that happens but
recoveries. -/
theorem Happens.delivered {team : Nat → Worker} {s s' : Scene} (hs : Happens team s s')
    (hc : Custody s) (h : Delivered s) : Delivered s' := by
  cases hs with
  | claim n now hs => exact h.claim hc
  | look n hs answer ha =>
      refine h.advance (List.forall_mem_singleton.mpr fun _ => ⟨rfl, rfl⟩) fun hx => ⟨?_, ?_⟩
      · rw [hs]
        exact hx
      · rw [hs]
        exact False.elim
  | send n hs hv he hm hp result => exact h.send hc hs _ _ result
  | succeed n now hs =>
      exact h.report hc (by rw [hs]; rfl) (Store.keepsId_succeed now) (fun _ _ => rfl)
        (List.Subset.refl _)
  | fail n now hr =>
      exact h.report hc hr.item? (Store.keepsId_fail now _) (fun hx => absurd hx hr.not_reports)
        (List.Subset.refl _)
  | putBack n now hs hl hw ha ht =>
      refine h.report hc (by rw [hs]; rfl) (Store.keepsId_putBack now _ _)
        (fun hx => by rw [hs] at hx; exact hx.elim) ?_
      rcases ht with rfl | rfl
      · exact List.Subset.refl _
      · exact List.nil_subset _
  | lose n =>
      refine h.advance (List.forall_mem_nil _) fun hx => ⟨List.mem_of_mem_tail hx, fun hr => ?_⟩
      exact absurd rfl (hc.tail_ne hr.item? hx)
  | pass n ht =>
      refine h.advance (List.forall_mem_nil _) fun hx => ⟨ht.todo.subset hx, fun hr => ?_⟩
      exact ht.reports hx hr
  | enqueue now hf =>
      refine h.visit (fun hrow _ => ?_) (List.forall_mem_nil _)
      exact Store.getItem?_enqueueBatch_of_some hrow now _
  | requeue now id =>
      have hf := Store.keepsId_requeue now
      refine h.visit (fun hrow hstatus => ?_) (fun d hd => ?_)
      · refine Store.getItem?_change_of_status hc.distinct hf hrow fun hfailed => ?_
        rcases hstatus with hs | hs <;> exact nomatch hfailed.symm.trans hs
      · rw [List.eq_of_mem_singleton (List.mem_ite_nil_right.mp hd).2]
        exact fun _ => ⟨rfl, rfl⟩
  | edit hi =>
      exact h.visit (fun hrow _ => (Store.getItem?_of_items hi _).trans hrow)
        (List.forall_mem_nil _)

/-! ### Every run without recoveries -/

/-- In a run without recoveries items are in custody, and none is delivered twice. -/
theorem Run.custody_and_delivered {team : Nat → Worker} {w : World} {c : Crew}
    (h : Run team Calm w c) (hd : w.store.Distinct) : Custody c.scene ∧ Delivered c.scene := by
  refine h.scene_induction (I := fun s => Custody s ∧ Delivered s) ⟨.first hd, .first _⟩ ?_ ?_
  · exact fun hs ih => ⟨hs.custody ih.1, hs.delivered ih.1 ih.2⟩
  · exact fun hr _ => hr.elim

/-- Who holds an item is alone with it and knows its row, and what was delivered is done with. -/
structure Exclusive (c : Crew) : Prop where
  /-- No two workers hold one item, and none holds it twice. -/
  alone : ∀ {n m x y}, x ∈ (c.desks n).held → y ∈ (c.desks m).held → x.id = y.id → n = m
  nodup : ∀ n, ((c.desks n).held.map (·.id)).Nodup
  /-- What is held is `processing`, and the snapshot of its holder is the row as it stands. -/
  row : ∀ {n x}, x ∈ (c.desks n).held →
    x.status = .processing ∧ c.world.store.getItem? x.id = some x
  /-- What a worker is still to process it holds. -/
  todo : ∀ {n x}, x ∈ (c.desks n).stage.todo → x ∈ (c.desks n).held
  /-- At most one send for an item succeeds. -/
  once : ∀ id, c.log.countP (·.delivers id) ≤ 1
  /-- After it the item is neither claimed nor sent. -/
  last : ∀ {later d earlier id}, c.log = later ++ d :: earlier → d.delivers id = true →
    ∀ e ∈ later, e.claims id = false ∧ e.sends id = false

/-- What excludes its own repetition occurs at most once. -/
theorem countP_le_one {α : Type} {l : List α} {p : α → Bool}
    (h : l.Pairwise fun a b => p b = true → p a = false) : l.countP p ≤ 1 := by
  induction l with
  | nil => exact Nat.zero_le 1
  | cons a rest ih =>
      obtain ⟨ha, hrest⟩ := List.pairwise_cons.mp h
      cases hp : p a with
      | false =>
          rw [List.countP_cons_of_neg (Bool.eq_false_iff.mp hp)]
          exact ih hrest
      | true =>
          have hzero : rest.countP p = 0 :=
            List.countP_eq_zero.mpr fun b hb hpb => nomatch hp.symm.trans (ha b hb hpb)
          exact Nat.le_of_eq (by rw [List.countP_cons_of_pos hp, hzero])

/-- **Without recoveries each item has one holder, and is delivered at most once**, whatever the
order of the workers' requests and of what comes in from outside, and whichever calls of the store
fail. -/
theorem held_by_one_and_delivered_once {team : Nat → Worker} {w : World} {c : Crew}
    (hd : w.store.Distinct) (h : Run team Calm w c) : Exclusive c := by
  obtain ⟨hc, hdel⟩ := h.custody_and_delivered hd
  refine ⟨hc.apart, hc.once, fun hx => ⟨hc.processing hx, hc.row hx⟩, hc.mem_held, ?_, ?_⟩
  · intro id
    refine countP_le_one (hdel.last.imp fun {later earlier} hR hp => ?_)
    by_contra hlater
    exact nomatch (Deed.sends_of_delivers (Bool.not_eq_false _ ▸ hlater)).symm.trans (hR id hp).2
  · intro later d earlier id hlog hid e he
    have hpair := hdel.last
    rw [show c.scene.log = later ++ d :: earlier from hlog] at hpair
    exact (List.pairwise_append.mp hpair).2.2 e he d List.mem_cons_self id hid

/-- A message that is sent and not yet written back: it has one holder, and is not sent again. -/
theorem sample_delivered_once :
    let c := ((Sample.loaded 5).step Sample.team (.begin 0)).proceeds Sample.team 0 4
    c.log.countP (·.delivers (Sample.id 3)) = 1 ∧ ((c.desks 0).held.map (·.id) = [Sample.id 3]) ∧
      Exclusive c :=
  ⟨rfl, rfl, held_by_one_and_delivered_once (w := Sample.world) List.nodup_nil
    (.proceeds (.step (Sample.run_loaded Calm 5 fun _ _ => trivial) (.begin 0) trivial trivial) 0 4
      fun _ => trivial)⟩

end Courier
