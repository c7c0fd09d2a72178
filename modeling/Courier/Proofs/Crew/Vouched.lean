import Courier.Proofs.Crew.Tenure
import Courier.Proofs.Queue.History

/-!
# Proofs — Crew — Vouched

Nothing counts as sent that no sender took, whatever becomes of claims: they may be recovered, made
anew and reported late, and reports may get lost.

* `Deed.Vouches`: a sender took the message of a row, rendered from the payload that the row has.
* `Vouched`: what is `sent` is vouched for, and so is what a worker has yet to report as sent.  It is
  an invariant of all that happens (`Happens.vouched`) and of recoveries (`Vouched.recover`).
* `sent_only_if_taken`: so it is in every run.
-/

namespace Courier

/-- A sender took the message of the row, for its channel and with its payload. -/
inductive Deed.Vouches (team : Nat → Worker) (row : QueueItem) : Deed → Prop where
  | sent (n : Nat) {item : QueueItem} {channel : Channel} {message : Message} {place : Nat}
      (ho : item.origin = row.origin) (hc : channel.id = row.channelId)
      (hm : (team n).renderer.render channel.channelType row.payload = .ok message)
      (hp : (team n).registry.sender? channel.channelType = some place) :
      Vouches team row
        (.sent n item place ⟨channel.recipient, message.subject, message.body⟩ (.ok ()))

section

variable {team : Nat → Worker}

/-- What vouches for a row speaks of nothing but its origin. -/
theorem Deed.Vouches.of_origin {d : Deed} {row row' : QueueItem} (h : d.Vouches team row)
    (ho : row'.origin = row.origin) : d.Vouches team row' := by
  cases h with
  | sent n hi hc hm hp =>
      have hchannel := QueueItem.channelId_of_origin ho
      have hpayload := QueueItem.payload_of_origin ho
      exact .sent n (hi.trans ho.symm) (hchannel ▸ hc) (hpayload ▸ hm) hp

/-- The queue has the row that the snapshot was taken of. -/
def Store.Knows (s : Store) (x : QueueItem) : Prop :=
  ∃ row, s.getItem? x.id = some row ∧ row.origin = x.origin

/-- What a stage relies on: the channel at hand is the item's, and what was tried with success is
vouched for. -/
def Stage.Backed (team : Nat → Worker) (log : List Deed) : Stage → Prop
  | .looked item _ (.ok (some channel)) => channel.id = item.channelId
  | .tried item _ _ (.ok _) => ∃ d ∈ log, d.Vouches team item
  | _ => True

/-- What backs a stage still does so when more was done. -/
theorem Stage.Backed.mono {log log' : List Deed} {t : Stage} (h : t.Backed team log)
    (hl : log ⊆ log') : t.Backed team log' := by
  cases t with
  | looked item rest answer =>
      rcases answer with e | channel
      · trivial
      · cases channel with
        | none => trivial
        | some channel => exact h
  | tried item rest channel result =>
      cases result with
      | error e => trivial
      | ok _ => exact h.imp fun d hd => ⟨hl hd.1, hd.2⟩
  | _ => trivial

/-- To count something or to read the clock needs nothing more. -/
theorem Passes.backed {log : List Deed} {s t : Stage} (ht : Passes s t)
    (h : s.Backed team log) : t.Backed team log := by
  cases ht with
  | stay => exact h
  | stop => trivial
  | count =>
      cases s with
      | claimed items => trivial
      | ended rest => trivial
      | _ => exact h
  | time now =>
      rw [Stage.time]
      split
      · trivial
      · exact h

end

/-- What is `sent` is vouched for. -/
structure Vouched (team : Nat → Worker) (s : Scene) : Prop where
  distinct : s.store.Distinct
  /-- What a worker is still to process is in the queue with the same origin. -/
  known : ∀ {n x}, x ∈ (s.stages n).todo → s.store.Knows x
  backed : ∀ n, (s.stages n).Backed team s.log
  sent : ∀ {id row}, s.store.getItem? id = some row → row.status = .sent →
    ∃ d ∈ s.log, d.Vouches team row

namespace Vouched

variable {team : Nat → Worker} {s : Scene} {n : Nat}

/-- A store without sent rows needs nobody to vouch for them. -/
theorem first {store : Store} (hd : store.Distinct) (h : ∀ row ∈ store.items, row.status ≠ .sent) :
    Vouched team (.first store) where
  distinct := hd
  known := fun hx => nomatch hx
  backed := fun _ => trivial
  sent := fun hrow hs => absurd hs (h _ (Store.mem_of_getItem? hrow))

/-! ### What preserves it -/

/-- Workers go on; each new stage is backed, and its items are known. -/
theorem restage (h : Vouched team s) {s' : Scene} (hstore : s'.store = s.store)
    (hlog : s.log ⊆ s'.log)
    (hstages : ∀ m, s'.stages m = s.stages m ∨
      (∀ x ∈ (s'.stages m).todo, s.store.Knows x) ∧ (s'.stages m).Backed team s'.log) :
    Vouched team s' where
  distinct := hstore ▸ h.distinct
  known := by
    intro m x hx
    rw [hstore]
    rcases hstages m with he | ⟨hknown, -⟩
    · exact h.known (he ▸ hx)
    · exact hknown x hx
  backed := by
    intro m
    rcases hstages m with he | ⟨-, hbacked⟩
    · exact he ▸ (h.backed m).mono hlog
    · exact hbacked
  sent := by
    intro id row hrow hs
    rw [hstore] at hrow
    exact (h.sent hrow hs).imp fun d hd => ⟨hlog hd.1, hd.2⟩

/-- A worker that goes on with what backs it changes nothing else. -/
theorem advance (h : Vouched team s) {t : Stage} {deeds : List Deed}
    (ht : t.todo ⊆ (s.stages n).todo) (hb : t.Backed team (deeds ++ s.log)) :
    Vouched team (s.advance n t deeds) := by
  refine h.restage rfl (List.subset_append_right _ _) fun m => ?_
  by_cases hm : m = n
  · rw [Scene.stages_advance, if_pos hm]
    exact .inr ⟨fun x hx => h.known (ht hx), hb⟩
  · rw [Scene.stages_advance, if_neg hm]
    exact .inl rfl

/-- Rows change, and keep their origin; a row that becomes `sent` is vouched for. -/
theorem visit (h : Vouched team s) {store : Store} {g : QueueItem → QueueItem}
    (hd : store.Distinct) (hg : KeepsOrigin g)
    (hget : ∀ k, store.getItem? k = (s.store.getItem? k).map g)
    (hsent : ∀ {id row}, s.store.getItem? id = some row → (g row).status = .sent →
      row.status = .sent ∨ ∃ d ∈ s.log, d.Vouches team row) (deeds : List Deed) :
    Vouched team (s.visit store deeds) where
  distinct := hd
  known := by
    intro m x hx
    obtain ⟨row, hrow, ho⟩ := h.known hx
    exact ⟨g row, by rw [Scene.visit, hget, hrow, Option.map_some], (hg row).trans ho⟩
  backed := fun m => (h.backed m).mono (List.subset_append_right _ _)
  sent := by
    intro id row' hrow' hs
    rw [Scene.visit, hget, Option.map_eq_some_iff] at hrow'
    obtain ⟨row, hrow, rfl⟩ := hrow'
    obtain ⟨d, hd, hv⟩ := (hsent hrow hs).elim (h.sent hrow) fun hv => hv
    exact ⟨d, List.mem_append_right _ hd, hv.of_origin (hg row)⟩

/-- One row changes, if it stands in the status. -/
theorem change (h : Vouched team s) {id : Uuid} {status : QueueStatus}
    {f : QueueItem → QueueItem} (hf : KeepsOrigin f)
    (hsent : ∀ {row}, s.store.getItem? id = some row → (f row).status = .sent →
      ∃ d ∈ s.log, d.Vouches team row) (deeds : List Deed) :
    Vouched team (s.visit (s.store.change id status f) deeds) := by
  have hid : KeepsId f := fun row => QueueItem.id_of_origin (hf row)
  refine h.visit (h.distinct.change hid id status) (g := QueueItem.changeIn id status f)
    (fun row => ?_) (Store.getItem?_change h.distinct hid id status) (fun {k row} hrow hs => ?_) deeds
  · by_cases hin : row.isIn id status = true
    · rw [changeIn_of_isIn hin, hf row]
    · rw [changeIn_of_not_isIn hin]
  · by_cases hin : row.isIn id status = true
    · have hk : k = id := (Store.id_of_getItem? hrow).symm.trans (isIn_iff.mp hin).1
      rw [changeIn_of_isIn hin] at hs
      exact .inr (hsent (hk ▸ hrow) hs)
    · rw [changeIn_of_not_isIn hin] at hs
      exact .inl hs

/-- A worker writes the present item back. -/
theorem report (h : Vouched team s) {id : Uuid} {f : QueueItem → QueueItem} (hf : KeepsOrigin f)
    (hsent : ∀ {row}, s.store.getItem? id = some row → (f row).status = .sent →
      ∃ d ∈ s.log, d.Vouches team row) {t : Stage} (ht : t.todo ⊆ (s.stages n).todo)
    (hb : t.Backed team (s.reported n id ++ s.log)) : Vouched team (s.report n id f t) := by
  have hv : Vouched team (s.visit (s.store.change id .processing f) (s.reported n id)) :=
    h.change hf hsent _
  refine hv.restage rfl (List.Subset.refl _) fun m => ?_
  by_cases hm : m = n
  · rw [Scene.stages_report, if_pos hm]
    exact .inr ⟨fun x hx => hv.known (ht hx), hb⟩
  · rw [Scene.stages_report, if_neg hm]
    exact .inl rfl

/-- What a worker claims is what the rows say. -/
theorem claim (h : Vouched team s) {now : Instant} {limit : UInt32} :
    Vouched team (s.claim n now limit) := by
  have hv := h.visit (h.distinct.claimDue now limit)
    (g := Store.claimRow now ((s.store.claimed now limit).map (·.id))) (fun row => ?_)
    (Store.getItem?_claimDue h.distinct now limit) (fun {id row} _ hs => ?_)
    [.claimed n (s.store.claimed now limit)]
  · refine hv.restage rfl (List.Subset.refl _) fun m => ?_
    by_cases hm : m = n
    · -- what was handed out is the row as the claim left it
      rw [Scene.stages_claim, if_pos hm]
      exact .inr ⟨fun x hx => ⟨x, Store.getItem?_claimDue_of_mem h.distinct hx, rfl⟩, trivial⟩
    · rw [Scene.stages_claim, if_neg hm]
      exact .inl rfl
  · rw [Store.claimRow]
    split <;> rfl
  · rw [Store.claimRow] at hs
    split at hs
    · cases hs
    · exact .inl hs

/-- A recovery leaves the sent rows alone. -/
theorem recover (h : Vouched team s) (now olderThan : Instant) :
    Vouched team (s.recover now olderThan) := by
  have hd : (s.store.recoverStale now olderThan).Distinct := by
    rw [Store.Distinct, Store.ids_recoverStale]
    exact h.distinct
  refine h.visit hd (g := Store.recoverRow now olderThan) (fun row => ?_)
    (Store.getItem?_recoverStale _ now olderThan) (fun {id row} _ hs => ?_) _
  · rw [Store.recoverRow]
    split <;> rfl
  · rw [Store.recoverRow] at hs
    split at hs
    · cases hs
    · exact .inl hs

/-- New items are not sent. -/
theorem enqueue (h : Vouched team s) {items : List NewItem} (hf : s.store.Fresh items)
    (now : Instant) : Vouched team (s.visit (s.store.enqueueBatch now items) []) where
  distinct := h.distinct.enqueueBatch hf now
  known := fun hx => (h.known hx).imp fun row hrow =>
    ⟨Store.getItem?_enqueueBatch_of_some hrow.1 now items, hrow.2⟩
  backed := h.backed
  sent := by
    intro id row hrow hs
    rw [Scene.visit, Store.getItem?_enqueueBatch, Option.or_eq_some_iff] at hrow
    rcases hrow with hrow | ⟨-, hrow⟩
    · exact h.sent hrow hs
    · obtain ⟨item, -, rfl⟩ := Option.map_eq_some_iff.mp hrow
      cases hs

/-- What does not change the items leaves what vouches for them. -/
theorem edit (h : Vouched team s) {store : Store} (hi : store.items = s.store.items) :
    Vouched team (s.visit store []) :=
  h.visit (h.distinct.of_items hi) (g := id) (fun _ => rfl)
    (fun k => (Store.getItem?_of_items hi k).trans (Option.map_id_fun ▸ rfl)) (fun _ hs => .inl hs) []

end Vouched

theorem Store.id_of_getChannel? {s : Store} {id : Uuid} {channel : Channel}
    (h : s.getChannel? id = some channel) : channel.id = id := by
  obtain ⟨found, hfound, rfl⟩ := Option.map_eq_some_iff.mp h
  simpa using List.find?_some hfound

/-- **That what is `sent` is vouched for** is an invariant of all that happens. -/
theorem Happens.vouched {team : Nat → Worker} {s s' : Scene} (hs : Happens team s s')
    (h : Vouched team s) : Vouched team s' := by
  cases hs with
  | claim n now hs => exact h.claim
  | look n hs answer ha =>
      refine h.advance (by rw [hs]; exact List.Subset.refl _) ?_
      rcases answer with e | channel
      · trivial
      · cases channel with
        | none => trivial
        | some channel => exact Store.id_of_getChannel? (ha rfl).symm
  | send n hs hv he hm hp result =>
      refine h.advance (by rw [hs]; exact List.Subset.refl _) ?_
      cases result with
      | error e => trivial
      | ok _ =>
          have hchannel := h.backed n
          rw [hs] at hchannel
          exact ⟨_, List.mem_cons_self, .sent n rfl hchannel hm hp⟩
  | succeed n now hs =>
      refine h.report (Store.keepsOrigin_succeed now) (fun {row} hrow _ => ?_)
        (List.tail_sublist _).subset trivial
      -- the worker was told of success for a snapshot of this row
      have hitem := h.backed n
      rw [hs] at hitem
      obtain ⟨d, hd, hv⟩ := hitem
      obtain ⟨known, hknown, ho⟩ := h.known (n := n) (by rw [hs]; exact List.mem_cons_self)
      rw [hknown] at hrow
      exact ⟨d, hd, hv.of_origin (Option.some.inj hrow ▸ ho)⟩
  | fail n now hr =>
      exact h.report (Store.keepsOrigin_fail now _) (fun _ hsent => nomatch hsent)
        (List.tail_sublist _).subset trivial
  | putBack n now hs hl hw ha ht =>
      refine h.report (Store.keepsOrigin_putBack now _ _) (fun {row} _ hsent => ?_) ?_ ?_
      · rw [Store.putBack_status] at hsent
        exact nomatch hsent
      all_goals rcases ht with rfl | rfl
      · exact (List.tail_sublist _).subset
      · exact List.nil_subset _
      · trivial
      · trivial
  | lose n => exact h.advance (t := .ended _) (List.tail_sublist _).subset trivial
  | pass n ht => exact h.advance ht.todo.subset (ht.backed (h.backed n))
  | enqueue now hf => exact h.enqueue hf now
  | requeue now id =>
      exact h.change (Store.keepsOrigin_requeue now) (fun _ hsent => nomatch hsent) _
  | edit hi => exact h.edit hi

/-- **An item is `sent` only if a sender took its message**: one of the workers handed it over for the
item, with the subject and the body rendered from the payload that the item has, and was told of
success.  That is so in every run, with recovered claims, late reports, double claims and failing
calls of the store. -/
theorem sent_only_if_taken {team : Nat → Worker} {w : World} {c : Crew} {id : Uuid}
    {row : QueueItem} (hd : w.store.Distinct) (hfirst : ∀ row ∈ w.store.items, row.status ≠ .sent)
    (h : Run team Free w c) (hrow : c.world.store.getItem? id = some row)
    (hs : row.status = .sent) : ∃ d ∈ c.log, d.Vouches team row :=
  (h.scene_induction (I := Vouched team) (.first hd hfirst) (fun hs ih => hs.vouched ih)
    fun _ ih => ih.recover _ _).sent hrow hs

/-- A message that was sent under a claim since recovered, and is reported under the claim of another
worker. -/
theorem overtaken_report_was_taken :
    let c := Sample.overtaken.step Sample.team (.proceed 0)
    ∃ row, c.world.store.getItem? (Sample.id 3) = some row ∧ row.status = .sent ∧
      ∃ d ∈ c.log, d.Vouches Sample.team row := by
  intro c
  have hrun : Run Sample.team Free Sample.world c :=
    .step Sample.run_overtaken (.proceed 0) trivial trivial
  have hstatus : (c.world.store.getItem? (Sample.id 3)).map (·.status) = some .sent := rfl
  obtain ⟨row, hrow, hs⟩ := Option.map_eq_some_iff.mp hstatus
  exact ⟨row, hrow, hs,
    sent_only_if_taken (w := Sample.world) List.nodup_nil (List.forall_mem_nil _) hrun hrow hs⟩

end Courier
