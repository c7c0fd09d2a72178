import Courier.Proofs.Delivery.Apart
import Courier.Proofs.Delivery.Round
import Courier.Proofs.Delivery.Verdict
import Courier.Proofs.Queue.Due

/-!
# Proofs — Delivery — Portions

A queue that one worker works off in batches, at a fixed time.  How large the batches are decides
where the run is cut, and nothing else.

* `Worker.Postpones`: a script of the senders under which no item that goes back is due again.
* `Worker.serve`: an item alone, from its claim to its end.
* `run_processAll_taking`: items that were claimed together come to what they come to one by one.
* `portions_agree`: so batches of any size process the due items in one order and leave one world.
-/

namespace Courier

namespace Worker

/-- A failed attempt that waiting may mend and that was not the last is followed by another, later
than now. -/
def Defers (worker : Worker) (now : Instant) (item : QueueItem) (result : Except SendError Unit) :
    Prop :=
  ∀ setback, Setback.ofResult? result = some setback → ∃ last, item.isLastAttempt? = some last ∧
    (last = false → ∃ wait t, worker.wait? item setback.retryAfter = some wait ∧
      retryTime? now wait = some t ∧ t.le now = false)

/-- Items in a row for each of which its sender answers at once, and so that an item that goes back
is not due again. -/
def Postpones (worker : Worker) (s : Store) (now : Instant) :
    Table Nat (List Reply) → List QueueItem → Prop
  | _, [] => True
  | replies, item :: rest =>
    match worker.aim? s item with
    | none => Postpones worker s now replies rest
    | some place =>
      let reply := (World.takeNext place replies).1.getD .success
      reply.took.nanos = 0 ∧ worker.Defers now item reply.result ∧
        Postpones worker s now (World.takeNext place replies).2 rest

section

variable {worker : Worker} {s s' : Store} {now : Instant} {item : QueueItem}

/-- Only the channels of the store matter. -/
theorem postpones_congr (h : ∀ k, s'.getChannel? k = s.getChannel? k) :
    worker.Postpones s' now = worker.Postpones s now := by
  funext replies items
  induction items generalizing replies with
  | nil => rfl
  | cons item rest ih => simp only [Postpones, aim?, h, ih]

/-- A result that defers an item can be settled. -/
theorem Defers.canSettle {result : Except SendError Unit} (h : worker.Defers now item result) :
    worker.canSettle item now result = true := by
  cases result with
  | ok _ => rfl
  | error e =>
      by_cases hr : e.isRetryable = true
      · obtain ⟨last, hl, htime⟩ := h ⟨e.message, e.retryAfter⟩ (if_pos hr)
        rw [Worker.canSettle, hr, canPutOff, hl]
        cases last with
        | true => rfl
        | false =>
            obtain ⟨wait, t, hw, ht, -⟩ := htime rfl
            simp only [hw, Option.bind_some, ht, Option.isSome_some, Bool.or_true]
      · rw [Worker.canSettle, Bool.eq_false_iff.mpr hr, Bool.not_false, Bool.true_or]

/-- The worker gets over the first of the items, in no time, and what is left is left for the
others. -/
theorem Postpones.pass? {replies : Table Nat (List Reply)} {rest : List QueueItem}
    (h : worker.Postpones s now replies (item :: rest)) :
    ∃ replies', worker.pass? s ⟨replies, now⟩ item = some ⟨replies', now⟩ ∧
      worker.Postpones s now replies' rest := by
  rw [Postpones] at h
  rw [Worker.pass?]
  cases haim : worker.aim? s item with
  | none =>
      rw [haim] at h
      exact ⟨replies, rfl, h⟩
  | some place =>
      rw [haim] at h
      obtain ⟨htook, hdefers, hrest⟩ := h
      refine ⟨_, ?_, hrest⟩
      simp only [hear?, htook, Int.natCast_zero, Instant.shift?_zero, hdefers.canSettle, cond_true]

/-- The answer of its sender defers the first item. -/
theorem Postpones.defers {replies : Table Nat (List Reply)} {rest : List QueueItem}
    (h : worker.Postpones s now replies (item :: rest)) {place : Nat}
    (ha : worker.aim? s item = some place) :
    worker.Defers now item ((World.takeNext place replies).1.getD .success).result := by
  rw [Postpones, ha] at h
  exact h.2.1

/-- The sender that gets a message is that of the dispatch. -/
theorem aim?_eq (worker : Worker) (s : Store) (item : QueueItem) :
    worker.aim? s item = (worker.dispatch? s item).map (·.1) := by
  rw [aim?, dispatch?]
  cases s.getChannel? item.channelId with
  | none => rfl
  | some channel =>
      by_cases hgate : channel.verified = true ∧ channel.enabled = true
      · simp only [if_pos hgate, place?, message?]
        cases worker.renderer.render channel.channelType item.payload with
        | error e => rfl
        | ok message => simp only [Option.map_map, Function.comp_def, Option.map_id']
      · simp only [if_neg hgate, Option.map_none]

end

end Worker

/-- Rows claimed and counted. -/
def World.taking (taken : List Uuid) (n : Nat) (w : World) : World :=
  w.beside (Store.claimRow w.now taken) n

/-- A row alone, from its claim to its end. -/
def Worker.serve (worker : Worker) (w : World) (row : QueueItem) : World :=
  ((w.taking [row.id] 1).run (worker.processItem (row.claim w.now))).1

/-- A world in which a worker can work off the rows that are due. -/
structure World.Ready (w : World) (worker : Worker) (rows : List (QueueItem × Nat)) : Prop where
  distinct : w.store.Distinct
  faults : w.faults = .empty
  due : w.store.due w.now = rows
  postpones : worker.Postpones w.store w.now w.replies (rows.map (·.1))

namespace World

variable {w : World}

/-- To take nothing changes nothing. -/
theorem taking_nil (w : World) : w.taking [] 0 = w := by
  have hrows : Store.claimRow w.now [] = id := funext fun row => if_neg List.not_mem_nil
  have hmap : w.store.mapRows id = w.store := by rw [Store.mapRows, List.map_id]
  have hcount : w.metrics.recordFetched 0 = w.metrics := by
    show { w.metrics with fetched := w.metrics.fetched + 0 } = w.metrics
    rw [UInt64.add_zero]
  rw [taking, beside, hrows, hmap, hcount]

/-- Rows claimed together were claimed one after the other. -/
theorem taking_cons (id : Uuid) (taken : List Uuid) (n : Nat) (w : World) :
    w.taking (id :: taken) (n + 1) =
      (w.taking [id] 1).beside (Store.claimRow w.now taken) n := by
  have hrows : Store.claimRow w.now (id :: taken) =
      Store.claimRow w.now taken ∘ Store.claimRow w.now [id] := by
    funext row
    by_cases hid : row.id = id
    · by_cases hin : row.id ∈ taken <;>
        simp [Store.claimRow, hid, QueueItem.claim]
    · simp [Store.claimRow, hid]
  have hmap : w.store.mapRows (Store.claimRow w.now (id :: taken)) =
      (w.store.mapRows (Store.claimRow w.now [id])).mapRows (Store.claimRow w.now taken) := by
    rw [hrows, Store.mapRows, Store.mapRows, Store.mapRows, List.map_map]
  have hcount : w.metrics.recordFetched (n + 1) = (w.metrics.recordFetched 1).recordFetched n := by
    show { w.metrics with fetched := w.metrics.fetched + UInt64.ofNat (n + 1) } =
      { w.metrics with fetched := w.metrics.fetched + UInt64.ofNat 1 + UInt64.ofNat n }
    rw [UInt64.ofNat_add, UInt64.add_comm (UInt64.ofNat n), UInt64.add_assoc]
  simp only [taking, beside, hmap, hcount]

theorem distinct_taking (hd : w.store.Distinct) (taken : List Uuid) (n : Nat) :
    (w.taking taken n).store.Distinct := by
  show ((w.store.items.map _).map _).Nodup
  rw [map_id_map (Store.keepsId_claimRow w.now taken)]
  exact hd

/-- A row that is taken has been claimed. -/
theorem getItem?_taking {row : QueueItem} (h : w.store.getItem? row.id = some row) (n : Nat) :
    (w.taking [row.id] n).store.getItem? row.id = some (row.claim w.now) := by
  have hclaim : Store.claimRow w.now [row.id] row = row.claim w.now :=
    if_pos (List.mem_singleton.mpr rfl)
  show (w.store.items.map _).find? (fun other : QueueItem => other.id = row.id) = _
  rw [find?_map_of_keepsId (Store.keepsId_claimRow w.now _), ← hclaim]
  exact congrArg (Option.map _) h

/-- A claimed row that comes to a state in which it is not due leaves the other due rows. -/
theorem due_change_taking (hd : w.store.Distinct) {row : QueueItem} {place : Nat}
    {rest : List (QueueItem × Nat)} (h : w.store.due w.now = (row, place) :: rest)
    {f : QueueItem → QueueItem} (hgone : ¬(f (row.claim w.now)).isDue w.now = true) (n : Nat) :
    ((w.taking [row.id] n).store.change row.id .processing f).due w.now = rest := by
  refine Store.due_tail hd h (f := QueueItem.changeIn row.id .processing f ∘
    Store.claimRow w.now [row.id]) ?_ (fun other _ hid => ?_) ?_
  · rw [← List.map_map]
    exact changeFirst_eq_map (distinct_taking hd [row.id] n) _ _ _
  · have hother : Store.claimRow w.now [row.id] other = other :=
      if_neg fun hmem => hid (List.mem_singleton.mp hmem)
    rw [Function.comp_apply, hother]
    exact changeIn_of_not_isIn fun hin => hid (isIn_iff.mp hin).1
  · have hclaim : Store.claimRow w.now [row.id] row = row.claim w.now :=
      if_pos (List.mem_singleton.mpr rfl)
    have hin : (row.claim w.now).isIn row.id .processing = true := isIn_iff.mpr ⟨rfl, rfl⟩
    rw [Function.comp_apply, hclaim, changeIn_of_isIn hin]
    exact hgone

theorem nextFault?_eq_none (hf : w.faults = .empty) (name : String) :
    w.nextFault? name = none := by
  rw [nextFault?, hf]
  rfl

end World

namespace Worker
open Program

variable {worker : Worker} {w w' : World}

/-- A row that a worker has brought to its end under the script is not due again. -/
theorem not_due_of_verdict {item : QueueItem} {setback : Option Setback} {o : Outcome}
    {call : StoreCall} {now : Instant} (hv : Verdict worker item now setback o call)
    (hdefers : ∀ s, setback = some s → ∃ result, worker.Defers now item result ∧
      Setback.ofResult? result = some s) :
    ∃ f, KeepsId f ∧ (∀ s, call.serve now s = s.change item.id .processing f) ∧
      ¬(f item).isDue now = true := by
  obtain ⟨f, hf, hserve, -, hpending⟩ := hv.serve_eq now
  refine ⟨f, hf, hserve, fun hdue => ?_⟩
  obtain ⟨hstatus, hle⟩ := QueueItem.isDue_iff.mp hdue
  obtain ⟨s, wait, hs, hl, hw, ht⟩ := hpending hstatus
  obtain ⟨result, hresult, hof⟩ := hdefers s hs
  obtain ⟨last, hlast, htime⟩ := hresult s hof
  rw [hl] at hlast
  obtain ⟨wait', t, hw', ht', hlater⟩ := htime (Option.some.inj hlast).symm
  rw [hw] at hw'
  rw [← Option.some.inj hw', ht] at ht'
  rw [Option.some.inj ht', hlater] at hle
  cases hle

/-- The setback to which an item comes under a script. -/
theorem Postpones.of_setback? {item : QueueItem} {rest : List QueueItem}
    (h : worker.Postpones w.store w.now w.replies (item :: rest)) (hf : w.faults = .empty)
    {s : Setback} (hs : worker.setback? w item = some s) :
    ∃ result, worker.Defers w.now item result ∧ Setback.ofResult? result = some s := by
  rw [setback?, World.nextFault?_eq_none hf] at hs
  obtain ⟨⟨place, notification⟩, hdispatch, hof⟩ := Option.bind_eq_some_iff.mp hs
  exact ⟨_, h.defers (by rw [aim?_eq, hdispatch]; rfl), hof⟩

/-- One step: the first of the due rows is brought to its end, and the others are due as before. -/
theorem serve_ready {row : QueueItem} {place : Nat} {rest : List (QueueItem × Nat)}
    (h : w.Ready worker ((row, place) :: rest)) :
    ∃ o, (w.taking [row.id] 1).run (worker.processItem (row.claim w.now)) =
        (worker.serve w row, some o) ∧
      (worker.serve w row).now = w.now ∧ (worker.serve w row).Ready worker rest := by
  have hin : row ∈ w.store.items :=
    List.mem_of_getElem? (Store.mem_due.mp (h.due ▸ List.mem_cons_self)).1
  have hf₁ : (w.taking [row.id] 1).faults = .empty := h.faults
  have hd : (w.taking [row.id] 1).store.Distinct := World.distinct_taking h.distinct _ _
  have hrow : (w.taking [row.id] 1).store.getItem? (row.claim w.now).id =
      some (row.claim w.now) :=
    World.getItem?_taking (h.distinct.getItem?_of_mem hin) 1
  have hchannels : ∀ k, (w.taking [row.id] 1).store.getChannel? k = w.store.getChannel? k :=
    fun _ => rfl
  -- the claim is of no account to the script
  have hscript : worker.Postpones (w.taking [row.id] 1).store w.now w.replies
      (row.claim w.now :: rest.map (·.1)) := by
    rw [postpones_congr hchannels]
    exact h.postpones
  -- the worker gets over the item
  obtain ⟨replies, hpass, hrest⟩ := hscript.pass?
  have hleads : (w.taking [row.id] 1).Leads (worker.processItem (row.claim w.now)) row.id
      (worker.pass? (w.taking [row.id] 1).store ⟨w.replies, w.now⟩ (row.claim w.now)) :=
    processItem_leads hf₁ hd hrow
  rw [hpass] at hleads
  obtain ⟨w', o, hrun, hfaults, houtlook, hclose⟩ := hleads
  have hserve : worker.serve w row = w' := congrArg Prod.fst hrun
  have hnow : w'.now = w.now := congrArg Outlook.now houtlook
  have hreplies : w'.replies = replies := congrArg Outlook.replies houtlook
  -- and leaves a row that is not due
  obtain ⟨⟨call, hverdict, hstore⟩, -⟩ := processItem_concludes w' o hrun
  rw [hnow] at hverdict hstore
  obtain ⟨f, hf, hchange, hgone⟩ :=
    not_due_of_verdict hverdict fun s hs => hscript.of_setback? hf₁ hs
  rw [if_pos (World.nextFault?_eq_none hf₁ _), hchange] at hstore
  rw [hserve]
  refine ⟨o, hrun, hnow, hclose.distinct hd, hfaults.trans hf₁, ?_, ?_⟩
  · rw [hnow, hstore]
    exact World.due_change_taking h.distinct h.due hgone 1
  · rw [hnow, hreplies, postpones_congr hclose.getChannel?]
    exact hrest

/-- **Items that were claimed together come to what they come to one by one.** -/
theorem run_processAll_taking (rows rest : List (QueueItem × Nat))
    (h : w.Ready worker (rows ++ rest)) :
    (w.taking (rows.map (·.1.id)) rows.length).run
        (worker.processAll (rows.map fun entry => entry.1.claim w.now)) =
      ((rows.map (·.1)).foldl worker.serve w, some ()) ∧
    ((rows.map (·.1)).foldl worker.serve w).now = w.now ∧
    ((rows.map (·.1)).foldl worker.serve w).Ready worker rest := by
  induction rows generalizing w with
  | nil =>
      refine ⟨?_, rfl, h⟩
      show (w.taking [] 0).run (done ()) = (w, some ())
      rw [World.taking_nil]
      rfl
  | cons entry rows ih =>
      obtain ⟨row, place⟩ := entry
      obtain ⟨o, hrun, hnow, hready⟩ := serve_ready h
      obtain ⟨hall, hnow', hready'⟩ := ih hready
      rw [World.taking, hnow] at hall
      refine ⟨?_, hnow'.trans hnow, hready'⟩
      have hnodup := Store.nodup_due h.distinct w.now
      rw [h.due, List.cons_append, List.map_cons, List.nodup_cons, List.map_append] at hnodup
      have hspares : SparesRow (row.claim w.now).id
          (Store.claimRow w.now (rows.map (·.1.id))) :=
        ⟨Store.keepsId_claimRow _ _, fun other hid =>
          if_neg (hid ▸ fun hin => hnodup.1 (List.mem_append_left _ hin))⟩
      -- the others may as well be claimed once this one is at its end
      have hbeside := processItem_beside worker hspares rows.length (w.taking [row.id] 1)
      rw [hrun] at hbeside
      show (w.taking (row.id :: rows.map (·.1.id)) (rows.length + 1)).run
        ((worker.processItem (row.claim w.now)).bind fun _ => worker.processAll _) = _
      rw [World.taking_cons]
      exact (World.run_bind_some hbeside _).trans hall

/-! ### Batches -/

/-- A batch reports the end of each item that it claims. -/
theorem processBatch_reports (hf : w.faults = .empty) {item : QueueItem} {items : List QueueItem}
    (hc : w.store.claimed w.now worker.batchSize = item :: items)
    (hrun : World.run (worker.processAll (item :: items))
      { w with
        store := w.store.claimDue w.now worker.batchSize
        metrics := (Measurement.fetched (items.length + 1)).record w.metrics } = (w', some ())) :
    w.reports worker.processBatch = (item :: items).map (·.id) := by
  have hclaim := World.handle_store hf (.claimDue worker.batchSize)
  rw [show (StoreCall.claimDue worker.batchSize).answer? w.now w.store = some (item :: items) from
    congrArg some hc] at hclaim
  refine (World.reports_ask hclaim).trans ((World.reports_ask rfl).trans ?_)
  refine (World.reports_bind hrun _).trans ?_
  rw [processAll_reports hrun]
  exact List.append_nil _

/-- The worker with batches of so many items. -/
def sized (worker : Worker) (b : UInt32) : Worker := { worker with batchSize := b }

/-- How many items a worker claims at once does not matter for a batch that it has. -/
theorem processAll_sized (worker : Worker) (b : UInt32) (items : List QueueItem) :
    (worker.sized b).processAll items = worker.processAll items := by
  induction items with
  | nil => rfl
  | cons item rest ih =>
      show ((worker.sized b).processItem item).bind _ = (worker.processItem item).bind _
      rw [ih]
      rfl

/-- The rows that a claim takes are claimed and counted. -/
theorem claimDue_ready {rows : List (QueueItem × Nat)} (h : w.Ready worker rows) (b : UInt32) :
    w.store.claimed w.now b = (rows.take b.toNat).map (fun entry => entry.1.claim w.now) ∧
      { w with
        store := w.store.claimDue w.now b
        metrics := w.metrics.recordFetched (rows.take b.toNat).length } =
      w.taking ((rows.take b.toNat).map (·.1.id)) (rows.take b.toNat).length := by
  have hclaimed : w.store.claimed w.now b =
      (rows.take b.toNat).map fun entry => entry.1.claim w.now := by
    rw [Store.claimed, Store.claimable, h.due]
  have hitems : (w.store.claimDue w.now b).items =
      w.store.items.map (Store.claimRow w.now ((rows.take b.toNat).map (·.1.id))) := by
    rw [Store.items_claimDue h.distinct, hclaimed, List.map_map]
    rfl
  have hstore : w.store.claimDue w.now b =
      w.store.mapRows (Store.claimRow w.now ((rows.take b.toNat).map (·.1.id))) :=
    congrArg (fun items => { w.store with items }) hitems
  exact ⟨hclaimed, by rw [hstore]; rfl⟩

/-- **A batch brings the first of the due rows to their ends,** as many as it may. -/
theorem run_processBatch_ready {b : UInt32} (hb : 0 < b.toNat) {rows : List (QueueItem × Nat)}
    (h : w.Ready worker rows) (hrows : rows ≠ []) :
    ∃ w', w' = ((rows.take b.toNat).map (·.1)).foldl worker.serve w ∧
      w.run (worker.sized b).processBatch = (w', some (.ok (min b.toNat rows.length))) ∧
      w.reports (worker.sized b).processBatch = (rows.take b.toNat).map (·.1.id) ∧
      w'.Ready worker (rows.drop b.toNat) := by
  have hready : w.Ready worker (rows.take b.toNat ++ rows.drop b.toNat) := by
    rwa [List.take_append_drop]
  obtain ⟨hall, -, hrest⟩ := run_processAll_taking _ _ hready
  obtain ⟨hclaimed, htaking⟩ := claimDue_ready h b
  have hlength : (rows.take b.toNat).length = min b.toNat rows.length := List.length_take
  obtain ⟨entry, taken, htake⟩ : ∃ entry taken, rows.take b.toNat = entry :: taken := by
    refine List.exists_cons_of_ne_nil fun hnil => ?_
    rcases List.take_eq_nil_iff.mp hnil with hzero | hnil
    · omega
    · exact hrows hnil
  rw [← htaking, ← processAll_sized worker b] at hall
  rw [htake] at hclaimed hall hrest hlength ⊢
  have hcount : (taken.map fun entry => entry.1.claim w.now).length = taken.length :=
    List.length_map _
  rw [List.length_cons, ← hcount] at hall
  refine ⟨_, rfl, ?_, ?_, hrest⟩
  · have hbatch : w.run (worker.sized b).processBatch = _ :=
      run_processBatch_cons h.faults hclaimed
    rw [hbatch, ← hlength, List.length_cons, ← hcount]
    exact World.run_bind_some hall _
  · have hbatch : w.reports (worker.sized b).processBatch = _ :=
      processBatch_reports h.faults hclaimed hall
    rw [hbatch]
    exact congrArg (entry.1.id :: ·) List.map_map

/-- So many batches in a row bring so many times as many rows to their ends. -/
theorem run_batches_ready {b : UInt32} (hb : 0 < b.toNat) (k : Nat)
    {rows : List (QueueItem × Nat)} (h : w.Ready worker rows)
    (hk : ∀ i < k, i * b.toNat < rows.length) :
    ∃ w', w' = ((rows.take (k * b.toNat)).map (·.1)).foldl worker.serve w ∧
      w.run ((worker.sized b).batches k) = (w', some ((List.range k).map fun i =>
        .ok (min b.toNat (rows.length - i * b.toNat)))) ∧
      w.reports ((worker.sized b).batches k) = (rows.take (k * b.toNat)).map (·.1.id) ∧
      w'.Ready worker (rows.drop (k * b.toNat)) := by
  induction k generalizing w rows with
  | zero =>
      rw [Nat.zero_mul]
      exact ⟨w, rfl, rfl, rfl, h⟩
  | succ k ih =>
      have hrows : rows ≠ [] :=
        List.ne_nil_of_length_pos (Nat.zero_mul b.toNat ▸ hk 0 (Nat.succ_pos k))
      obtain ⟨w₁, hw₁, hrun, hreports, hready⟩ := run_processBatch_ready hb h hrows
      have hrest : ∀ i < k, i * b.toNat < (rows.drop b.toNat).length := by
        intro i hi
        have hnext := hk (i + 1) (Nat.succ_lt_succ hi)
        rw [Nat.succ_mul] at hnext
        rw [List.length_drop]
        omega
      obtain ⟨w', hw', hrun', hreports', hready'⟩ := ih hready hrest
      have htake : rows.take ((k + 1) * b.toNat) =
          rows.take b.toNat ++ (rows.drop b.toNat).take (k * b.toNat) := by
        rw [Nat.succ_mul, Nat.add_comm, List.take_add]
      refine ⟨w', ?_, ?_, ?_, ?_⟩
      · rw [htake, List.map_append, List.foldl_append, ← hw₁, hw']
      · show w.run ((worker.sized b).processBatch.bind fun result =>
          ((worker.sized b).batches k).bind fun results => done (result :: results)) = _
        have hcounts : (List.range k).map (fun i =>
              (Except.ok (min b.toNat ((rows.drop b.toNat).length - i * b.toNat)) :
                Except StoreError Nat)) =
            (List.range k).map fun i =>
              .ok (min b.toNat (rows.length - (i + 1) * b.toNat)) := by
          refine List.map_congr_left fun i _ => ?_
          rw [List.length_drop, Nat.succ_mul, Nat.add_comm (i * b.toNat), Nat.sub_sub]
        rw [World.run_bind_some hrun, World.run_bind_some hrun', World.run_done, hcounts,
          List.range_succ_eq_map, List.map_cons, List.map_map, Nat.zero_mul, Nat.sub_zero]
        rfl
      · show w.reports ((worker.sized b).processBatch.bind fun result =>
          ((worker.sized b).batches k).bind fun results => done (result :: results)) = _
        rw [World.reports_bind hrun, World.reports_bind hrun', hreports, hreports', htake,
          List.map_append, World.reports_done, List.append_nil]
      · rwa [Nat.succ_mul, Nat.add_comm, ← List.drop_drop]

/-- Where nothing is due, a batch does nothing. -/
theorem run_processBatch_idle (h : w.Ready worker []) (b : UInt32) :
    w.run (worker.sized b).processBatch = (w, some (.ok 0)) := by
  obtain ⟨hclaimed, htaking⟩ := claimDue_ready h b
  rw [List.take_nil] at hclaimed htaking
  have hstore : (StoreCall.claimDue b).serve w.now w.store = w.store :=
    congrArg World.store (htaking.trans (World.taking_nil w))
  have hidle : (StoreCall.claimDue b).answer? w.now w.store = some [] := congrArg some hclaimed
  show w.run ((call (.claimDue b)).bind _) = _
  rw [World.run_read h.faults hstore hidle]
  rfl

end Worker

/-- The number of batches is the least that makes room for all. -/
theorem lt_batches_iff {b m i : Nat} (hb : 0 < b) : i < (m + b - 1) / b ↔ i * b < m := by
  rw [Nat.lt_iff_add_one_le, Nat.le_div_iff_mul_le hb, Nat.succ_mul]
  omega

/-- **Batches of any size come to the same.**  They process the rows that are due, each once and in
the order of their times and places, in as few batches as there is room for, and whatever their size
they leave one world: its store, its counters and what its senders got.  After them nothing is
due. -/
theorem portions_agree {worker : Worker} {w : World} (hd : w.store.Distinct)
    (hf : w.faults = .empty)
    (hp : worker.Postpones w.store w.now w.replies ((w.store.due w.now).map (·.1))) :
    (w.store.due w.now).Perm (w.store.items.zipIdx.filter fun entry => entry.1.isDue w.now) ∧
      (w.store.due w.now).Pairwise Ahead ∧
      ∃ w', ∀ b : UInt32, 0 < b.toNat → ∀ m k, m = w.store.items.countP (·.isDue w.now) →
        k = (m + b.toNat - 1) / b.toNat →
        w.run ((worker.sized b).batches k) = (w', some ((List.range k).map fun i =>
          .ok (min b.toNat (m - i * b.toNat)))) ∧
        w.reports ((worker.sized b).batches k) = (w.store.due w.now).map (·.1.id) ∧
        w'.run (worker.sized b).processBatch = (w', some (.ok 0)) := by
  refine ⟨w.store.due_perm w.now, w.store.due_ahead w.now,
    ((w.store.due w.now).map (·.1)).foldl worker.serve w, fun b hb m k hm hk => ?_⟩
  have hready : w.Ready worker (w.store.due w.now) := ⟨hd, hf, rfl, hp⟩
  rw [← Store.length_due] at hm
  obtain ⟨w', hw', hrun, hreports, hdone⟩ := Worker.run_batches_ready hb k hready
    fun i hi => hm ▸ (lt_batches_iff hb).mp (hk ▸ hi)
  -- the batches make room for all
  have hall : (w.store.due w.now).length ≤ k * b.toNat := by
    rw [← hm]
    exact Nat.not_lt.mp fun hlt => absurd ((lt_batches_iff hb).mpr hlt) (hk ▸ Nat.lt_irrefl k)
  rw [List.take_of_length_le hall] at hw' hreports
  rw [List.drop_of_length_le hall] at hdone
  rw [← hm] at hrun
  rw [← hw']
  exact ⟨hrun, hreports, Worker.run_processBatch_idle hdone b⟩

namespace Sample

/-- Three messages that are due, and a sender that gets no answer for the first of them. -/
def faltering : World :=
  { world with
    store := { world.store with
      items := [2, 3, 4].map fun n => { (item 5).enter .epoch with id := id n } }
    replies := Table.empty.set 0 [⟨.error (.timeout "no answer"), ⟨0⟩⟩] }

theorem faltering_postpones :
    (pauser 1000).Postpones faltering.store faltering.now faltering.replies
      ((faltering.store.due faltering.now).map (·.1)) := by
  refine ⟨rfl, ?_, rfl, ?_, rfl, ?_, trivial⟩
  · intro setback hs
    obtain rfl := Option.some.inj hs
    refine ⟨false, rfl, fun _ => ⟨.ofMillis 1000, ⟨1, 0, by decide⟩, ?_, ?_, ?_⟩⟩
    all_goals decide +kernel
  all_goals
    intro setback hs
    cases hs

end Sample

/-- One message at a time, two, or all at once: the first is put back, and the others are sent. -/
theorem faltering_portions_agree :
    ∃ w', ∀ b : UInt32, 0 < b.toNat →
      Sample.faltering.run (((Sample.pauser 1000).sized b).batches ((3 + b.toNat - 1) / b.toNat)) =
        (w', some ((List.range ((3 + b.toNat - 1) / b.toNat)).map fun i =>
          .ok (min b.toNat (3 - i * b.toNat)))) := by
  have hd : Sample.faltering.store.Distinct := by
    rw [Store.Distinct]
    decide
  obtain ⟨-, -, w', h⟩ := portions_agree hd rfl Sample.faltering_postpones
  exact ⟨w', fun b hb => (h b hb 3 _ (by decide) rfl).1⟩

end Courier
