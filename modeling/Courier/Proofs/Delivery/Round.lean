import Courier.Proofs.Course
import Courier.Proofs.Message.Renderer
import Courier.Proofs.Queue.History
import Courier.Proofs.Queue.Line
import Courier.Proofs.Registry
import Courier.Proofs.Store.Channels

/-!
# Proofs — Delivery — Round

Batches in a row, over senders that take what they get and a store that answers, and on any course
of time.

* `World.Delivers`: what becomes of items on the way from one world to another: each is `sent` or
  `failed`, as its kind of channel has a sender or not, and the senders got their messages in order.
* `processItem_ends`, `processAll_delivers`, `processBatch_delivers`: an item, several items, and
  the first of a line.
* `batches_delivers`: `k` batches of `b` items deliver the first `k * b` of a line.
-/

namespace Courier

/-! ### What a delivery comes to -/

namespace Worker

/-- The message that a channel gets; none where no sender serves its kind. -/
def letter? (w : Worker) (c : Channel) (p : Payload) : Option Sent :=
  (w.registry.sender? c.channelType).map fun place =>
    ⟨place, ⟨c.recipient, p.subject, Renderer.body c.channelType p.kind p⟩, true⟩

/-- How an item for the channel ends. -/
def ending (w : Worker) (c : Channel) : QueueStatus :=
  if c.channelType ∈ w.registry.types then .sent else .failed

/-- No item waits once it was processed. -/
theorem ending_ne_pending (w : Worker) (c : Channel) : w.ending c ≠ .pending := by
  rw [ending]
  split <;> exact nofun

end Worker

/-- The item is for the channel, to which messages may go. -/
structure QueueItem.Reaches (s : Store) (item : QueueItem) (c : Channel) : Prop where
  channel : s.getChannel? item.channelId = some c
  enabled : c.enabled = true
  verified : c.verified = true

namespace World

/-- No call of the store fails, and every sender takes what it gets. -/
structure Fair (w : World) : Prop where
  faults : w.faults = .empty
  replies : w.replies = .empty

/-- What became of items for channels on the way from one world to another. -/
structure Delivers (w : World) (worker : Worker) (cs : List Channel) (items rows : List QueueItem)
    (w' : World) : Prop where
  origins : rows.map (·.origin) = items.map (·.origin)
  statuses : rows.map (·.status) = cs.map worker.ending
  sent : w'.sent =
    ((cs.zip items).filterMap fun (c, item) => worker.letter? c item.payload).reverse ++ w.sent
  channels : ∀ id, w'.store.getChannel? id = w.store.getChannel? id
  ids : w'.store.ids = w.store.ids
  replies : w'.replies = w.replies
  faults : w'.faults = w.faults
  now : w.now.le w'.now = true

namespace Delivers

variable {w w' w'' : World} {worker : Worker} {cs cs' : List Channel}
  {items items' rows rows' : List QueueItem}

/-- Time that passes delivers nothing. -/
theorem of_later (h : w.Later w') (worker : Worker) : w.Delivers worker [] [] [] w' :=
  ⟨rfl, rfl, h.sent, fun id => by rw [h.store], by rw [h.store], h.replies, h.faults, h.now⟩

theorem fair (h : w.Delivers worker cs items rows w') (hw : w.Fair) : w'.Fair :=
  ⟨h.faults.trans hw.faults, h.replies.trans hw.replies⟩

theorem distinct (h : w.Delivers worker cs items rows w') (hd : w.store.Distinct) :
    w'.store.Distinct := by
  rw [Store.Distinct, h.ids]
  exact hd

/-- A delivery leaves an item its channel. -/
theorem reaches (h : w.Delivers worker cs items rows w') {item : QueueItem} {c : Channel}
    (hr : item.Reaches w.store c) : item.Reaches w'.store c :=
  ⟨(h.channels item.channelId).trans hr.channel, hr.enabled, hr.verified⟩

/-- No row that was delivered waits. -/
theorem settled (h : w.Delivers worker cs items rows w') : ∀ row ∈ rows, row.status ≠ .pending := by
  intro row hrow
  have hstatus : row.status ∈ cs.map worker.ending := h.statuses ▸ List.mem_map_of_mem hrow
  obtain ⟨c, -, hc⟩ := List.mem_map.mp hstatus
  exact hc ▸ worker.ending_ne_pending c

/-- It does not matter to a delivery that the items were claimed for it. -/
theorem of_claim {now : Instant} (h : w.Delivers worker cs (items.map (·.claim now)) rows w') :
    w.Delivers worker cs items rows w' := by
  refine ⟨?_, h.statuses, ?_, h.channels, h.ids, h.replies, h.faults, h.now⟩
  · rw [h.origins, List.map_map]
    rfl
  · rw [h.sent, List.zip_map_right, List.filterMap_map]
    rfl

/-- One delivery after another. -/
theorem append (h : w.Delivers worker cs items rows w')
    (h' : w'.Delivers worker cs' items' rows' w'') (hlen : cs.length = items.length) :
    w.Delivers worker (cs ++ cs') (items ++ items') (rows ++ rows') w'' where
  origins := by rw [List.map_append, h.origins, h'.origins, List.map_append]
  statuses := by rw [List.map_append, h.statuses, h'.statuses, List.map_append]
  sent := by
    rw [h'.sent, h.sent, List.zip_append hlen, List.filterMap_append, List.reverse_append,
      List.append_assoc]
  channels := fun id => (h'.channels id).trans (h.channels id)
  ids := h'.ids.trans h.ids
  replies := h'.replies.trans h.replies
  faults := h'.faults.trans h.faults
  now := Instant.le_trans h.now h'.now

end Delivers

end World

namespace Worker
open Program

variable {worker : Worker} {w : World} {item : QueueItem} {c : Channel}

/-! ### One item -/

/-- The row of the item ended, and the channel got its message if a sender serves it. -/
def Ends (worker : Worker) (c : Channel) (item : QueueItem) (w w' : World) : Prop :=
  ∃ f, KeepsOrigin f ∧ (∀ row, (f row).status = worker.ending c) ∧
    World.Later
      { w with
        store := w.store.change item.id .processing f
        sent := (worker.letter? c item.payload).toList ++ w.sent } w'

/-- What ends an item may take its time after it. -/
theorem Ends.later {w' w'' : World} (h : worker.Ends c item w w') (hl : w'.Later w'') :
    worker.Ends c item w w'' := by
  obtain ⟨f, hf, hs, hlater⟩ := h
  exact ⟨f, hf, hs, hlater.trans hl⟩

/-- What ends an item may take its time before it. -/
theorem Ends.of_later {w₁ w' : World} (h : worker.Ends c item w₁ w') (hl : w.Later w₁) :
    worker.Ends c item w w' := by
  obtain ⟨f, hf, hs, hlater⟩ := h
  refine ⟨f, hf, hs, ?_, hlater.minted.trans hl.minted, hlater.replies.trans hl.replies,
    hlater.faults.trans hl.faults, ?_, Instant.le_trans hl.now hlater.now⟩
  · rw [hlater.store, hl.store]
  · rw [hlater.sent, hl.sent]

/-- To fail an item that gets no letter ends it. -/
theorem fail_ends (hw : w.Fair) (hletter : worker.letter? c item.payload = none)
    (hending : worker.ending c = .failed) (error : String) :
    (fail item error).Ensures (fun w' _ => worker.Ends c item w w') w := by
  refine Ensures.call hw.faults fun w₁ h₁ => ⟨(), rfl, ?_⟩
  have hends : worker.Ends c item w₁
      { w₁ with store := w₁.store.markFailed w₁.now item.id error } := by
    refine ⟨(·.fail w₁.now error), Store.keepsOrigin_fail w₁.now error, fun _ => hending.symm, ?_⟩
    rw [hletter]
    exact .refl _
  exact hends.of_later h₁

/-- A kind of channel without a sender: the item fails. -/
theorem deliverTo_unserved (hw : w.Fair) (hr : worker.renderer = .standard)
    (hs : worker.registry.sender? c.channelType = none) :
    (worker.deliverTo item c).Ensures (fun w' _ => worker.Ends c item w w') w := by
  have hletter : worker.letter? c item.payload = none := by rw [letter?, hs, Option.map_none]
  have hending : worker.ending c = .failed := if_neg (Registry.sender?_eq_none_iff.mp hs)
  rw [deliverTo, hr, Renderer.render_standard]
  simp only [hs]
  exact (fail_ends hw hletter hending _).bind fun w' _ h => h

/-- A kind of channel with a sender: the channel gets its message, and the item is `sent`. -/
theorem deliverTo_served (hw : w.Fair) (hr : worker.renderer = .standard) {place : Nat}
    (hs : worker.registry.sender? c.channelType = some place) :
    (worker.deliverTo item c).Ensures (fun w' _ => worker.Ends c item w w') w := by
  have hletter : worker.letter? c item.payload =
      some ⟨place, ⟨c.recipient, item.payload.subject,
        Renderer.body c.channelType item.payload.kind item.payload⟩, true⟩ := by
    rw [letter?, hs, Option.map_some]
  have hending : worker.ending c = .sent := by
    refine if_pos (Decidable.byContradiction fun h => ?_)
    rw [Registry.sender?_eq_none_iff.mpr h] at hs
    cases hs
  rw [deliverTo, hr, Renderer.render_standard]
  simp only [hs]
  refine Ensures.send hw.replies fun w₁ h₁ => Ensures.measure fun w₂ h₂ => ?_
  refine Ensures.call (h₂.faults.trans (h₁.faults.trans hw.faults)) fun w₃ h₃ => ⟨(), rfl, ?_⟩
  have hlater := h₂.trans h₃
  refine ⟨_, Store.keepsOrigin_succeed w₃.now, fun _ => hending.symm, ?_,
    hlater.minted.trans h₁.minted, hlater.replies.trans h₁.replies,
    hlater.faults.trans h₁.faults, ?_, Instant.le_trans h₁.now hlater.now⟩
  · show w₃.store.change item.id .processing _ = _
    rw [hlater.store, ← h₁.store]
  · rw [hletter]
    exact hlater.sent

/-- To process an item of a reached channel ends it. -/
theorem processItem_ends (hw : w.Fair) (hr : worker.renderer = .standard)
    (hc : item.Reaches w.store c) :
    (worker.processItem item).Ensures (fun w' _ => worker.Ends c item w w') w := by
  have hdeliver : (worker.deliver item).Ensures (fun w' _ => worker.Ends c item w w') w := by
    refine Ensures.read hw.faults (fun _ _ => rfl) fun w₁ h₁ => ⟨some c, ?_, ?_⟩
    · rw [StoreCall.answer?, h₁.store, hc.channel]
    · have hw₁ : w₁.Fair := ⟨h₁.faults.trans hw.faults, h₁.replies.trans hw.replies⟩
      simp only [hc.verified, hc.enabled, not_true_eq_false, if_false]
      refine Ensures.bind (P := fun w' _ => worker.Ends c item w w') ?_ fun w' _ h => h
      cases hs : worker.registry.sender? c.channelType with
      | none => exact (deliverTo_unserved hw₁ hr hs).mono fun w' _ h => h.of_later h₁
      | some place => exact (deliverTo_served hw₁ hr hs).mono fun w' _ h => h.of_later h₁
  exact hdeliver.bind fun w' _ h => Ensures.measure fun w'' hl => h.later hl

/-! ### Several items -/

variable {cs : List Channel} {items done waiting pre post : List QueueItem}

/-- To end an item is to deliver it, and it alone. -/
theorem Ends.delivers {w' : World} (h : worker.Ends c item w w') (hd : w.store.Distinct)
    (hitems : w.store.items = pre ++ item :: post) (hs : item.status = .processing) :
    ∃ row, w'.store.items = pre ++ row :: post ∧ w.Delivers worker [c] [item] [row] w' := by
  obtain ⟨f, hf, hending, hlater⟩ := h
  have hpre : ∀ other ∈ pre, ¬other.isIn item.id .processing = true := by
    intro other hother hin
    rw [Store.Distinct, Store.ids, hitems, List.map_append, List.map_cons] at hd
    obtain ⟨-, -, hne⟩ := List.nodup_append.mp hd
    exact hne _ (List.mem_map_of_mem hother) _ List.mem_cons_self (isIn_iff.mp hin).1
  refine ⟨f item, ?_, ?_, ?_, ?_, fun id => ?_, ?_, hlater.replies, hlater.faults, hlater.now⟩
  · rw [hlater.store]
    show changeFirst _ f w.store.items = _
    rw [hitems, changeFirst_append_cons hpre (isIn_iff.mpr ⟨rfl, hs⟩)]
  · rw [List.map_singleton, List.map_singleton, hf item]
  · rw [List.map_singleton, List.map_singleton, hending item]
  · rw [hlater.sent]
    cases hl : worker.letter? c item.payload <;> simp [hl]
  · rw [hlater.store]
    rfl
  · rw [hlater.store]
    exact Store.ids_change (fun row => QueueItem.id_of_origin (hf row)) _ _ _

/-- **Each item in turn comes to its end,** and nothing else in the queue changes. -/
theorem processAll_delivers (pre post : List QueueItem) (cs : List Channel)
    (hr : worker.renderer = .standard) (hw : w.Fair) (hd : w.store.Distinct)
    (hitems : w.store.items = pre ++ (items ++ post))
    (hs : ∀ item ∈ items, item.status = .processing)
    (hc : List.Forall₂ (QueueItem.Reaches w.store) items cs) :
    (worker.processAll items).Ensures (fun w' _ => ∃ rows,
      w'.store.items = pre ++ (rows ++ post) ∧ w.Delivers worker cs items rows w') w := by
  induction items generalizing w cs pre with
  | nil =>
      cases hc
      exact ⟨[], hitems, .of_later (.refl w) worker⟩
  | cons item rest ih =>
      cases hc with
      | @cons _ c _ cs hfirst hrest =>
          refine (processItem_ends hw hr hfirst).bind fun w₁ _ hends => ?_
          obtain ⟨row, hitems₁, h₁⟩ :=
            hends.delivers hd hitems (hs item List.mem_cons_self)
          refine (ih (pre ++ [row]) cs (h₁.fair hw) (h₁.distinct hd) ?_
            (fun x hx => hs x (List.mem_cons_of_mem item hx))
            (hrest.imp fun _ _ hx => h₁.reaches hx)).mono fun w' _ ⟨rows, hitems', h'⟩ => ?_
          · rw [hitems₁, List.append_assoc]
            rfl
          · refine ⟨row :: rows, ?_, h₁.append h' rfl⟩
            rw [hitems', List.append_assoc]
            rfl

/-! ### Batches -/

/-- The items of a claim come to their ends, and are no longer in the line. -/
theorem processClaimed_delivers (hr : worker.renderer = .standard) (hw : w.Fair)
    (hd : w.store.Distinct) (hline : w.store.Line done waiting)
    (hdue : ∀ row ∈ waiting, row.nextAttemptAt.le w.now = true)
    (hc : List.Forall₂ (QueueItem.Reaches w.store) waiting cs) {w₁ : World}
    (h₁ : World.Later { w with store := w.store.claimDue w.now worker.batchSize } w₁) :
    (worker.processAll (w.store.claimed w.now worker.batchSize)).Ensures (fun w' _ => ∃ rows,
      w'.store.Line (done ++ rows) (waiting.drop worker.batchSize.toNat) ∧
        w.Delivers worker (cs.take worker.batchSize.toNat)
          (waiting.take worker.batchSize.toNat) rows w') w₁ := by
  have hline₁ : (w.store.claimDue w.now worker.batchSize).Line _ _ := hline.claimDue_of_due hd hdue
  have hchannels : ∀ id, w₁.store.getChannel? id = w.store.getChannel? id :=
    fun id => by rw [h₁.store]; rfl
  have hids : w₁.store.ids = w.store.ids := by rw [h₁.store, Store.ids_claimDue hd]
  have hclaim : w.Delivers worker [] [] [] w₁ :=
    ⟨rfl, rfl, h₁.sent, hchannels, hids, h₁.replies, h₁.faults, h₁.now⟩
  rw [hline.claimed_of_due hdue]
  refine (processAll_delivers done (waiting.drop worker.batchSize.toNat)
    (cs.take worker.batchSize.toNat) hr (hclaim.fair hw) (hclaim.distinct hd) ?_ ?_ ?_).mono
    fun w' _ ⟨rows, hitems, h⟩ => ?_
  · rw [h₁.store, hline₁.items, List.append_assoc]
  · intro item hitem
    obtain ⟨row, -, rfl⟩ := List.mem_map.mp hitem
    rfl
  · refine List.forall₂_map_left_iff.mpr ((List.forall₂_take _ hc).imp fun row c hrow => ?_)
    exact ⟨(hchannels _).trans hrow.channel, hrow.enabled, hrow.verified⟩
  · refine ⟨rows, ⟨?_, fun row hrow => ?_, hline₁.pending, hline₁.rising⟩,
      hclaim.append h.of_claim rfl⟩
    · rw [hitems, List.append_assoc]
    · rcases List.mem_append.mp hrow with hrow | hrow
      · exact hline.past row hrow
      · exact h.settled row hrow

/-- **A batch delivers the first of those that wait,** as many as the worker takes at once, and they
are no longer in the line. -/
theorem processBatch_delivers (hr : worker.renderer = .standard) (hw : w.Fair)
    (hd : w.store.Distinct) (hline : w.store.Line done waiting)
    (hdue : ∀ row ∈ waiting, row.nextAttemptAt.le w.now = true)
    (hc : List.Forall₂ (QueueItem.Reaches w.store) waiting cs) :
    worker.processBatch.Ensures (fun w' result => result.isOk = true ∧ ∃ rows,
      w'.store.Line (done ++ rows) (waiting.drop worker.batchSize.toNat) ∧
        w.Delivers worker (cs.take worker.batchSize.toNat)
          (waiting.take worker.batchSize.toNat) rows w') w := by
  refine Ensures.call hw.faults fun w₁ h₁ => ⟨_, rfl, ?_⟩
  have hstart : w.Delivers worker [] [] [] w₁ := .of_later h₁ worker
  have hitems := fun {w₂ : World} (h₂ : World.Later _ w₂) =>
    processClaimed_delivers hr (hstart.fair hw) (hstart.distinct hd) (h₁.store.symm ▸ hline)
      (fun row hrow => Instant.le_trans (hdue row hrow) h₁.now)
      (hc.imp fun _ _ h => hstart.reaches h) h₂
  generalize w₁.store.claimed w₁.now worker.batchSize = items at hitems
  cases items with
  | nil =>
      obtain ⟨rows, hline', h⟩ := hitems (.refl _)
      exact ⟨rfl, rows, hline', hstart.append h rfl⟩
  | cons item rest =>
      refine Ensures.measure fun w₂ h₂ => (hitems h₂).bind fun w' _ ⟨rows, hline', h⟩ => ?_
      exact ⟨rfl, rows, hline', hstart.append h rfl⟩

/-- Batches in a row, with what came of each. -/
def batches (worker : Worker) : Nat → Program (List (Except StoreError Nat))
  | 0 => return []
  | k + 1 => do
    let result ← worker.processBatch
    let results ← worker.batches k
    return result :: results

/-- **Batches in a row deliver a line from its front,** so many items at a time. -/
theorem batches_delivers (k : Nat) (hr : worker.renderer = .standard) (hw : w.Fair)
    (hd : w.store.Distinct) (hline : w.store.Line done waiting)
    (hdue : ∀ row ∈ waiting, row.nextAttemptAt.le w.now = true)
    (hc : List.Forall₂ (QueueItem.Reaches w.store) waiting cs) :
    (worker.batches k).Ensures (fun w' results => (∀ result ∈ results, result.isOk = true) ∧
      ∃ rows, w'.store.Line (done ++ rows) (waiting.drop (k * worker.batchSize.toNat)) ∧
        w.Delivers worker (cs.take (k * worker.batchSize.toNat))
          (waiting.take (k * worker.batchSize.toNat)) rows w') w := by
  generalize hb : worker.batchSize.toNat = b
  induction k generalizing w done waiting cs with
  | zero =>
      rw [Nat.zero_mul]
      exact ⟨List.forall_mem_nil _, [], by rwa [List.append_nil], .of_later (.refl w) worker⟩
  | succ k ih =>
      have hlength : (cs.take b).length = (waiting.take b).length := by
        rw [List.length_take, List.length_take, hc.length_eq]
      refine (processBatch_delivers hr hw hd hline hdue hc).bind
        fun w₁ result ⟨hresult, rows₁, hline₁, h₁⟩ => ?_
      rw [hb] at hline₁ h₁
      refine (ih (h₁.fair hw) (h₁.distinct hd) hline₁
        (fun row hrow => Instant.le_trans (hdue row (List.mem_of_mem_drop hrow)) h₁.now)
        ((List.forall₂_drop b hc).imp fun _ _ h => h₁.reaches h)).bind
        fun w' results ⟨hresults, rows, hline', h'⟩ => ?_
      rw [Nat.succ_mul, Nat.add_comm (k * b) b, List.take_add, List.take_add, ← List.drop_drop]
      refine ⟨List.forall_mem_cons.mpr ⟨hresult, hresults⟩, rows₁ ++ rows, ?_, h₁.append h' hlength⟩
      rwa [← List.append_assoc]

end Worker

end Courier
