import Mathlib.Data.List.Forall2
import Courier.Proofs.Announcement.Lookup
import Courier.Proofs.Course
import Courier.Proofs.Store.Channels
import Courier.Proofs.Store.Subscribers

/-!
# Proofs — Announcement — Items

What an announcement queues over a store that answers.

* `Announcer.payload_looks`: a snapshot is made by looking only, and it is one of the event.
* `Announcer.Covers`: new items, one for each channel in order, all with one snapshot.
* `Announcer.announce_files`: an announcement queues these and does nothing else.
* `Announcer.onCreated_ensures`: a new event is queued for its audience.
-/

namespace Courier

namespace World

/-! ### Identifiers -/

/-- The next `n` identifiers are different. -/
def Mints (w : World) (n : Nat) : Prop := ((List.range' w.minted n).map mintedId).Nodup

/-- Two minted identifiers are the same exactly if their numbers agree in the last 48 bits. -/
theorem mintedId_inj {m n : Nat} :
    mintedId m = mintedId n ↔ m % 0x1000000000000 = n % 0x1000000000000 := by
  constructor
  · intro h
    have hbits := congrArg (fun id : Uuid => id.bits.toNat) h
    simp only [mintedId, BitVec.toNat_ofNat] at hbits
    omega
  · intro h
    rw [mintedId, mintedId, h]

/-- There are enough identifiers for any queue. -/
theorem mints_of_le (w : World) {n : Nat} (h : n ≤ 0x1000000000000) : w.Mints n := by
  refine List.Nodup.map_on (fun i hi j hj hij => ?_) List.nodup_range'
  rw [List.mem_range'_1] at hi hj
  rw [mintedId_inj] at hij
  omega

/-! ### Arrivals -/

/-- The queue gained items, and all else that a delivery depends on is as it was. -/
structure Gains (w : World) (items : List NewItem) (now : Instant) (w' : World) : Prop where
  items : w'.store.items = w.store.items ++ items.map (·.enter now)
  channels : ∀ id, w'.store.getChannel? id = w.store.getChannel? id
  replies : w'.replies = w.replies
  faults : w'.faults = w.faults
  sent : w'.sent = w.sent
  since : w.now.le now = true
  till : now.le w'.now = true

/-- Time passed, and the store came to `s` with new items at the end of its queue. -/
structure Queues (w : World) (s : Store) (items : List NewItem) (now : Instant) (w' : World) :
    Prop where
  store : w'.store = s.enqueueBatch now items
  replies : w'.replies = w.replies
  faults : w'.faults = w.faults
  sent : w'.sent = w.sent
  since : w.now.le now = true
  till : now.le w'.now = true

namespace Queues

variable {w w' : World} {s : Store} {items : List NewItem} {now : Instant}

/-- A run that only takes time queues nothing. -/
theorem nothing (h : w.Later w') : w.Queues w.store [] w.now w' where
  store := by rw [h.store, Store.enqueueBatch, List.map_nil, List.append_nil]
  replies := h.replies
  faults := h.faults
  sent := h.sent
  since := Instant.le_refl w.now
  till := h.now

/-- What is done to the store before may take time. -/
theorem of_later {w₁ : World} (h : w₁.Queues s items now w')
    (hl : World.Later { w with store := w₁.store } w₁) : w.Queues s items now w' :=
  ⟨h.store, h.replies.trans hl.replies, h.faults.trans hl.faults, h.sent.trans hl.sent,
    Instant.le_trans hl.now h.since, h.till⟩

/-- What is put into the queue is gained, where the run has changed neither items nor channels
before. -/
theorem gains (h : w.Queues s items now w') (hitems : s.items = w.store.items)
    (hchannels : ∀ id, s.getChannel? id = w.store.getChannel? id) : w.Gains items now w' where
  items := by rw [h.store, Store.enqueueBatch, hitems]
  channels := fun id => by rw [h.store]; exact hchannels id
  replies := h.replies
  faults := h.faults
  sent := h.sent
  since := h.since
  till := h.till

end Queues

end World

namespace Announcer
open Program

variable {α β : Type} {a : Announcer} {event : Event} {scope : Scope} {notice : Notice}

/-! ### Snapshots -/

/-- A program that gathers names for a snapshot only looks. -/
theorem looks_of_gathers {P : α → Prop} {p : Program α}
    (h : p.Gathers Peeks fun _ a => P a) : p.Looks P := by
  induction p with
  | done a => exact .done h
  | crash => exact h.elim
  | ask r next ih =>
      have hnext := fun answer => ih answer (h.2 answer)
      cases h.1 with
      | clock => exact .clock hnext
      | getService id => exact .read (fun _ _ => rfl) (fun _ _ => rfl) fun _ => hnext _
      | getGroup id => exact .read (fun _ _ => rfl) (fun _ _ => rfl) fun _ => hnext _

/-- The payload that is looked up pictures the event. -/
theorem payload_looks : (a.payload event scope notice).Looks (Snapshot event notice) :=
  looks_of_gathers ((a.payload_gathers event scope notice).mono fun _ _ h => h.1)

/-! ### New items -/

/-- New items for channels, with the identifiers that are made after `n` others. -/
def newItems (a : Announcer) (eventId : Uuid) (p : Payload) : Nat → List Uuid → List NewItem
  | _, [] => []
  | n, channelId :: rest =>
    .ofPayload (World.mintedId n) eventId channelId p a.maxAttempts ::
      a.newItems eventId p (n + 1) rest

/-- For each recipient there is a new item, with the identifiers minted in turn. -/
theorem newItems_ensures (eventId : Uuid) (p : Payload) (channelIds : List Uuid) (w : World) :
    (each (a.newItem eventId p) channelIds).Ensures (fun w' items =>
      items = a.newItems eventId p w.minted channelIds ∧
        World.Later { w with minted := w.minted + channelIds.length } w') w := by
  induction channelIds generalizing w with
  | nil => exact ⟨rfl, .refl w⟩
  | cons channelId rest ih =>
      refine Ensures.mint fun w₁ h₁ => ?_
      refine (ih { w₁ with minted := w.minted + 1 }).bind fun w₂ items ⟨hitems, h₂⟩ => ?_
      refine ⟨congrArg _ hitems, h₂.store.trans h₁.store, ?_, h₂.replies.trans h₁.replies,
        h₂.faults.trans h₁.faults, h₂.sent.trans h₁.sent, Instant.le_trans h₁.now h₂.now⟩
      rw [h₂.minted, List.length_cons, Nat.add_right_comm, Nat.add_assoc]

/-- The items announce the notice of an event to the channels, one to each, in order. -/
structure Covers (a : Announcer) (event : Event) (notice : Notice) (n : Nat)
    (channelIds : List Uuid) (items : List NewItem) : Prop where
  channels : items.map (·.channelId) = channelIds
  ids : items.map (·.id) = (List.range' n channelIds.length).map World.mintedId
  about : ∀ item ∈ items, item.eventId = event.id ∧ item.kind = item.payload.kind ∧
    item.maxAttempts = a.maxAttempts ∧ Snapshot event notice item.payload
  same : ∀ item ∈ items, ∀ other ∈ items, item.payload = other.payload

theorem covers_nil (n : Nat) : a.Covers event notice n [] [] :=
  ⟨rfl, rfl, List.forall_mem_nil _, List.forall_mem_nil _⟩

/-- The items go to the recipients in their order. -/
theorem map_channelId_newItems (eventId : Uuid) (p : Payload) (n : Nat) (channelIds : List Uuid) :
    (a.newItems eventId p n channelIds).map (·.channelId) = channelIds := by
  induction channelIds generalizing n with
  | nil => rfl
  | cons channelId rest ih => exact congrArg _ (ih (n + 1))

/-- The items have the identifiers that are minted in turn. -/
theorem map_id_newItems (eventId : Uuid) (p : Payload) (n : Nat) (channelIds : List Uuid) :
    (a.newItems eventId p n channelIds).map (·.id) =
      (List.range' n channelIds.length).map World.mintedId := by
  induction channelIds generalizing n with
  | nil => rfl
  | cons channelId rest ih => exact congrArg _ (ih (n + 1))

/-- Every item carries the payload, for one of the recipients. -/
theorem eq_of_mem_newItems {eventId : Uuid} {p : Payload} {n : Nat} {channelIds : List Uuid}
    {item : NewItem} (h : item ∈ a.newItems eventId p n channelIds) :
    ∃ id channelId, item = .ofPayload id eventId channelId p a.maxAttempts := by
  induction channelIds generalizing n with
  | nil => cases h
  | cons channelId rest ih =>
      rcases List.mem_cons.mp h with rfl | h
      · exact ⟨_, _, rfl⟩
      · exact ih h

/-- The new items cover the recipients. -/
theorem covers_newItems {p : Payload} (hp : Snapshot event notice p) (n : Nat)
    (channelIds : List Uuid) :
    a.Covers event notice n channelIds (a.newItems event.id p n channelIds) where
  channels := map_channelId_newItems _ _ _ _
  ids := map_id_newItems _ _ _ _
  about := by
    intro item hitem
    obtain ⟨id, channelId, rfl⟩ := eq_of_mem_newItems hitem
    exact ⟨rfl, rfl, rfl, hp⟩
  same := by
    intro item hitem other hother
    obtain ⟨id, channelId, rfl⟩ := eq_of_mem_newItems hitem
    obtain ⟨id', channelId', rfl⟩ := eq_of_mem_newItems hother
    rfl

/-! ### Announcements -/

/-- What an announcement to channels comes to. -/
def Announced (a : Announcer) (event : Event) (notice : Notice) (channelIds : List Uuid)
    (w w' : World) (n : Nat) : Prop :=
  n = channelIds.length ∧
    ∃ now items, a.Covers event notice w.minted channelIds items ∧ w.Gains items now w'

/-- An announcement to channels is queued in the store `s`. -/
def Filed (a : Announcer) (event : Event) (notice : Notice) (channelIds : List Uuid) (s : Store)
    (w w' : World) (n : Nat) : Prop :=
  n = channelIds.length ∧
    ∃ now items, a.Covers event notice w.minted channelIds items ∧ w.Queues s items now w'

/-- To announce an event files an item for each recipient. -/
theorem announce_files {w : World} (hf : w.faults = .empty) (channelIds : List Uuid) :
    (a.announce event scope notice channelIds).Ensures
      (a.Filed event notice channelIds w.store w) w := by
  cases channelIds with
  | nil =>
      show a.Filed event notice [] w.store w w 0
      exact ⟨rfl, w.now, [], covers_nil _, .nothing (.refl w)⟩
  | cons channelId rest =>
      refine (payload_looks w hf).bind fun w₁ p ⟨h₁, hp⟩ => ?_
      refine (newItems_ensures event.id p (channelId :: rest) w₁).bind
        fun w₂ items ⟨hitems, h₂⟩ => ?_
      refine Ensures.call (h₂.faults.trans (h₁.faults.trans hf)) fun w₃ h₃ => ?_
      refine ⟨_, rfl, ?_, w₃.now, items, ?_, ?_⟩
      · rw [hitems, ← List.length_map (f := (·.channelId)), map_channelId_newItems]
      · rw [hitems, h₁.minted]
        exact covers_newItems hp _ _
      · have hstore : w₃.store = w.store := h₃.store.trans (h₂.store.trans h₁.store)
        exact ⟨congrArg (Store.enqueueBatch w₃.now items) hstore,
          h₃.replies.trans (h₂.replies.trans h₁.replies),
          h₃.faults.trans (h₂.faults.trans h₁.faults), h₃.sent.trans (h₂.sent.trans h₁.sent),
          Instant.le_trans h₁.now (Instant.le_trans h₂.now h₃.now), Instant.le_refl w₃.now⟩

/-- What is done to the store before an announcement may take time. -/
theorem Filed.of_later {w w₁ w' : World} {channelIds : List Uuid} {s : Store} {n : Nat}
    (h : a.Filed event notice channelIds s w₁ w' n)
    (hl : World.Later { w with store := w₁.store } w₁) :
    a.Filed event notice channelIds s w w' n := by
  obtain ⟨hn, now, items, hcovers, hqueues⟩ := h
  have hminted : w₁.minted = w.minted := hl.minted
  exact ⟨hn, now, items, hminted ▸ hcovers, hqueues.of_later hl⟩

/-- The announcement is in the queue, where the store was not changed otherwise. -/
theorem Filed.announced {w w' : World} {channelIds : List Uuid} {s : Store} {n : Nat}
    (h : a.Filed event notice channelIds s w w' n) (hitems : s.items = w.store.items)
    (hchannels : ∀ id, s.getChannel? id = w.store.getChannel? id) :
    a.Announced event notice channelIds w w' n := by
  obtain ⟨hn, now, items, hcovers, hqueues⟩ := h
  exact ⟨hn, now, items, hcovers, hqueues.gains hitems hchannels⟩

/-- The subscribers of a new event are found and kept with it. -/
theorem onCreated_files {w : World} (hf : w.faults = .empty)
    (hnotify : event.notifySubscribers = true) :
    (a.onCreated event scope).Ensures (fun w' n => ∃ s : Store,
      w.store.Enlists event.id (w.store.hearers scope.serviceIds) s ∧
        a.Filed event (.plain .initial) (w.store.hearers scope.serviceIds) s w w' n)
      w := by
  rw [onCreated, if_pos hnotify]
  refine Ensures.read hf (fun _ _ => rfl) fun w₁ h₁ => ⟨_, rfl, ?_⟩
  rw [h₁.store, ← Store.map_channelId_findSubscribers]
  cases w.store.findSubscribers scope.serviceIds with
  | nil => exact ⟨w.store, .nothing _ _, rfl, w.now, [], covers_nil _, .nothing h₁⟩
  | cons subscriber subscribers =>
      refine Ensures.call (h₁.faults.trans hf) fun w₂ h₂ => ⟨_, rfl, ?_⟩
      have hlater := h₁.trans h₂
      refine (announce_files ?_ _).mono fun w' n h => ?_
      · exact hlater.faults.trans hf
      refine ⟨_, ?_, h.of_later ⟨rfl, hlater.minted, hlater.replies, hlater.faults, hlater.sent,
        hlater.now⟩⟩
      rw [← hlater.store]
      exact .add _ _ _

/-- **A new event is queued for its audience,** for each channel once. -/
theorem onCreated_ensures {w : World} (hf : w.faults = .empty)
    (hnotify : event.notifySubscribers = true) :
    (a.onCreated event scope).Ensures
      (a.Announced event (.plain .initial) ((w.store.audience scope.serviceIds).map (·.id)) w)
      w :=
  (onCreated_files hf hnotify).mono fun _ _ ⟨_, hs, h⟩ => h.announced hs.items hs.getChannel?

end Announcer

end Courier
