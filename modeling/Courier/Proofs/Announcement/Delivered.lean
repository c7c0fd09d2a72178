import Courier.Proofs.Announcement.Items
import Courier.Proofs.Delivery.Round

/-!
# Proofs — Announcement — Delivered

A new event on its way to those who hear about it: `created_event_reaches_audience`.
-/

namespace Courier

namespace World.Gains

variable {w w' : World} {items : List NewItem} {now : Instant}

/-- What arrives in an empty queue is a line of its own. -/
theorem line (h : w.Gains items now w') (hempty : w.store.items = []) :
    w'.store.Line [] (items.map (·.enter now)) := by
  have hnone : w.store.Line [] [] :=
    ⟨hempty, List.forall_mem_nil _, List.forall_mem_nil _, .nil⟩
  exact (hnone.enqueueBatch (List.forall_mem_nil _) items).of_items h.items

/-- What an announcement has queued is due when it ends. -/
theorem due (h : w.Gains items now w') :
    ∀ row ∈ items.map (·.enter now), row.nextAttemptAt.le w'.now = true := by
  intro row hrow
  obtain ⟨item, -, rfl⟩ := List.mem_map.mp hrow
  exact h.till

end World.Gains

namespace Announcer

variable {a : Announcer} {event : Event} {notice : Notice} {n : Nat} {items : List NewItem}

/-- The row announces the notice of the event to the channel. -/
structure Announces (event : Event) (notice : Notice) (row : QueueItem) (c : Channel) : Prop where
  channel : row.channelId = c.id
  origin : row.eventId = event.id
  payload : Snapshot event notice row.payload

/-- The rows of an announcement are for its channels, in their order. -/
theorem Covers.announces {cs : List Channel}
    (h : a.Covers event notice n (cs.map (·.id)) items) (now : Instant) :
    List.Forall₂ (Announces event notice) (items.map (·.enter now)) cs := by
  have hids : List.Forall₂ (fun (item : NewItem) c => item.channelId = Channel.id c) items cs := by
    refine List.forall₂_map_left_iff.mp (List.forall₂_map_right_iff.mp ?_)
    rw [List.forall₂_eq_eq_eq]
    exact h.channels
  refine List.forall₂_map_left_iff.mpr ?_
  refine ((List.forall₂_and_left _ _).mpr ⟨h.about, hids⟩).imp fun item c ⟨habout, hid⟩ => ?_
  exact ⟨hid, habout.1, habout.2.2.2⟩

end Announcer

/-- The rows of an announcement reach the channels of the audience. -/
theorem Store.Registered.reaches {s s' : Store} (h : s.Registered) {serviceIds : List Uuid}
    (hs : ∀ id, s'.getChannel? id = s.getChannel? id) {event : Event} {notice : Announcer.Notice}
    {rows : List QueueItem}
    (hrows : List.Forall₂ (Announcer.Announces event notice) rows (s.audience serviceIds)) :
    List.Forall₂ (QueueItem.Reaches s') rows (s.audience serviceIds) := by
  obtain ⟨hlength, hrows⟩ := List.forall₂_iff_zip.mp hrows
  refine List.forall₂_iff_zip.mpr ⟨hlength, fun {row c} hin => ?_⟩
  have hc := (List.of_mem_zip hin).2
  refine ⟨?_, (hears_of_mem_audience hc).1.1, (hears_of_mem_audience hc).1.2⟩
  rw [hs, (hrows hin).channel, h.getChannel?_of_mem_audience hc]

/-- **A new event reaches its audience.**  Over an empty queue, with senders that take what they get
and on any course of time, each channel that hears about the services has one item in the queue; and
after as many batches as it takes, each of these items is `sent`, with its message at the sender
that serves its kind of channel, or has `failed` where none does.  Nobody else is sent anything. -/
theorem created_event_reaches_audience {w : World} {a : Announcer} {event : Event} {scope : Scope}
    {worker : Worker} (hempty : w.store.items = []) (hreg : w.store.Registered)
    (hmints : w.Mints (w.store.audience scope.serviceIds).length) (hfair : w.Fair)
    (hnotify : event.notifySubscribers = true) (hrender : worker.renderer = .standard)
    (hbatch : 0 < worker.batchSize.toNat) :
    (a.onCreated event scope).Ensures (fun w₁ n =>
      n = (w.store.audience scope.serviceIds).length ∧ w₁.sent = w.sent ∧
      List.Forall₂ (Announcer.Announces event (.plain .initial)) w₁.store.items
        (w.store.audience scope.serviceIds) ∧
      ∀ k, (n + worker.batchSize.toNat - 1) / worker.batchSize.toNat ≤ k →
        (worker.batches k).Ensures (fun w₂ results =>
          (∀ result ∈ results, result.isOk = true) ∧
          w₁.Delivers worker (w.store.audience scope.serviceIds) w₁.store.items w₂.store.items w₂)
          w₁) w := by
  refine (Announcer.onCreated_ensures hfair.faults hnotify).mono fun w₁ n hannounced => ?_
  obtain ⟨hn, now, items, hcovers, hgains⟩ := hannounced
  rw [List.length_map] at hn
  have hline := hgains.line hempty
  have hitems : w₁.store.items = items.map (·.enter now) := hline.items
  have hrows := hcovers.announces now
  have hlength : (items.map (·.enter now)).length = n := hrows.length_eq.trans hn.symm
  refine ⟨hn, hgains.sent, hitems ▸ hrows, fun k hk => ?_⟩
  have hdistinct : w₁.store.Distinct := by
    have hids : w₁.store.ids = items.map (·.id) := by
      rw [Store.ids, hitems, List.map_map]
      rfl
    rw [Store.Distinct, hids, hcovers.ids, List.length_map]
    exact hmints
  have hfair₁ : w₁.Fair :=
    ⟨hgains.faults.trans hfair.faults, hgains.replies.trans hfair.replies⟩
  have hcalls := (Nat.div_le_iff_le_mul hbatch).mp hk
  have hall : (items.map (·.enter now)).length ≤ k * worker.batchSize.toNat := by omega
  have haudience : (w.store.audience scope.serviceIds).length ≤ k * worker.batchSize.toNat := by
    omega
  refine (Worker.batches_delivers k hrender hfair₁ hdistinct hline hgains.due
    (hreg.reaches hgains.channels hrows)).mono fun w₂ results hdelivered => ?_
  obtain ⟨hresults, rows, hline₂, h⟩ := hdelivered
  refine ⟨hresults, ?_⟩
  rw [List.drop_of_length_le hall] at hline₂
  rw [List.take_of_length_le hall, List.take_of_length_le haudience] at h
  rw [hline₂.items, List.nil_append, List.append_nil, hitems]
  exact h

namespace Sample

/-- Two channels, one of a kind that nobody serves. -/
def pair : World :=
  { world with
    store := world.store.insertChannel { channel with id := id 4, channelType := .webhook } }

/-- A worker that takes one item at a time. -/
def slow : Worker := { team 0 with batchSize := 1 }

end Sample

/-- Two batches of one item for two channels, of which one has a sender. -/
theorem pair_reached : ∃ w₁ w₂ results,
    Sample.pair.run (Sample.announcer.onCreated Sample.event ⟨[], []⟩) = (w₁, some 2) ∧
      w₁.run (Sample.slow.batches 2) = (w₂, some results) ∧
      w₂.store.items.map (·.status) = [.sent, .failed] ∧
      w₂.sent.map (·.notification.recipient) = ["1"] := by
  have hregistered : Sample.pair.store.Registered := by
    rw [Store.Registered]
    decide
  have hmints : Sample.pair.Mints (Sample.pair.store.audience []).length :=
    World.mints_of_le _ (by decide)
  obtain ⟨w₁, n, hrun, rfl, hsent, hrows, hbatches⟩ :=
    (@created_event_reaches_audience Sample.pair Sample.announcer Sample.event ⟨[], []⟩
      Sample.slow rfl hregistered hmints ⟨rfl, rfl⟩ rfl rfl (by decide)).run
  obtain ⟨w₂, results, hrun', hresults, h⟩ := (hbatches 2 (by decide)).run
  refine ⟨w₁, w₂, results, hrun, hrun', h.statuses, ?_⟩
  rw [h.sent, hsent]
  obtain ⟨row, rest, -, hrest, hitems⟩ := List.forall₂_cons_right_iff.mp hrows
  obtain ⟨row', rest', -, -, rfl⟩ := List.forall₂_cons_right_iff.mp hrest
  rw [hitems]
  rfl

end Courier
