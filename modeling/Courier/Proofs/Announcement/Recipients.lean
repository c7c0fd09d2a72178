import Courier.Proofs.Announcement.Delivered
import Courier.Proofs.Announcement.Handler

/-!
# Proofs — Announcement — Recipients

Who is told about what happens to an event.

* `Occasion.listed`: the list of its event that comes of an occasion; `Occasion.recipients`: those
  who are told of it.
* `Occasion.program_files`: the handler of an occasion keeps the newcomers with the event and queues
  an announcement for the recipients, over a store that answers.
* `handler_tells_recipients`: what this comes to in a store that operations have made.
-/

namespace Courier

namespace Occasion

/-- The list of the event afterwards: newcomers follow who was told before. -/
def listed (s : Store) (o : Occasion) : List Uuid :=
  s.eventSubscribers o.event.id ++
    (o.newcomers s.hearers).filter fun id => id ∉ s.eventSubscribers o.event.id

/-- Those who are told. -/
def recipients (s : Store) (o : Occasion) : List Uuid := o.told s.hearers (o.listed s)

variable {s : Store}

/-- Nobody is newly reached twice. -/
theorem nodup_newcomers (h : s.Registered) (o : Occasion) : (o.newcomers s.hearers).Nodup := by
  cases o with
  | created event scope => exact h.nodup_hearers _
  | updated event scope update changes =>
      rw [newcomers]
      split
      · exact List.nodup_nil
      · exact h.nodup_hearers _
  | _ => exact List.nodup_nil

/-- To extend the subscribers by those newly reached gives those listed. -/
theorem extend_newcomers (h : s.Registered) (o : Occasion) :
    Store.extend (s.eventSubscribers o.event.id) (o.newcomers s.hearers) = o.listed s :=
  Store.extend_eq_append (o.nodup_newcomers h)

/-- Nobody is listed twice. -/
theorem nodup_listed (h : s.Registered) (o : Occasion)
    (hlist : (s.eventSubscribers o.event.id).Nodup) : (o.listed s).Nodup := by
  rw [← o.extend_newcomers h]
  exact Store.nodup_extend hlist _

/-- Nobody is told twice. -/
theorem nodup_recipients (h : s.Registered) (o : Occasion)
    (hlist : (s.eventSubscribers o.event.id).Nodup) : (o.recipients s).Nodup := by
  cases o with
  | created event scope => exact nodup_newcomers h (.created event scope)
  | _ => exact nodup_listed h _ hlist

/-- Who is told is in the list of the event. -/
theorem recipients_subset_listed (s : Store) (o : Occasion) :
    ∀ id ∈ o.recipients s, id ∈ o.listed s := by
  cases o with
  | created event scope =>
      intro id hid
      by_cases hknown : id ∈ s.eventSubscribers event.id
      · exact List.mem_append_left _ hknown
      · exact List.mem_append_right _ (List.mem_filter.mpr ⟨hid, decide_eq_true hknown⟩)
  | _ => exact fun _ hid => hid

end Occasion

namespace Announcer
open Program

variable {a : Announcer} {event : Event} {scope : Scope} {notice : Notice} {w : World}

/-- An announcement to those who are told about the event. -/
theorem announceToKnown_files (hf : w.faults = .empty) :
    (a.announceToKnown event scope notice).Ensures
      (a.Filed event notice (w.store.eventSubscribers event.id) w.store w) w := by
  refine Ensures.read hf (fun _ _ => rfl) fun w₁ h₁ => ⟨_, rfl, ?_⟩
  have hlater : World.Later { w with store := w₁.store } w₁ :=
    ⟨rfl, h₁.minted, h₁.replies, h₁.faults, h₁.sent, h₁.now⟩
  rw [← h₁.store]
  exact (announce_files (h₁.faults.trans hf) _).mono fun w' n h => h.of_later hlater

/-- The channels that hear about services are added to the list of an event. -/
theorem extendSubscribers_enlists (hf : w.faults = .empty) (serviceIds : List Uuid) :
    (extendSubscribers event serviceIds).Ensures (fun w' result => result = .ok () ∧
      w.store.Enlists event.id (w.store.hearers serviceIds) w'.store ∧
        World.Later { w with store := w'.store } w') w := by
  refine Ensures.read hf (fun _ _ => rfl) fun w₁ h₁ => ⟨_, rfl, ?_⟩
  refine Ensures.call (h₁.faults.trans hf) fun w₂ h₂ => ⟨_, rfl, ?_⟩
  have hlater := h₁.trans h₂
  refine ⟨rfl, ?_, rfl, hlater.minted, hlater.replies, hlater.faults, hlater.sent, hlater.now⟩
  rw [h₁.store, Store.map_channelId_findSubscribers, ← hlater.store]
  exact .add _ _ _

end Announcer

namespace Occasion
open Program

variable {a : Announcer} {w : World}

/-- An update that is announced files an item for each subscriber, also for those it has won. -/
theorem updated_files (hf : w.faults = .empty) (event : Event) (scope : Scope) (update : Update)
    (changes : ChangeSet) (hnotify : update.notifySubscribers = true) :
    let o := updated event scope update changes
    (o.program a).Ensures (fun w' n => ∃ s : Store,
      w.store.Enlists event.id (o.newcomers w.store.hearers) s ∧
        a.Filed event o.notice (s.eventSubscribers event.id) s w w' n) w := by
  intro o
  show (a.onUpdated event scope update changes).Ensures _ w
  rw [Announcer.onUpdated, if_pos hnotify, show o.newcomers w.store.hearers = _ from rfl, newcomers]
  by_cases hadded : changes.servicesAdded = []
  · rw [if_pos hadded, if_pos (List.isEmpty_iff.mpr hadded)]
    exact (Announcer.announceToKnown_files hf).mono fun w' n h => ⟨w.store, .nothing _ _, h⟩
  · rw [if_neg hadded, if_neg (fun h => hadded (List.isEmpty_iff.mp h))]
    refine (Announcer.extendSubscribers_enlists hf _).bind fun w₁ result h => ?_
    obtain ⟨rfl, henlists, hlater⟩ := h
    refine (Announcer.announceToKnown_files ?_).mono fun w' n h => ?_
    · exact hlater.faults.trans hf
    · exact ⟨w₁.store, henlists, h.of_later hlater⟩

/-- Where nobody comes anew, who was told before is told again. -/
theorem announceToKnown_tells (hf : w.faults = .empty) (o : Occasion)
    (hnone : o.newcomers w.store.hearers = []) :
    (a.announceToKnown o.event o.scope o.notice).Ensures (fun w' n => ∃ s : Store,
      w.store.Enlists o.event.id (o.newcomers w.store.hearers) s ∧
        a.Filed o.event o.notice (o.listed w.store) s w w' n) w := by
  rw [listed, hnone, List.filter_nil, List.append_nil]
  exact (Announcer.announceToKnown_files hf).mono fun w' n h => ⟨w.store, .nothing _ _, h⟩

/-- **The handler of an occasion keeps the newcomers with the event and tells the recipients.** -/
theorem program_files (hf : w.faults = .empty) (hreg : w.store.Registered) (o : Occasion)
    (hnotify : o.notifies = true) :
    (o.program a).Ensures (fun w' n => ∃ s : Store,
      w.store.Enlists o.event.id (o.newcomers w.store.hearers) s ∧
        a.Filed o.event o.notice (o.recipients w.store) s w w' n) w := by
  cases o with
  | created event scope => exact Announcer.onCreated_files hf hnotify
  | updated event scope update changes =>
      refine (updated_files hf event scope update changes hnotify).mono fun w' n ⟨s, hs, h⟩ => ?_
      have hlist : s.eventSubscribers event.id =
          (updated event scope update changes).listed w.store := by
        rw [hs.lists, if_pos rfl]
        exact extend_newcomers hreg (.updated event scope update changes)
      refine ⟨s, hs, ?_⟩
      rw [hlist] at h
      exact h
  | resolved event scope resolution =>
      exact announceToKnown_tells hf (.resolved event scope resolution) rfl
  | completed event scope resolution =>
      exact announceToKnown_tells hf (.completed event scope resolution) rfl
  | cancelled event scope =>
      show (a.onCancelled event scope).Ensures _ w
      rw [Announcer.onCancelled, if_pos (show event.notifySubscribers = true from hnotify)]
      exact announceToKnown_tells hf (.cancelled event scope) rfl

/-- A row as it comes into the queue for an occasion. -/
structure Opens (o : Occasion) (a : Announcer) (now : Instant) (row : QueueItem) : Prop where
  eventId : row.eventId = o.event.id
  pending : row.status = .pending
  attempts : row.attempts = 0
  due : row.nextAttemptAt = now
  maxAttempts : row.maxAttempts = a.maxAttempts
  kind : row.kind = row.payload.kind
  notice : row.payload.kind = o.notice.kind

/-- What covers the recipients is open for them, with the attempts that the announcer gives. -/
theorem opens_of_covers {o : Occasion} {n : Nat} {channelIds : List Uuid} {items : List NewItem}
    (h : a.Covers o.event o.notice n channelIds items) (now : Instant) :
    ∀ row ∈ items.map (·.enter now), o.Opens a now row := by
  intro row hrow
  obtain ⟨item, hitem, rfl⟩ := List.mem_map.mp hrow
  obtain ⟨hevent, hkind, hmax, hsnapshot⟩ := h.about item hitem
  exact ⟨hevent, rfl, rfl, rfl, hmax, hkind, hsnapshot.1⟩

end Occasion

/-- **A handler tells its recipients, each once.**  Over any store that operations have made, and on
any course of time, the handler of an occasion of which subscribers are to hear keeps the newcomers
with the event, appends one row for each recipient, in their order and with one snapshot, changes
nothing else, and tells how many they are.  If nobody is to hear of it, nothing changes. -/
theorem handler_tells_recipients {ops : List (Instant × Operation)} {w : World}
    (hstore : w.store = Store.empty.after ops) (hf : w.faults = .empty) (a : Announcer)
    (o : Occasion) :
    (o.recipients w.store).Nodup ∧
      (o.program a).Ensures (fun w' n =>
        (o.notifies = false → w'.store = w.store ∧ n = 0) ∧
        (o.recipients w.store = [] → w'.store.items = w.store.items ∧ n = 0) ∧
        (o.notifies = true → ∃ rows now,
          w'.store =
            { w.store with
              items := w.store.items ++ rows, subscribers := w'.store.subscribers } ∧
          (∀ eventId, w'.store.eventSubscribers eventId =
            if eventId = o.event.id then o.listed w.store
            else w.store.eventSubscribers eventId) ∧
          (∀ id ∈ o.recipients w.store, id ∈ w'.store.eventSubscribers o.event.id) ∧
          n = rows.length ∧ rows.map (·.channelId) = o.recipients w.store ∧
          (∀ row ∈ rows, o.Opens a now row) ∧
          (∀ row ∈ rows, ∀ other ∈ rows, row.payload = other.payload) ∧
          w.now.le now = true ∧ now.le w'.now = true)) w := by
  have hreg : w.store.Registered := hstore ▸ Store.registered_after ops
  have hlist : (w.store.eventSubscribers o.event.id).Nodup :=
    hstore ▸ Store.nodup_eventSubscribers_after ops o.event.id
  refine ⟨o.nodup_recipients hreg hlist, ?_⟩
  cases hnotify : o.notifies with
  | false =>
      rw [o.program_of_silent a hnotify]
      exact ⟨fun _ => ⟨rfl, rfl⟩, fun _ => ⟨rfl, rfl⟩, fun h => absurd h Bool.false_ne_true⟩
  | true =>
      refine (o.program_files hf hreg hnotify).mono fun w' n h => ?_
      obtain ⟨s, hs, hn, now, items, hcovers, h⟩ := h
      have hitems : w'.store.items = w.store.items ++ items.map (·.enter now) := by
        rw [h.store, Store.enqueueBatch, hs.items]
      have hchannels : (items.map (·.enter now)).map (·.channelId) = o.recipients w.store := by
        rw [List.map_map]
        exact hcovers.channels
      have hlists : ∀ eventId, w'.store.eventSubscribers eventId =
          if eventId = o.event.id then o.listed w.store else w.store.eventSubscribers eventId := by
        intro eventId
        have hsame : w'.store.eventSubscribers eventId = s.eventSubscribers eventId := by
          rw [h.store]
          rfl
        rw [hsame, hs.lists, o.extend_newcomers hreg]
      refine ⟨fun h => absurd h.symm Bool.false_ne_true, fun hnone => ?_, fun _ =>
        ⟨items.map (·.enter now), now, ?_, hlists, ?_, ?_, hchannels,
          Occasion.opens_of_covers hcovers now, ?_, h.since, h.till⟩⟩
      · rw [hnone, List.map_eq_nil_iff] at hchannels
        rw [hitems, hn, hnone, hchannels, List.append_nil]
        exact ⟨rfl, rfl⟩
      · rw [← hitems, h.store, Store.enqueueBatch, hs.rest]
      · intro id hid
        rw [hlists, if_pos rfl]
        exact o.recipients_subset_listed w.store id hid
      · rw [hn, ← hchannels, List.length_map]
      · intro row hrow other hother
        obtain ⟨item, hitem, rfl⟩ := List.mem_map.mp hrow
        obtain ⟨item', hitem', rfl⟩ := List.mem_map.mp hother
        exact hcovers.same item hitem item' hitem'

namespace Sample

/-- A channel that hears about all services, and an event that another channel was told about. -/
def history : List (Instant × Operation) :=
  [(.epoch, .edit (.insertChannel channel)),
    (.epoch, .call (.addEventSubscribers (id 0) [id 9]))]

/-- An update that adds a service. -/
def widening : Occasion :=
  .updated event ⟨[], []⟩ ⟨id 8, id 0, .identified, none, true, .epoch⟩
    ⟨none, [⟨id 7, .degraded⟩], [], [], none⟩

end Sample

/-- Who was told before is told first, and then who hears about the service that was added. -/
theorem widening_tells_both : ∃ w w' : World,
    w.store = Store.empty.after Sample.history ∧ w.faults = .empty ∧
      w.run (Sample.widening.program Sample.announcer) = (w', some 2) ∧
      w'.store.items.map (·.channelId) = [Sample.id 9, Sample.id 1] ∧
      w'.store.eventSubscribers (Sample.id 0) = [Sample.id 9, Sample.id 1] := by
  let w : World := { World.start .epoch with store := Store.empty.after Sample.history }
  obtain ⟨-, h⟩ :=
    @handler_tells_recipients Sample.history w rfl rfl Sample.announcer Sample.widening
  obtain ⟨w', n, hrun, -, -, htold⟩ := h.run
  obtain ⟨rows, now, hstore, hlists, -, hn, hchannels, -⟩ := htold rfl
  have hrecipients : Sample.widening.recipients w.store = [Sample.id 9, Sample.id 1] := by decide
  refine ⟨w, w', rfl, rfl, ?_, ?_, ?_⟩
  · rw [hrun, hn, ← List.length_map (f := (·.channelId)), hchannels, hrecipients]
    rfl
  · rw [hstore]
    exact hchannels.trans hrecipients
  · exact (hlists (Sample.id 0)).trans hrecipients

end Courier
