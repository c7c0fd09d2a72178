import Courier.Proofs.Announcement.Handler
import Courier.Proofs.Store.Subscribers
import Courier.Proofs.World

/-!
# Proofs — Announcement — Bureau

Handlers side by side over one store.  Every request of a handler is one step; between two steps
anything may be done to the store, the time may change, and calls may be laid down to fail.

* `Bureau.step_store`, `Bureau.store_after`: whatever happens, the store comes to what operations
  make of it.
* `subscribers_only_grow`: so the lists of subscribers only grow.
-/

namespace Courier

/-- What happens in a bureau. -/
inductive Bureau.Move where
  | operate (op : Operation)
  /-- A handler is called. -/
  | call (a : Announcer) (occasion : Occasion)
  /-- The handler that was called at a place makes its next request. -/
  | serve (i : Nat)
  /-- What lies ahead changes: the time and the failing calls. -/
  | turn (now : Instant) (faults : Table String (List (Option StoreError)))

/-- A world, and what is left of the handlers that were called, the first at the head. -/
structure Bureau where
  world : World
  jobs : List (Program Nat)

namespace Bureau

/-- Nothing is kept, and no handler was called. -/
def opening (now : Instant) : Bureau := ⟨.start now, []⟩

/-- A handler makes its next request, and goes on with the answer. -/
def serve (b : Bureau) (i : Nat) : Bureau :=
  match b.jobs[i]? with
  | some (.ask r next) =>
    ⟨(b.world.handle r).1, b.jobs.set i ((b.world.handle r).2.elim .crash next)⟩
  | _ => b

/-- The bureau after a move. -/
def step (b : Bureau) : Move → Bureau
  | .operate op => { b with world := { b.world with store := op.apply b.world.now b.world.store } }
  | .call a occasion => { b with jobs := b.jobs ++ [occasion.program a] }
  | .serve i => b.serve i
  | .turn now faults => { b with world := { b.world with now, faults } }

/-- The bureau after moves. -/
def after (b : Bureau) (moves : List Move) : Bureau := moves.foldl step b

/-- A turn of a handler changes the store by one call, or not at all. -/
theorem serve_store (b : Bureau) (i : Nat) :
    (b.serve i).world.store = b.world.store ∨
      ∃ call : StoreCall, (b.serve i).world.store = call.serve b.world.now b.world.store := by
  rw [serve]
  split
  · exact b.world.handle_store_cases _
  · exact .inl rfl

/-- **A move leaves the store, or is an operation on it.** -/
theorem step_store (b : Bureau) (m : Move) :
    (b.step m).world.store = b.world.store ∨
      ∃ op : Operation, (b.step m).world.store = op.apply b.world.now b.world.store := by
  cases m with
  | operate op => exact .inr ⟨op, rfl⟩
  | call a occasion => exact .inl rfl
  | turn now faults => exact .inl rfl
  | serve i =>
      refine (b.serve_store i).imp_right fun ⟨call, h⟩ => ?_
      exact ⟨.call call, h⟩

/-- **Moves come to operations on the store.** -/
theorem store_after (b : Bureau) (moves : List Move) :
    ∃ ops, (b.after moves).world.store = b.world.store.after ops := by
  induction moves generalizing b with
  | nil => exact ⟨[], rfl⟩
  | cons m rest ih =>
      obtain ⟨ops, hops⟩ := ih (b.step m)
      rcases b.step_store m with h | ⟨op, h⟩
      · exact ⟨ops, by rw [← h]; exact hops⟩
      · refine ⟨(b.world.now, op) :: ops, ?_⟩
        rw [Store.after, List.foldl_cons, ← h]
        exact hops

end Bureau

/-- **The list of those who are told about an event only grows.**  Whatever handlers, operations and
edits do, side by side and with calls that fail, no list has an identifier twice, and what it is at
one time starts what it is at any later time.  To add identifiers adds those that are not there yet,
and tells by how many the list grew; to add them again, then or later, changes nothing and tells
zero. -/
theorem subscribers_only_grow (start : Instant) (earlier later : List Bureau.Move) :
    let b := (Bureau.opening start).after earlier
    let s := b.world.store
    (∀ eventId, (s.eventSubscribers eventId).Nodup ∧
        s.eventSubscribers eventId <+: (b.after later).world.store.eventSubscribers eventId) ∧
      ∀ eventId ids now,
        let s' := (StoreCall.addEventSubscribers eventId ids).serve now s
        (∃ n, (StoreCall.addEventSubscribers eventId ids).answer? now s = some n ∧
            (s'.eventSubscribers eventId).length = (s.eventSubscribers eventId).length + n) ∧
          (∀ id, id ∈ s'.eventSubscribers eventId ↔
            id ∈ s.eventSubscribers eventId ∨ id ∈ ids) ∧
          ∀ ops again, let t := s'.after ops
            (StoreCall.addEventSubscribers eventId ids).serve again t = t ∧
              (StoreCall.addEventSubscribers eventId ids).answer? again t = some 0 := by
  intro b s
  obtain ⟨ops, hops⟩ : ∃ ops, s = Store.empty.after ops :=
    (Bureau.opening start).store_after earlier
  obtain ⟨more, hmore⟩ := b.store_after later
  refine ⟨fun eventId => ⟨?_, ?_⟩, fun eventId ids now => ⟨?_, fun id => ?_, ?_⟩⟩
  · rw [hops]
    exact Store.nodup_eventSubscribers_after ops eventId
  · rw [hmore]
    exact (Store.Grows.after s more).grown eventId
  · exact ⟨_, rfl, s.length_addEventSubscribers eventId ids⟩
  · show id ∈ (s.addEventSubscribers eventId ids).eventSubscribers eventId ↔ _
    rw [Store.eventSubscribers_addEventSubscribers, if_pos rfl, Store.mem_extend]
  · intro further again t
    have hlists : t.Lists eventId ids :=
      (Store.Grows.after _ further).lists (s.lists_addEventSubscribers eventId ids)
    exact ⟨hlists.addEventSubscribers, congrArg some hlists.newSubscribers⟩

end Courier
