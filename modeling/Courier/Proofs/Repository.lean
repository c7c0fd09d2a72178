import Mathlib.Logic.Function.Basic
import Courier.Proofs.Announcement.Handler
import Courier.Proofs.Store.Subscribers
import Courier.Proofs.Store.Channels
import Courier.Proofs.World

/-!
# Proofs — Repository

Stores of any make, as far as handlers depend on them.  `Repository.Contract` says what calls come
to where they succeed, and that they have no effect where they fail, which any of them may do at any
time.

* `Program.Endures`: whatever the repository answers, the program gets its answers and ends as a
  post-condition says, which also speaks of what was asked and answered on the way.
* `Repository.memory`: the store of this library is one, with any calls that fail.
* `Program.Endures.run`: what a program endures there holds of its run, whatever calls are laid down
  to fail.
-/

namespace Courier

/-- What handlers see of a store. -/
structure Sight where
  items : List QueueItem
  subscribers : Uuid → List Uuid
  /-- The channels that hear about services. -/
  hearers : List Uuid → List Uuid
  service? : Uuid → Option Service
  group? : Uuid → Option Group

namespace Sight

/-- Rows come into the queue. -/
def file (rows : List QueueItem) (v : Sight) : Sight := { v with items := v.items ++ rows }

/-- Channels are told about an event from now on. -/
def enlist (eventId : Uuid) (new : List Uuid) (v : Sight) : Sight :=
  { v with
    subscribers := Function.update v.subscribers eventId (v.subscribers eventId ++ new) }

theorem file_nil (v : Sight) : v.file [] = v := by rw [file, List.append_nil]

theorem enlist_nil (v : Sight) (eventId : Uuid) : v.enlist eventId [] = v := by
  rw [enlist, List.append_nil, Function.update_eq_self]

end Sight

/-- Something that serves calls. -/
structure Repository (σ : Type) where
  /-- What a call may come to in a state: the answer to it, and the state after it. -/
  serves : σ → (c : StoreCall) → Except StoreError c.Result → σ → Prop
  sight : σ → Sight

namespace Repository

variable {σ : Type}

/-- What calls of handlers come to. -/
structure Contract (R : Repository σ) : Prop where
  answers : ∀ (s : σ) {c : StoreCall}, Announcer.Asks (.store c) →
    ∃ answer s', R.serves s c answer s'
  /-- A call that fails has no effect. -/
  fails : ∀ {s s' : σ} {c : StoreCall} {e : StoreError}, R.serves s c (.error e) s' →
    R.sight s' = R.sight s
  getService : ∀ {s s' : σ} {id : Uuid} {found : Option Service},
    R.serves s (.getService id) (.ok found) s' →
      R.sight s' = R.sight s ∧ found = (R.sight s).service? id
  getGroup : ∀ {s s' : σ} {id : Uuid} {found : Option Group},
    R.serves s (.getGroup id) (.ok found) s' →
      R.sight s' = R.sight s ∧ found = (R.sight s).group? id
  /-- The channels that hear about the services, in any order. -/
  findSubscribers : ∀ {s s' : σ} {serviceIds : List Uuid} {found : List Subscriber},
    R.serves s (.findSubscribers serviceIds) (.ok found) s' →
      R.sight s' = R.sight s ∧ (found.map (·.channelId)).Perm ((R.sight s).hearers serviceIds)
  /-- The list of an event, in any order. -/
  getEventSubscribers : ∀ {s s' : σ} {eventId : Uuid} {ids : List Uuid},
    R.serves s (.getEventSubscribers eventId) (.ok ids) s' →
      R.sight s' = R.sight s ∧ ids.Perm ((R.sight s).subscribers eventId)
  /-- Appends the identifiers that are not in the list of an event, each once. -/
  addEventSubscribers : ∀ {s s' : σ} {eventId : Uuid} {ids : List Uuid} {n : Nat},
    R.serves s (.addEventSubscribers eventId ids) (.ok n) s' →
      ∃ new, R.sight s' = (R.sight s).enlist eventId new ∧ n = new.length ∧ new.Nodup ∧
        ∀ id, id ∈ new ↔ id ∈ ids ∧ id ∉ (R.sight s).subscribers eventId
  /-- Appends all the items. -/
  enqueueBatch : ∀ {s s' : σ} {items : List NewItem} {n : Nat},
    R.serves s (.enqueueBatch items) (.ok n) s' →
      ∃ now, R.sight s' = (R.sight s).file (items.map (·.enter now)) ∧ n = items.length

/-- What a request may come to: only calls concern the repository. -/
def Serves (R : Repository σ) (s : σ) : (r : Request) → r.Answer → σ → Prop
  | .store c, answer, s' => R.serves s c answer s'
  | _, _, s' => s' = s

end Repository

namespace Program

variable {σ α β : Type} {R : Repository σ}

/-- Whatever the repository answers, the program gets an answer to each request, and what it asked
and was answered, the state and the value that it ends with meet the post-condition. -/
def Endures (R : Repository σ) : Program α → (List Asked → σ → α → Prop) → σ → Prop
  | .done a, Q, s => Q [] s a
  | .crash, _, _ => False
  | .ask r next, Q, s => (∃ answer s', R.Serves s r answer s') ∧
      ∀ answer s', R.Serves s r answer s' →
        Endures R (next answer) (fun log => Q (⟨r, answer⟩ :: log)) s'

namespace Endures

variable {P : List Asked → σ → α → Prop} {s : σ}

theorem bind {Q : List Asked → σ → β → Prop} {p : Program α} {f : α → Program β}
    (h : p.Endures R P s)
    (hf : ∀ log s' a, P log s' a → (f a).Endures R (fun log' => Q (log ++ log')) s') :
    (p.bind f).Endures R Q s := by
  induction p generalizing s P Q with
  | done a => exact hf [] s a h
  | crash => exact h.elim
  | ask r next ih =>
      refine ⟨h.1, fun answer s' hserves => ih answer (h.2 answer s' hserves) ?_⟩
      exact fun log s'' a ha => hf (⟨r, answer⟩ :: log) s'' a ha

theorem mono {Q : List Asked → σ → α → Prop} {p : Program α} (h : p.Endures R P s)
    (hq : ∀ log s' a, P log s' a → Q log s' a) : p.Endures R Q s := by
  induction p generalizing s P Q with
  | done a => exact hq [] s a h
  | crash => exact h.elim
  | ask r next ih =>
      refine ⟨h.1, fun answer s' hserves => ih answer (h.2 answer s' hserves) ?_⟩
      exact fun log s'' a ha => hq (⟨r, answer⟩ :: log) s'' a ha

theorem call {Q : List Asked → σ → β → Prop} (hR : R.Contract) {c : StoreCall}
    (hc : Announcer.Asks (.store c)) {f : Except StoreError c.Result → Program β}
    (h : ∀ answer s', R.serves s c answer s' →
      (f answer).Endures R (fun log => Q (⟨.store c, answer⟩ :: log)) s') :
    ((Program.call c).bind f).Endures R Q s :=
  ⟨hR.answers s hc, h⟩

end Endures

end Program

/-! ### The store of this library -/

namespace Repository

/-- The store, in which any call may fail. -/
def memory : Repository Store where
  serves s c answer s' :=
    (∃ e, answer = .error e ∧ s' = s) ∨
      ∃ now a, c.answer? now s = some a ∧ answer = .ok a ∧ s' = c.serve now s
  sight s := ⟨s.items, fun eventId => s.eventSubscribers eventId, s.hearers, s.services.get?,
    s.groups.get?⟩

/-- The repository in memory serves a call as the store answers it, at some time. -/
theorem memory_ok {s s' : Store} {c : StoreCall} {a : c.Result}
    (h : memory.serves s c (.ok a) s') :
    ∃ now, c.answer? now s = some a ∧ s' = c.serve now s := by
  rcases h with ⟨e, he, -⟩ | ⟨now, b, hb, ha, hs⟩
  · cases he
  · cases ha
    exact ⟨now, hb, hs⟩

/-- **The store meets the contract.** -/
theorem memory_contract : memory.Contract where
  answers := fun s _ _ => ⟨.error (.notFound ""), s, .inl ⟨_, rfl, rfl⟩⟩
  fails := by
    rintro s s' c e (⟨e', -, hs⟩ | ⟨now, a, -, ha, -⟩)
    · rw [hs]
    · cases ha
  getService := by
    intro s s' id found h
    obtain ⟨now, ha, hs⟩ := memory_ok h
    exact ⟨by rw [hs]; rfl, (Option.some.inj ha).symm⟩
  getGroup := by
    intro s s' id found h
    obtain ⟨now, ha, hs⟩ := memory_ok h
    exact ⟨by rw [hs]; rfl, (Option.some.inj ha).symm⟩
  findSubscribers := by
    intro s s' serviceIds found h
    obtain ⟨now, ha, hs⟩ := memory_ok h
    refine ⟨by rw [hs]; rfl, ?_⟩
    rw [← Option.some.inj ha, Store.map_channelId_findSubscribers]
    rfl
  getEventSubscribers := by
    intro s s' eventId ids h
    obtain ⟨now, ha, hs⟩ := memory_ok h
    refine ⟨by rw [hs]; rfl, ?_⟩
    rw [← Option.some.inj ha]
    rfl
  addEventSubscribers := by
    intro s s' eventId ids n h
    obtain ⟨now, ha, rfl⟩ := memory_ok h
    obtain ⟨new, hnew, hnodup, hmem⟩ := Store.exists_extend_eq (s.eventSubscribers eventId) ids
    refine ⟨new, ?_, ?_, hnodup, hmem⟩
    · have hlists : (fun other => (s.addEventSubscribers eventId ids).eventSubscribers other) =
          Function.update (fun other => s.eventSubscribers other) eventId
            (s.eventSubscribers eventId ++ new) := by
        funext other
        rw [s.eventSubscribers_addEventSubscribers, Function.update_apply, hnew]
      exact congrArg (Sight.mk s.items · s.hearers s.services.get? s.groups.get?) hlists
    · rw [← Option.some.inj ha, Store.newSubscribers, hnew, List.length_append,
        Nat.add_sub_cancel_left]
  enqueueBatch := by
    intro s s' items n h
    obtain ⟨now, ha, rfl⟩ := memory_ok h
    exact ⟨now, rfl, (Option.some.inj ha).symm⟩

end Repository

/-- A request of a handler is handled as the store may serve it. -/
theorem Announcer.Asks.handle {r : Request} (h : Announcer.Asks r) (w : World) :
    ∃ w' answer, w.handle r = (w', some answer) ∧
      Repository.memory.Serves w.store r answer w'.store := by
  have hcall : ∀ {c : StoreCall}, (c.answer? w.now w.store).isSome = true →
      ∃ w' answer, w.handle (.store c) = (w', some answer) ∧
        Repository.memory.serves w.store c answer w'.store := by
    intro c hsome
    obtain ⟨a, ha⟩ := Option.isSome_iff_exists.mp hsome
    have hhandled := w.handled (.store c)
    generalize w.handle (.store c) = handled at hhandled
    cases hhandled with
    | failed _ hw e => exact ⟨_, _, rfl, .inl ⟨e, rfl, hw⟩⟩
    | served _ hw => exact ⟨_, _, by rw [ha]; rfl, .inr ⟨w.now, a, ha, rfl, hw⟩⟩
  cases h with
  | clock => exact ⟨_, _, rfl, rfl⟩
  | mint => exact ⟨_, _, rfl, rfl⟩
  | _ => exact hcall rfl

/-- What a handler endures holds of its run, whatever calls fail. -/
theorem Program.Endures.run {α : Type} {p : Program α} {Q : List Asked → Store → α → Prop}
    {w : World} (h : p.Endures Repository.memory Q w.store) (hp : Announcer.Modest p) :
    ∃ log w' a, w.run p = (w', some a) ∧ Q log w'.store a := by
  induction p generalizing w Q with
  | done a => exact ⟨[], w, a, rfl, h⟩
  | crash => exact h.elim
  | ask r next ih =>
      obtain ⟨w', answer, hhandle, hserves⟩ := Announcer.Asks.handle hp.1 w
      obtain ⟨log, w'', a, hrun, ha⟩ := ih answer (h.2 answer w'.store hserves) (hp.2 answer)
      refine ⟨⟨r, answer⟩ :: log, w'', a, ?_, ha⟩
      rw [World.run, hhandle]
      exact hrun

end Courier
