import Courier.Proofs.Announcement.Lookup
import Courier.Proofs.Rules

/-!
# Proofs — Announcement — Handler

What a handler may ask for, whatever it is answered: the only thing it changes in the queue is what
it appends to it.

* `Occasion`: what handlers are called for, with `Occasion.newcomers` and `Occasion.told`: who is to
  hear of it.
* `Announcer.Asks`: the requests of handlers; `Occasion.program_follows`: there are no others.
-/

namespace Courier

/-- What has happened to an event. -/
inductive Occasion where
  | created (event : Event) (scope : Scope)
  | updated (event : Event) (scope : Scope) (update : Update) (changes : ChangeSet)
  | resolved (event : Event) (scope : Scope) (resolution : Resolution)
  | completed (event : Event) (scope : Scope) (resolution : Resolution)
  | cancelled (event : Event) (scope : Scope)

namespace Occasion

/-- The event that the occasion is about. -/
def event : Occasion → Event
  | created event _ => event
  | updated event _ _ _ => event
  | resolved event _ _ => event
  | completed event _ _ => event
  | cancelled event _ => event

/-- What the event of the occasion is about. -/
def scope : Occasion → Scope
  | created _ scope => scope
  | updated _ scope _ _ => scope
  | resolved _ scope _ => scope
  | completed _ scope _ => scope
  | cancelled _ scope => scope

/-- Whether subscribers are to hear of it. -/
def notifies : Occasion → Bool
  | created event _ => event.notifySubscribers
  | updated _ _ update _ => update.notifySubscribers
  | resolved _ _ _ => true
  | completed _ _ _ => true
  | cancelled event _ => event.notifySubscribers

/-- What is said of it. -/
def notice : Occasion → Announcer.Notice
  | created _ _ => .plain .initial
  | updated _ _ update changes => ⟨.update, update.message, some update.status, some changes, none⟩
  | resolved _ _ resolution =>
    { Announcer.Notice.plain .resolved with resolution := some resolution }
  | completed _ _ resolution =>
    { Announcer.Notice.plain .completed with resolution := some resolution }
  | cancelled _ _ => .plain .cancelled

/-- The channels that are to be told from now on, by who hears about services: for a new event about
its own, for an update about those that it adds. -/
def newcomers (hearers : List Uuid → List Uuid) : Occasion → List Uuid
  | created _ scope => hearers scope.serviceIds
  | updated _ _ _ changes =>
    if changes.servicesAdded = [] then [] else hearers changes.addedServiceIds
  | _ => []

/-- Those who are told: of a new event its own hearers, of all else who is in the list of the
event. -/
def told (hearers : List Uuid → List Uuid) (listed : List Uuid) : Occasion → List Uuid
  | created _ scope => hearers scope.serviceIds
  | _ => listed

/-- The handler of the occasion. -/
def program (a : Announcer) : Occasion → Program Nat
  | created event scope => a.onCreated event scope
  | updated event scope update changes => a.onUpdated event scope update changes
  | resolved event scope resolution => a.onResolved event scope resolution
  | completed event scope resolution => a.onCompleted event scope resolution
  | cancelled event scope => a.onCancelled event scope

end Occasion

namespace Announcer
open Program

/-- What handlers ask for. -/
inductive Asks : Request → Prop where
  | clock : Asks .clock
  | mint : Asks .mint
  | getService (id : Uuid) : Asks (.store (.getService id))
  | getGroup (id : Uuid) : Asks (.store (.getGroup id))
  | findSubscribers (serviceIds : List Uuid) : Asks (.store (.findSubscribers serviceIds))
  | getEventSubscribers (eventId : Uuid) : Asks (.store (.getEventSubscribers eventId))
  | addEventSubscribers (eventId : Uuid) (channelIds : List Uuid) :
      Asks (.store (.addEventSubscribers eventId channelIds))
  | enqueueBatch (items : List NewItem) : Asks (.store (.enqueueBatch items))

theorem Peeks.asks {r : Request} (h : Peeks r) : Asks r := by
  cases h with
  | clock => exact .clock
  | getService id => exact .getService id
  | getGroup id => exact .getGroup id

/-- The rules that handlers keep to. -/
def rules : Rules Unit := ⟨fun _ => Asks, fun _ _ _ => ()⟩

/-- The program asks for nothing else. -/
def Modest {α : Type} (p : Program α) : Prop := p.Follows rules (fun _ _ => True) ()

namespace Modest

variable {α β : Type}

theorem done (a : α) : Modest (.done a) := trivial

theorem ask {r : Request} {f : r.Answer → Program β} (h : Asks r)
    (hf : ∀ answer, Modest (f answer)) : Modest ((request r).bind f) :=
  Follows.ask h hf

/-- A modest program may be followed by a modest one. -/
theorem bind {p : Program α} {f : α → Program β} (h : Modest p) (hf : ∀ a, Modest (f a)) :
    Modest (p.bind f) :=
  Follows.bind h fun _ a _ => hf a

/-- A program that gathers names, where it asks only for what handlers ask for. -/
theorem of_gathers {A : Request → Prop} {P : List (Uuid × String) → α → Prop} {p : Program α}
    (h : p.Gathers A P) (hA : ∀ r, A r → Asks r) : Modest p := by
  induction p generalizing P with
  | done a => exact done a
  | crash => exact h.elim
  | ask r next ih => exact ⟨hA r h.1, fun answer => ih answer (h.2 answer)⟩

end Modest

variable (a : Announcer) (event : Event) (scope : Scope) (notice : Notice)

/-- To picture an event is to look things up. -/
theorem payload_modest : Modest (a.payload event scope notice) :=
  .of_gathers (a.payload_gathers event scope notice) fun _ => Peeks.asks

/-- A payload is queued for each recipient, and nothing else is changed. -/
theorem enqueue_modest (eventId : Uuid) (channelIds : List Uuid) (p : Payload) :
    Modest (a.enqueue eventId channelIds p) := by
  refine .bind (.of_gathers (a.newItems_gathers eventId p channelIds) ?_) fun items => ?_
  · rintro r rfl
    exact .mint
  refine .ask (.enqueueBatch items) fun answer => ?_
  cases answer <;> exact .done _

theorem announce_modest (channelIds : List Uuid) :
    Modest (a.announce event scope notice channelIds) := by
  cases channelIds with
  | nil => exact .done 0
  | cons first rest =>
      exact (a.payload_modest event scope notice).bind fun p => a.enqueue_modest _ _ p

theorem announceToKnown_modest : Modest (a.announceToKnown event scope notice) := by
  refine .ask (.getEventSubscribers event.id) fun answer => ?_
  cases answer with
  | ok channelIds => exact a.announce_modest event scope notice channelIds
  | error e => exact .done 0

/-- To announce an event changes the queue and the subscribers, if it changes anything. -/
theorem onCreated_modest : Modest (a.onCreated event scope) := by
  rw [onCreated]
  split
  · refine .ask (.findSubscribers scope.serviceIds) fun answer => ?_
    match answer with
    | .error e => exact .done 0
    | .ok [] => exact .done 0
    | .ok (subscriber :: subscribers) =>
        refine .ask (.addEventSubscribers event.id _) fun answer => ?_
        cases answer with
        | error e => exact .done 0
        | ok count => exact a.announce_modest event scope _ _
  · exact .done 0

/-- Only the subscribers of the event are extended. -/
theorem extendSubscribers_modest (serviceIds : List Uuid) :
    Modest (extendSubscribers event serviceIds) := by
  refine .ask (.findSubscribers serviceIds) fun answer => ?_
  cases answer with
  | error e => exact .done _
  | ok newcomers =>
      refine .ask (.addEventSubscribers event.id _) fun answer => ?_
      cases answer <;> exact .done _

/-- To announce an update changes the queue and the subscribers, if it changes anything. -/
theorem onUpdated_modest (update : Update) (changes : ChangeSet) :
    Modest (a.onUpdated event scope update changes) := by
  rw [onUpdated]
  split
  · split
    · exact a.announceToKnown_modest event scope _
    · refine (extendSubscribers_modest event changes.addedServiceIds).bind fun result => ?_
      cases result with
      | error e => exact .done 0
      | ok _ => exact a.announceToKnown_modest event scope _
  · exact .done 0

theorem onCancelled_modest : Modest (a.onCancelled event scope) := by
  rw [onCancelled]
  split
  · exact a.announceToKnown_modest event scope _
  · exact .done 0

end Announcer

/-- **A handler asks for nothing else,** whatever it is answered. -/
theorem Occasion.program_modest (a : Announcer) (o : Occasion) :
    Announcer.Modest (o.program a) := by
  cases o with
  | created event scope => exact a.onCreated_modest event scope
  | updated event scope update changes => exact a.onUpdated_modest event scope update changes
  | resolved event scope resolution => exact a.announceToKnown_modest event scope _
  | completed event scope resolution => exact a.announceToKnown_modest event scope _
  | cancelled event scope => exact a.onCancelled_modest event scope

/-- Nothing happens where nobody is to hear of it. -/
theorem Occasion.program_of_silent (a : Announcer) (o : Occasion) (h : o.notifies = false) :
    o.program a = .done 0 := by
  have hne : ∀ {b : Bool}, b = false → ¬b = true := fun hb => by rw [hb]; exact Bool.false_ne_true
  cases o with
  | created event scope => exact if_neg (hne h)
  | updated event scope update changes => exact if_neg (hne h)
  | resolved event scope resolution => cases h
  | completed event scope resolution => cases h
  | cancelled event scope => exact if_neg (hne h)

end Courier
