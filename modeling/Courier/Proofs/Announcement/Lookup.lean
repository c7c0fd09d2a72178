import Mathlib.Logic.Basic
import Courier.Announcement

/-!
# Proofs — Announcement — Lookup

How a snapshot comes to its names, whatever is answered.

* `Asked.named`: the name that a look-up gives, which is the identifier where it fails.
* `Program.Gathers`: a program that asks only for certain things, with what it makes of the names
  that it was given.
* `Announcer.payload_gathers`: a snapshot shows the names as they were looked up, one for each
  service and group that it is about.
-/

namespace Courier

/-- A request and the answer to it. -/
structure Asked where
  request : Request
  answer : request.Answer

/-- What a service or a group is called after it was looked up: by its identifier, where that failed
or nothing was found. -/
def Asked.named : Asked → Option (Uuid × String)
  | ⟨.store (.getService id), .ok (some service)⟩ => some (id, service.name)
  | ⟨.store (.getService id), _⟩ => some (id, id.text)
  | ⟨.store (.getGroup id), .ok (some group)⟩ => some (id, group.name)
  | ⟨.store (.getGroup id), _⟩ => some (id, id.text)
  | _ => none

/-! ### What a snapshot names -/

/-- The names of services in the changes of an update. -/
def PayloadChanges.names (c : PayloadChanges) : List (Uuid × String) :=
  c.servicesAdded.map (fun s => (s.id, s.name)) ++
    c.servicesRemoved.map (fun s => (s.id, s.name)) ++ c.servicesUpdated.map fun t => (t.id, t.name)

/-- The names of services and groups in a snapshot. -/
def Payload.names (p : Payload) : List (Uuid × String) :=
  p.event.services.map (fun s => (s.id, s.name)) ++ p.event.groups.map (fun g => (g.id, g.name)) ++
    p.changes.elim [] PayloadChanges.names

/-- The services that the changes of an update are about. -/
def ChangeSet.mentions (c : ChangeSet) : List Uuid :=
  c.addedServiceIds ++ c.servicesRemoved ++ c.servicesUpdated.map (·.serviceId)

/-- The services and groups that a notice is about. -/
def Announcer.Notice.mentions (scope : Scope) (notice : Announcer.Notice) : List Uuid :=
  scope.serviceIds ++ scope.groupIds ++ notice.changes.elim [] ChangeSet.mentions

/-! ### Gathering -/

namespace Program

variable {α β : Type} {A : Request → Prop}

/-- Whatever it is answered, the program asks only for what is allowed, and what it ends with is
right for the names that it was given. -/
def Gathers (A : Request → Prop) : (List (Uuid × String) → α → Prop) → Program α → Prop
  | P, .done a => P [] a
  | _, .crash => False
  | P, .ask r next => A r ∧ ∀ answer,
      Gathers A (fun names => P ((Asked.named ⟨r, answer⟩).toList ++ names)) (next answer)

namespace Gathers

variable {P : List (Uuid × String) → α → Prop} {Q : List (Uuid × String) → β → Prop}

theorem done {a : α} (h : P [] a) : (Program.done a).Gathers A P := h

theorem ask {r : Request} {f : r.Answer → Program β} (h : A r)
    (hf : ∀ answer, (f answer).Gathers A
      fun names => Q ((Asked.named ⟨r, answer⟩).toList ++ names)) :
    ((request r).bind f).Gathers A Q :=
  ⟨h, hf⟩

/-- What two programs gather one after the other. -/
theorem bind {p : Program α} {f : α → Program β} (h : p.Gathers A P)
    (hf : ∀ names a, P names a → (f a).Gathers A fun names' => Q (names ++ names')) :
    (p.bind f).Gathers A Q := by
  induction p generalizing P Q with
  | done a => exact hf [] a h
  | crash => exact h.elim
  | ask r next ih =>
      refine ⟨h.1, fun answer => ih answer (h.2 answer) fun names a ha => ?_⟩
      simpa only [List.append_assoc] using hf _ a ha

theorem mono {Q : List (Uuid × String) → α → Prop} {p : Program α} (h : p.Gathers A P)
    (hq : ∀ names a, P names a → Q names a) : p.Gathers A Q := by
  rw [← bind_done p]
  exact h.bind fun names a ha => .done (by rw [List.append_nil]; exact hq names a ha)

/-- What is right for each element is right for all in a row. -/
theorem each {P : α → List (Uuid × String) → β → Prop}
    (Q : List α → List (Uuid × String) → List β → Prop) {f : α → Program β}
    (hf : ∀ x, (f x).Gathers A (P x)) (hnil : Q [] [] [])
    (hcons : ∀ x rest names names' b bs, P x names b → Q rest names' bs →
      Q (x :: rest) (names ++ names') (b :: bs)) (l : List α) :
    (Announcer.each f l).Gathers A (Q l) := by
  induction l with
  | nil => exact .done hnil
  | cons x rest ih =>
      refine (hf x).bind fun names b hb => ih.bind fun names' bs hbs => .done ?_
      rw [List.append_nil]
      exact hcons x rest names names' b bs hb hbs

end Gathers

end Program

namespace Announcer
open Program

variable {α β : Type}

/-- What is asked for a snapshot. -/
inductive Peeks : Request → Prop where
  | clock : Peeks .clock
  | getService (id : Uuid) : Peeks (.store (.getService id))
  | getGroup (id : Uuid) : Peeks (.store (.getGroup id))

/-- The look-up of a service gathers its name. -/
theorem lookupService_gathers (id : Uuid) :
    (lookupService id).Gathers Peeks fun names found => names = [(id, found.1)] := by
  refine .ask (.getService id) fun answer => ?_
  rcases answer with e | found
  · exact .done rfl
  · cases found <;> exact .done rfl

/-- The look-up of a group gathers its name. -/
theorem groupSnapshot_gathers (id : Uuid) :
    (groupSnapshot id).Gathers Peeks fun names g => names = [(g.id, g.name)] ∧ g.id = id := by
  refine .bind (P := fun names name => names = [(id, name)]) (.ask (.getGroup id) fun answer => ?_)
    fun names name h => .done ?_
  · rcases answer with e | found
    · exact .done rfl
    · cases found <;> exact .done rfl
  · rw [h, List.append_nil]
    exact ⟨rfl, rfl⟩

/-- One name is looked up for each element. -/
theorem each_gathers {f : α → Program β} (id : α → Uuid) {entry : β → Uuid × String}
    (hf : ∀ x, (f x).Gathers Peeks fun names b => names = [entry b] ∧ (entry b).1 = id x)
    (l : List α) :
    (each f l).Gathers Peeks fun names bs =>
      names = bs.map entry ∧ names.map (·.1) = l.map id := by
  refine Gathers.each (fun l names bs => names = bs.map entry ∧ names.map (·.1) = l.map id) hf
    ⟨rfl, rfl⟩ ?_ l
  rintro x rest names names' b bs ⟨rfl, hb⟩ ⟨rfl, hbs⟩
  exact ⟨rfl, congrArg₂ List.cons hb hbs⟩

/-- Services are looked up, and something is made of each. -/
theorem each_lookup_gathers {id : α → Uuid} {f : α → String × ServiceStatus → β}
    (entry : β → Uuid × String) (hf : ∀ x found, entry (f x found) = (id x, found.1))
    (l : List α) :
    (each (fun x => (lookupService (id x)).bind fun found => .done (f x found)) l).Gathers Peeks
      fun names bs => names = bs.map entry ∧ names.map (·.1) = l.map id := by
  refine each_gathers id (fun x => ?_) l
  refine (lookupService_gathers (id x)).bind fun names found h => .done ?_
  rw [h, hf, List.append_nil]
  exact ⟨rfl, rfl⟩

/-- The changes of a payload gather a name for each service that they mention. -/
theorem payloadChanges_gathers (c : ChangeSet) :
    (payloadChanges c).Gathers Peeks fun names p =>
      names = p.names ∧ names.map (·.1) = c.mentions := by
  refine (each_lookup_gathers (fun s => (s.id, s.name)) (fun _ _ => rfl) _).bind
    fun added services hadded => ?_
  refine (each_lookup_gathers (fun s => (s.id, s.name)) (fun _ _ => rfl) _).bind
    fun removed services' hremoved => ?_
  refine (each_lookup_gathers (fun t => (t.id, t.name)) (fun _ _ => rfl) _).bind
    fun updated transitions hupdated => .done ⟨?_, ?_⟩
  · rw [hadded.1, hremoved.1, hupdated.1, List.append_nil, ← List.append_assoc]
    rfl
  · rw [List.append_nil, List.map_append, List.map_append, hadded.2, hremoved.2, hupdated.2,
      List.map_id', ← List.append_assoc]
    rfl

/-- Where nothing has changed nothing is looked up. -/
theorem changesOf_gathers (changes : Option ChangeSet) :
    (changesOf changes).Gathers Peeks fun names p =>
      names = p.elim [] PayloadChanges.names ∧
        names.map (·.1) = changes.elim [] ChangeSet.mentions := by
  cases changes with
  | none => exact .done ⟨rfl, rfl⟩
  | some c =>
      refine (payloadChanges_gathers c).bind fun names p h => .done ?_
      rw [List.append_nil]
      exact h

/-- The snapshot is one of the event, for the notice. -/
def Snapshot (event : Event) (notice : Notice) (p : Payload) : Prop :=
  p.kind = notice.kind ∧ p.event.id = event.id ∧ p.event.title = event.title

/-- **A snapshot shows the names as they were looked up,** for each service and group that it is
about. -/
theorem payload_gathers (a : Announcer) (event : Event) (scope : Scope) (notice : Notice) :
    (a.payload event scope notice).Gathers Peeks fun names p =>
      Snapshot event notice p ∧ names = p.names ∧ names.map (·.1) = notice.mentions scope := by
  refine (each_lookup_gathers (fun s => (s.id, s.name)) (fun _ _ => rfl) _).bind
    fun names services hservices => ?_
  refine (each_gathers (fun id => id) groupSnapshot_gathers _).bind
    fun names' groups hgroups => ?_
  refine (changesOf_gathers _).bind fun names'' changes hchanges => ?_
  refine .ask .clock fun now => .done ⟨⟨rfl, rfl, rfl⟩, ?_, ?_⟩
  · show names ++ (names' ++ (names'' ++ [])) = _
    rw [hservices.1, hgroups.1, hchanges.1, List.append_nil, ← List.append_assoc]
    rfl
  · show (names ++ (names' ++ (names'' ++ []))).map _ = _
    rw [List.append_nil, List.map_append, List.map_append, hservices.2, hgroups.2, hchanges.2,
      List.map_id', ← List.append_assoc]
    rfl

/-- For a new item nothing is looked up. -/
theorem newItem_gathers (a : Announcer) (eventId : Uuid) (p : Payload) (channelId : Uuid) :
    (a.newItem eventId p channelId).Gathers (· = .mint) fun names item =>
      names = [] ∧ item.channelId = channelId ∧ item.payload = p :=
  .ask rfl fun _ => .done ⟨rfl, rfl, rfl⟩

/-- Items are made without looking up anything. -/
theorem newItems_gathers (a : Announcer) (eventId : Uuid) (p : Payload) (channelIds : List Uuid) :
    (each (a.newItem eventId p) channelIds).Gathers (· = .mint) fun names items =>
      names = [] ∧ items.map (·.channelId) = channelIds ∧ ∀ item ∈ items, item.payload = p := by
  refine Gathers.each (fun channelIds names items => names = [] ∧
      items.map (·.channelId) = channelIds ∧ ∀ item ∈ items, item.payload = p)
    (a.newItem_gathers eventId p) ⟨rfl, rfl, List.forall_mem_nil _⟩ ?_ channelIds
  rintro channelId rest names names' item items ⟨rfl, hchannel, hp⟩ ⟨rfl, hchannels, hps⟩
  exact ⟨rfl, congrArg₂ List.cons hchannel hchannels, List.forall_mem_cons.mpr ⟨hp, hps⟩⟩

end Announcer

end Courier
