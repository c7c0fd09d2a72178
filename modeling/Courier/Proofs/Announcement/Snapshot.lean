import Mathlib.Data.List.Forall2
import Mathlib.Data.Option.Basic
import Courier.Proofs.Repository

/-!
# Proofs — Announcement — Snapshot

What a snapshot says of the services and groups that a notice is about, whatever the catalog knows
of them and whichever look-ups fail.

* `Sight.FindsService`, `Sight.FindsGroup`: what comes of looking one up.
* `Program.Reads`: a program that only looks up, and what its value may be when calls fail;
  `Program.Reads.each`: element by element.
* `Lasts`, `lasts_elapsedSeconds`: how long an event lasted.
* `snapshot_shows_each`: a snapshot shows each element of the lists that it is made from.
-/

namespace Courier

/-! ### Looking up -/

/-- A call was made and failed. -/
def Failed (log : List Asked) (c : StoreCall) : Prop :=
  ∃ e, (⟨.store c, .error e⟩ : Asked) ∈ log

namespace Sight

/-- What is said of a service that was looked up: its name and its status in the catalog, or its
identifier and no known status where it is not there or a look-up of it failed. -/
inductive FindsService (v : Sight) (failed : StoreCall → Prop) (id : Uuid) :
    String → ServiceStatus → Prop where
  | found {service : Service} (h : v.service? id = some service) :
      FindsService v failed id service.name service.status
  | absent (h : v.service? id = none) : FindsService v failed id id.text .unknown
  | failed (h : failed (.getService id)) : FindsService v failed id id.text .unknown

/-- What is said of a group that was looked up. -/
inductive FindsGroup (v : Sight) (failed : StoreCall → Prop) (id : Uuid) : String → Prop where
  | found {group : Group} (h : v.group? id = some group) : FindsGroup v failed id group.name
  | absent (h : v.group? id = none) : FindsGroup v failed id id.text
  | failed (h : failed (.getGroup id)) : FindsGroup v failed id id.text

end Sight

namespace Program

variable {σ α β : Type} {R : Repository σ} {v : Sight}

/-- The program gets its answers and changes nothing that handlers see, and its value is right for
the calls that failed, or for more than these. -/
def Reads (R : Repository σ) (v : Sight) (P : (StoreCall → Prop) → α → Prop) (p : Program α) :
    Prop :=
  ∀ s, R.sight s = v → p.Endures R (fun log s' a => R.sight s' = v ∧
    ∀ failed : StoreCall → Prop, (∀ c, Failed log c → failed c) → P failed a) s

namespace Reads

variable {P : (StoreCall → Prop) → α → Prop} {Q : (StoreCall → Prop) → β → Prop}

theorem done {a : α} (h : ∀ failed, P failed a) : (Program.done a).Reads R v P :=
  fun _ hs => ⟨hs, fun failed _ => h failed⟩

/-- A program that only reads may be followed by one that only reads. -/
theorem bind {p : Program α} {f : α → Program β} (h : p.Reads R v P)
    (hf : ∀ a, (f a).Reads R v fun failed b => P failed a → Q failed b) :
    (p.bind f).Reads R v Q := by
  intro s hs
  refine (h s hs).bind fun log s₁ a ⟨hs₁, ha⟩ => ?_
  refine (hf a s₁ hs₁).mono fun log' s₂ b ⟨hs₂, hb⟩ => ⟨hs₂, fun failed hfailed => ?_⟩
  have hbefore : ∀ c, Failed log c → failed c :=
    fun c ⟨e, he⟩ => hfailed c ⟨e, List.mem_append_left log' he⟩
  have hafter : ∀ c, Failed log' c → failed c :=
    fun c ⟨e, he⟩ => hfailed c ⟨e, List.mem_append_right log he⟩
  exact hb failed hafter (ha failed hbefore)

/-- The clock may be read. -/
theorem clock {f : Instant → Program β} (hf : ∀ now, (f now).Reads R v Q) :
    ((request .clock).bind f).Reads R v Q := by
  intro s hs
  refine ⟨⟨Instant.epoch, s, rfl⟩, fun now s' hserves => ?_⟩
  obtain rfl : s' = s := hserves
  refine (hf now s' hs).mono fun log s'' b ⟨hs'', hb⟩ => ⟨hs'', fun failed hfailed => ?_⟩
  exact hb failed fun c ⟨e, he⟩ => hfailed c ⟨e, List.mem_cons_of_mem _ he⟩

/-- What is right for each element is right element by element. -/
theorem each {P : (StoreCall → Prop) → α → β → Prop} {f : α → Program β}
    (hf : ∀ a, (f a).Reads R v fun failed b => P failed a b) (l : List α) :
    (Announcer.each f l).Reads R v fun failed bs => List.Forall₂ (P failed) l bs := by
  induction l with
  | nil => exact .done fun _ => .nil
  | cons a rest ih =>
      exact (hf a).bind fun b => ih.bind fun bs => .done fun _ hbs hb => .cons hb hbs

end Reads

end Program

namespace Announcer
open Program

variable {σ : Type} {R : Repository σ} {v : Sight}

/-- What is found for a service is in the catalog, or stands in for it when the look-up fails. -/
theorem lookupService_reads (hR : R.Contract) (id : Uuid) :
    (lookupService id).Reads R v fun failed found =>
      v.FindsService failed id found.1 found.2 := by
  rintro s rfl
  refine Endures.call hR (.getService id) fun answer s' hserves => ?_
  cases answer with
  | error e =>
      exact ⟨hR.fails hserves, fun failed h => .failed (h _ ⟨e, List.mem_cons_self⟩)⟩
  | ok found =>
      obtain ⟨hs', hfound⟩ := hR.getService hserves
      cases found with
      | none => exact ⟨hs', fun _ _ => .absent hfound.symm⟩
      | some service => exact ⟨hs', fun _ _ => .found hfound.symm⟩

/-- What is found for a group is in the catalog, or stands in for it when the look-up fails. -/
theorem groupName_reads (hR : R.Contract) (id : Uuid) :
    (groupName id).Reads R v fun failed name => v.FindsGroup failed id name := by
  rintro s rfl
  refine Endures.call hR (.getGroup id) fun answer s' hserves => ?_
  cases answer with
  | error e =>
      exact ⟨hR.fails hserves, fun failed h => .failed (h _ ⟨e, List.mem_cons_self⟩)⟩
  | ok found =>
      obtain ⟨hs', hfound⟩ := hR.getGroup hserves
      cases found with
      | none => exact ⟨hs', fun _ _ => .absent hfound.symm⟩
      | some group => exact ⟨hs', fun _ _ => .found hfound.symm⟩

end Announcer

/-! ### What is shown of each -/

namespace Sight

variable (v : Sight) (failed : StoreCall → Prop)

/-- A service is shown with the status that the event gives it. -/
def ShowsAffected (a : AffectedService) (s : ServiceSnapshot) : Prop :=
  s.id = a.serviceId ∧ s.status = a.status ∧
    ∃ current, v.FindsService failed a.serviceId s.name current

/-- A service is shown with its status in the catalog. -/
def ShowsCurrent (id : Uuid) (s : ServiceSnapshot) : Prop :=
  s.id = id ∧ v.FindsService failed id s.name s.status

/-- A step of a service is shown as it was given. -/
def ShowsStep (c : ServiceChange) (t : ServiceTransition) : Prop :=
  t.id = c.serviceId ∧ t.source = c.source ∧ t.target = c.target ∧
    ∃ current, v.FindsService failed c.serviceId t.name current

/-- A group of a payload shows the group of an identifier, by its name or, if the look-up fails, by
the identifier. -/
def ShowsGroup (id : Uuid) (g : GroupSnapshot) : Prop :=
  g.id = id ∧ v.FindsGroup failed id g.name

/-- The changes of an update are shown element by element. -/
structure ShowsChanges (c : ChangeSet) (p : PayloadChanges) : Prop where
  status : p.status = c.status
  added : List.Forall₂ (v.ShowsAffected failed) c.servicesAdded p.servicesAdded
  removed : List.Forall₂ (v.ShowsCurrent failed) c.servicesRemoved p.servicesRemoved
  updated : List.Forall₂ (v.ShowsStep failed) c.servicesUpdated p.servicesUpdated
  reason : p.reason = c.reason

end Sight

/-- Lists that are related element by element are both empty or neither. -/
theorem isEmpty_of_forall₂ {α β : Type} {r : α → β → Prop} {l : List α} {l' : List β}
    (h : List.Forall₂ r l l') : l'.isEmpty = l.isEmpty := by
  cases h <;> rfl

/-- There is something to show exactly if something changed. -/
theorem Sight.ShowsChanges.isEmpty_eq {v : Sight} {failed : StoreCall → Prop} {c : ChangeSet}
    {p : PayloadChanges} (h : v.ShowsChanges failed c p) : p.isEmpty = c.isEmpty := by
  rw [PayloadChanges.isEmpty, ChangeSet.isEmpty, h.status, h.reason, isEmpty_of_forall₂ h.added,
    isEmpty_of_forall₂ h.removed, isEmpty_of_forall₂ h.updated]

/-! ### How long an event lasted -/

/-- The whole seconds from a start to an end; none where the end comes first or the start is not
known. -/
def Lasts (start : Option Instant) (finish : Instant) (seconds : Int) : Prop :=
  match start with
  | none => seconds = 0
  | some start =>
    if finish.since start < 0 then seconds = 0
    else seconds * nanosPerSecond ≤ finish.since start ∧
      finish.since start < (seconds + 1) * nanosPerSecond

/-- The seconds between start and end are the whole seconds that the event lasted. -/
theorem lasts_elapsedSeconds (start : Option Instant) (finish : Instant) :
    Lasts start finish (elapsedSeconds start finish) := by
  cases start with
  | none => rfl
  | some start =>
      simp only [Lasts, elapsedSeconds, Instant.secondsSince, nanosPerSecond]
      split
      · -- division towards zero is that of the amount
        obtain ⟨amount, hamount⟩ : ∃ amount, finish.since start = -amount :=
          ⟨-finish.since start, (Int.neg_neg _).symm⟩
        rw [hamount, Int.neg_tdiv, Int.tdiv_eq_ediv_of_nonneg (by omega)]
        omega
      · rw [Int.tdiv_eq_ediv_of_nonneg (by omega)]
        omega

/-- The years end before a count of seconds does. -/
theorem Instant.since_lt (t start : Instant) : t.since start < 2 ^ 63 * nanosPerSecond := by
  have hmin : Time.minSecond = -8334601228800 := by decide
  have hmax : Time.maxSecond = 8210266876799 := by decide
  have hstart := start.valid.1.1
  have ht := t.valid.1.2
  have hnano := t.valid.2
  obtain ⟨leap, hleap, hsince⟩ : ∃ leap : Int, leap ≤ 1 ∧ t.since start =
      (t.second - start.second + leap) * nanosPerSecond + (t.nano - start.nano) := by
    refine ⟨_, ?_, rfl⟩
    split
    · omega
    · split <;> omega
  rw [hsince]
  simp only [nanosPerSecond] at hnano ⊢
  omega

/-- The seconds fit into 64 bits, since both instants are on the calendar. -/
theorem toInt_elapsedSeconds (start : Option Instant) (finish : Instant) :
    (Int64.ofInt (elapsedSeconds start finish)).toInt = elapsedSeconds start finish := by
  have hbounds : 0 ≤ elapsedSeconds start finish ∧ elapsedSeconds start finish < 2 ^ 63 := by
    cases start with
    | none => exact ⟨Int.le_refl 0, (by decide : (0 : Int) < 2 ^ 63)⟩
    | some start =>
        have hlasts := lasts_elapsedSeconds (some start) finish
        have hlt := finish.since_lt start
        refine ⟨Int.le_max_right _ _, ?_⟩
        generalize elapsedSeconds (some start) finish = seconds at hlasts
        simp only [Lasts, nanosPerSecond] at hlasts hlt
        split at hlasts <;> omega
  exact Int64.toInt_ofInt_of_le (by omega) hbounds.2

/-! ### The whole -/

namespace Sight

/-- What a snapshot shows of an event and a notice about it, element by element. -/
structure Pictures (v : Sight) (failed : StoreCall → Prop) (event : Event) (scope : Scope)
    (notice : Announcer.Notice) (p : Payload) : Prop where
  about : Announcer.Snapshot event notice p
  message : p.event.message = notice.message.getD event.description
  services : List.Forall₂ (v.ShowsAffected failed) scope.services p.event.services
  groups : List.Forall₂ (v.ShowsGroup failed) scope.groupIds p.event.groups
  changes : Option.Rel (fun c shown => v.ShowsChanges failed c shown ∧ shown.isEmpty = c.isEmpty)
    notice.changes p.changes
  resolution : Option.Rel (fun (r : Resolution) (shown : ResolutionInfo) =>
      shown.resolvedAt = r.resolvedAt ∧ shown.message = r.message ∧
        Lasts event.startedAt r.resolvedAt shown.durationSeconds.toInt)
    notice.resolution p.resolution

end Sight

namespace Announcer
open Program

variable {σ : Type} {R : Repository σ} {v : Sight}

/-- An affected service is pictured with its name and the status of the event. -/
theorem affectedSnapshot_reads (hR : R.Contract) (a : AffectedService) :
    (affectedSnapshot a).Reads R v fun failed s => v.ShowsAffected failed a s :=
  (lookupService_reads hR a.serviceId).bind fun found =>
    .done fun _ h => ⟨rfl, rfl, found.2, h⟩

theorem removedSnapshot_reads (hR : R.Contract) (id : Uuid) :
    (removedSnapshot id).Reads R v fun failed s => v.ShowsCurrent failed id s :=
  (lookupService_reads hR id).bind fun _ => .done fun _ h => ⟨rfl, h⟩

theorem serviceTransition_reads (hR : R.Contract) (c : ServiceChange) :
    (serviceTransition c).Reads R v fun failed t => v.ShowsStep failed c t :=
  (lookupService_reads hR c.serviceId).bind fun found =>
    .done fun _ h => ⟨rfl, rfl, rfl, found.2, h⟩

theorem groupSnapshot_reads (hR : R.Contract) (id : Uuid) :
    (groupSnapshot id).Reads R v fun failed g => v.ShowsGroup failed id g :=
  (groupName_reads hR id).bind fun _ => .done fun _ h => ⟨rfl, h⟩

/-- Each change of the services is pictured. -/
theorem payloadChanges_reads (hR : R.Contract) (c : ChangeSet) :
    (payloadChanges c).Reads R v fun failed p => v.ShowsChanges failed c p := by
  refine (Reads.each (affectedSnapshot_reads hR) c.servicesAdded).bind fun added => ?_
  refine (Reads.each (removedSnapshot_reads hR) c.servicesRemoved).bind fun removed => ?_
  refine (Reads.each (serviceTransition_reads hR) c.servicesUpdated).bind fun updated => ?_
  exact .done fun _ hupdated hremoved hadded => ⟨rfl, hadded, hremoved, hupdated, rfl⟩

/-- Changes are pictured if there are any, and are empty only if they were. -/
theorem changesOf_reads (hR : R.Contract) (changes : Option ChangeSet) :
    (changesOf changes).Reads R v fun failed shown =>
      Option.Rel (fun c p => v.ShowsChanges failed c p ∧ p.isEmpty = c.isEmpty) changes shown := by
  cases changes with
  | none => exact .done fun _ => .none
  | some c =>
      exact (payloadChanges_reads hR c).bind fun p => .done fun _ h => .some ⟨h, h.isEmpty_eq⟩

/-- The payload pictures the event. -/
theorem payload_reads (hR : R.Contract) (a : Announcer) (event : Event) (scope : Scope)
    (notice : Notice) :
    (a.payload event scope notice).Reads R v fun failed p =>
      v.Pictures failed event scope notice p := by
  refine (Reads.each (affectedSnapshot_reads hR) scope.services).bind fun services => ?_
  refine (Reads.each (groupSnapshot_reads hR) scope.groupIds).bind fun groups => ?_
  refine (changesOf_reads hR notice.changes).bind fun changes => ?_
  refine .clock fun now => .done fun failed hchanges hgroups hservices => ?_
  refine ⟨⟨rfl, rfl, rfl⟩, rfl, hservices, hgroups, hchanges, ?_⟩
  cases notice.resolution with
  | none => exact .none
  | some r =>
      refine .some ⟨rfl, rfl, ?_⟩
      rw [resolutionInfo, toInt_elapsedSeconds]
      exact lasts_elapsedSeconds _ _

end Announcer

/-- **A snapshot shows each element of the lists that it is made from,** in their order and as often
as it occurs there, over any repository that keeps the contract and whichever look-ups fail.  What
the event gives is shown as it was given, a removed service with its status in the catalog, and each
under its name there or, where that was not to be had, under its identifier.  The changes are empty
exactly if those of the update are, and a resolution tells the whole seconds from the start of the
event. -/
theorem snapshot_shows_each {σ : Type} {R : Repository σ} (hR : R.Contract) (a : Announcer)
    (event : Event) (scope : Scope) (notice : Announcer.Notice) (s : σ) :
    (a.payload event scope notice).Endures R (fun log s' p => R.sight s' = R.sight s ∧
      (R.sight s).Pictures (Failed log) event scope notice p) s :=
  (a.payload_reads hR event scope notice s rfl).mono fun log _ _ ⟨hs, hp⟩ =>
    ⟨hs, hp (Failed log) fun _ h => h⟩

namespace Sample

/-- A store that knows two services, of which the first look-up fails. -/
def patchy : World :=
  { world with
    store := (world.store.insertService ⟨id 7, "Login", .operational⟩).insertService
      ⟨id 8, "Search", .operational⟩
    faults := Table.empty.set "get_service" [some (.notFound "")] }

/-- An event that affects one service twice. -/
def doubled : Scope := ⟨[⟨id 7, .degraded⟩, ⟨id 7, .majorOutage⟩], []⟩

/-- An update that removes two services, of which one is not in the catalog. -/
def removal : Announcer.Notice :=
  { Announcer.Notice.plain .update with changes := some ⟨none, [], [id 8, id 9], [], none⟩ }

end Sample

/-- A service that is affected twice is shown twice, the first time by its identifier, for which the
look-up failed. -/
theorem affected_twice_is_shown_twice : ∃ log w' p,
    Sample.patchy.run (Sample.announcer.payload Sample.event Sample.doubled Sample.removal) =
      (w', some p) ∧
    (Repository.memory.sight Sample.patchy.store).Pictures (Failed log) Sample.event
      Sample.doubled Sample.removal p ∧
    p.event.services = [⟨Sample.id 7, (Sample.id 7).text, .degraded⟩,
      ⟨Sample.id 7, "Login", .majorOutage⟩] ∧
    p.changes.map (·.servicesRemoved) = some [⟨Sample.id 8, "Search", .operational⟩,
      ⟨Sample.id 9, (Sample.id 9).text, .unknown⟩] := by
  obtain ⟨log, w', p, hrun, -, hp⟩ :=
    (snapshot_shows_each Repository.memory_contract Sample.announcer Sample.event Sample.doubled
      Sample.removal Sample.patchy.store).run (Announcer.payload_modest _ _ _ _)
  let ran := (Sample.patchy.run
    (Sample.announcer.payload Sample.event Sample.doubled Sample.removal)).2
  have hran : ran = some p := congrArg Prod.snd hrun
  have hservices : ran.map (·.event.services) = some [⟨Sample.id 7, (Sample.id 7).text, .degraded⟩,
      ⟨Sample.id 7, "Login", .majorOutage⟩] := by decide
  have hremoved : ran.map (fun p => p.changes.map (·.servicesRemoved)) =
      some (some [⟨Sample.id 8, "Search", .operational⟩,
        ⟨Sample.id 9, (Sample.id 9).text, .unknown⟩]) := by decide
  rw [hran] at hservices hremoved
  exact ⟨log, w', p, hrun, hp, Option.some.inj hservices, Option.some.inj hremoved⟩

end Courier
