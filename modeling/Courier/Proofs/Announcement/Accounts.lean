import Mathlib.Data.List.Dedup
import Courier.Proofs.Repository

/-!
# Proofs — Announcement — Accounts

What a handler says that it queued, over a repository that may fail at any call.

* `Asked.refused`: whether a call failed that is no look-up of a name.
* `Announcer.Account`: what came into the queue, against what was asked and answered.
* `Announcer.announce_account`, `announceToKnown_account`, `extendSubscribers_widens`: the pieces of
  handlers.
* `count_matches_queue`: the account of a handler.
-/

namespace Courier

/-- Whether a call failed without which nobody can be told. -/
def Asked.refused : Asked → Bool
  | ⟨.store (.getService _), _⟩ => false
  | ⟨.store (.getGroup _), _⟩ => false
  | ⟨.store _, .error _⟩ => true
  | _ => false

/-- The snapshot shows the names as they were looked up, one for each service and group that it is
about. -/
def Payload.Tells (log : List Asked) (mentions : List Uuid) (p : Payload) : Prop :=
  p.names = log.filterMap Asked.named ∧ p.names.map (·.1) = mentions

/-- The services and groups that an occasion is about. -/
def Occasion.mentions (o : Occasion) : List Uuid := o.notice.mentions o.scope

namespace Sight

/-- The list of the event afterwards: newcomers follow who was told before. -/
def listed (v : Sight) (o : Occasion) : List Uuid :=
  v.subscribers o.event.id ++
    ((o.newcomers v.hearers).filter fun id => id ∉ v.subscribers o.event.id).dedup

/-- Those who are to be told, if anybody is. -/
def recipients (v : Sight) (o : Occasion) : List Uuid :=
  if o.notifies then o.told v.hearers (v.listed o) else []

variable {v : Sight} {o : Occasion}

/-- Where all that an event newly reaches have subscribed, the subscribers are those listed. -/
theorem listed_of_closed (h : o.newcomers v.hearers = []) :
    v.listed o = v.subscribers o.event.id := by
  rw [listed, h, List.filter_nil, List.dedup_nil, List.append_nil]

/-- The subscribers and those that come new to them are listed, in some order. -/
theorem perm_listed {new : List Uuid} (hnodup : new.Nodup)
    (hmem : ∀ id, id ∈ new ↔ id ∈ o.newcomers v.hearers ∧ id ∉ v.subscribers o.event.id) :
    (v.subscribers o.event.id ++ new).Perm (v.listed o) := by
  refine .append_left _ ((List.perm_ext_iff_of_nodup hnodup (List.nodup_dedup _)).mpr fun id => ?_)
  rw [hmem, List.mem_dedup, List.mem_filter, decide_eq_true_iff]

end Sight

namespace Announcer
open Program

variable {σ : Type} {R : Repository σ} {P Q : Payload → Prop} {told : List Uuid} {v v' : Sight}
variable {n : Nat} {log log' : List Asked} {rows : List QueueItem}

/-- The account of an announcement: the rows that it queued and their count, against what was asked
and answered. -/
structure Account (P : Payload → Prop) (told : List Uuid) (v : Sight) (log : List Asked)
    (v' : Sight) (n : Nat) (rows : List QueueItem) : Prop where
  queue : v' = v.file rows
  count : n = rows.length
  refused : ∀ asked ∈ log, asked.refused = true → rows = []
  told : (∀ asked ∈ log, asked.refused = false) → (rows.map (·.channelId)).Perm told
  payload : ∀ row ∈ rows, P row.payload

namespace Account

/-- Nothing is queued where a call fails. -/
theorem failed (h : ∃ asked ∈ log, asked.refused = true) (hv : v' = v) :
    Account P told v log v' 0 [] where
  queue := hv.trans v.file_nil.symm
  count := rfl
  refused := fun _ _ _ => rfl
  told := by
    obtain ⟨asked, hasked, hrefused⟩ := h
    intro hall
    rw [hall asked hasked] at hrefused
    exact absurd hrefused Bool.false_ne_true
  payload := List.forall_mem_nil _

/-- Nothing is queued where there is nobody to tell. -/
theorem nobody (hv : v' = v) : Account P [] v log v' 0 [] where
  queue := hv.trans v.file_nil.symm
  count := rfl
  refused := fun _ _ _ => rfl
  told := fun _ => .nil
  payload := List.forall_mem_nil _

/-- Calls that succeed may come before. -/
theorem after (h : Account P told v log' v' n rows) (hlog : ∀ asked ∈ log, asked.refused = false)
    (hq : ∀ p, P p → Q p) : Account Q told v (log ++ log') v' n rows where
  queue := h.queue
  count := h.count
  refused := by
    refine List.forall_mem_append.mpr ⟨fun asked hasked hrefused => ?_, h.refused⟩
    rw [hlog asked hasked] at hrefused
    exact absurd hrefused Bool.false_ne_true
  told := fun hall => h.told fun asked hasked => hall asked (List.mem_append_right log hasked)
  payload := fun row hrow => hq _ (h.payload row hrow)

/-- An account holds in whatever order the recipients are told. -/
theorem perm {told' : List Uuid} (h : Account P told v log v' n rows) (hperm : told.Perm told') :
    Account P told' v log v' n rows :=
  { h with told := fun hall => (h.told hall).trans hperm }

end Account

variable {a : Announcer} {event : Event} {scope : Scope} {notice : Notice} {s : σ}

/-- What is asked for a snapshot and its items is answered, and changes nothing. -/
theorem Peeks.serves (hR : R.Contract) {r : Request} (hr : r = .mint ∨ Peeks r) :
    (∃ answer s', R.Serves s r answer s') ∧ ∀ answer s', R.Serves s r answer s' →
      R.sight s' = R.sight s ∧ Asked.refused ⟨r, answer⟩ = false := by
  rcases hr with rfl | hr
  · exact ⟨⟨World.mintedId 0, s, rfl⟩, fun _ _ hs => ⟨congrArg R.sight hs, rfl⟩⟩
  cases hr with
  | clock => exact ⟨⟨Instant.epoch, s, rfl⟩, fun _ _ hs => ⟨congrArg R.sight hs, rfl⟩⟩
  | getService id =>
      refine ⟨hR.answers s (.getService id), fun answer s' h => ⟨?_, rfl⟩⟩
      cases answer with
      | error e => exact hR.fails h
      | ok found => exact (hR.getService h).1
  | getGroup id =>
      refine ⟨hR.answers s (.getGroup id), fun answer s' h => ⟨?_, rfl⟩⟩
      cases answer with
      | error e => exact hR.fails h
      | ok found => exact (hR.getGroup h).1

/-- A program that gathers names gets its answers and changes nothing. -/
theorem endures_of_gathers {α : Type} (hR : R.Contract) {A : Request → Prop}
    (hA : ∀ r, A r → r = .mint ∨ Peeks r) {P : List (Uuid × String) → α → Prop} {p : Program α}
    (h : p.Gathers A P) :
    p.Endures R (fun log s' a => R.sight s' = R.sight s ∧
      (∀ asked ∈ log, asked.refused = false) ∧ P (log.filterMap Asked.named) a) s := by
  -- what was found so far is part of the condition on the rest
  induction p generalizing P s with
  | done a => exact ⟨rfl, List.forall_mem_nil _, h⟩
  | crash => exact h.elim
  | ask r next ih =>
      obtain ⟨hanswers, hserves⟩ := Peeks.serves (s := s) hR (hA r h.1)
      refine ⟨hanswers, fun answer s₁ h₁ => (ih answer (h.2 answer)).mono fun log s' a hlog => ?_⟩
      obtain ⟨hs₁, hrefused⟩ := hserves answer s₁ h₁
      obtain ⟨hs', hlog, ha⟩ := hlog
      refine ⟨hs'.trans hs₁, List.forall_mem_cons.mpr ⟨hrefused, hlog⟩, ?_⟩
      have hcons : (⟨r, answer⟩ :: log).filterMap Asked.named =
          (Asked.named ⟨r, answer⟩).toList ++ log.filterMap Asked.named := by
        cases hnamed : Asked.named ⟨r, answer⟩ with
        | none => rw [List.filterMap_cons_none hnamed]; rfl
        | some name => rw [List.filterMap_cons_some hnamed]; rfl
      rw [hcons]
      exact ha

/-- A snapshot is queued for channels, and nothing is looked up for that. -/
theorem enqueue_account (hR : R.Contract) (eventId : Uuid) (channelIds : List Uuid) (p : Payload) :
    (a.enqueue eventId channelIds p).Endures R (fun log s' n =>
      log.filterMap Asked.named = [] ∧
        ∃ rows, Account (· = p) channelIds (R.sight s) log (R.sight s') n rows) s := by
  refine (endures_of_gathers hR (fun _ => .inl) (a.newItems_gathers eventId p channelIds)).bind
    fun log s₁ items ⟨hs₁, hlog, hnames, hchannels, hp⟩ => ?_
  rw [← hs₁]
  refine Endures.call hR (.enqueueBatch items) fun answer s₂ h => ?_
  cases answer with
  | error e =>
      refine ⟨by rw [List.filterMap_append, hnames]; rfl, [], ?_⟩
      exact .failed ⟨_, List.mem_append_right log List.mem_cons_self, rfl⟩ (hR.fails h)
  | ok count =>
      obtain ⟨now, hs₂, hcount⟩ := hR.enqueueBatch h
      refine ⟨by rw [List.filterMap_append, hnames]; rfl, items.map (·.enter now), ?_⟩
      refine Account.after (P := (· = p)) ⟨hs₂, ?_, ?_, fun _ => ?_, ?_⟩ hlog fun _ => id
      · rw [hcount, List.length_map]
      · exact List.forall_mem_singleton.mpr fun hrefused => absurd hrefused Bool.false_ne_true
      · rw [List.map_map]
        exact .of_eq hchannels
      · intro row hrow
        obtain ⟨item, hitem, rfl⟩ := List.mem_map.mp hrow
        exact hp item hitem

/-- An announcement to channels. -/
theorem announce_account (hR : R.Contract) (channelIds : List Uuid) :
    (a.announce event scope notice channelIds).Endures R (fun log s' n => ∃ rows,
      Account (Payload.Tells log (notice.mentions scope)) channelIds (R.sight s) log (R.sight s') n
        rows) s := by
  cases channelIds with
  | nil => exact ⟨[], .nobody rfl⟩
  | cons channelId rest =>
      refine (endures_of_gathers hR (fun _ => .inr) (a.payload_gathers event scope notice)).bind
        fun log s₁ p ⟨hs₁, hlog, _, hnames, hmentions⟩ => ?_
      refine (enqueue_account hR event.id (channelId :: rest) p).mono
        fun log' s₂ n ⟨hlog', rows, h⟩ => ⟨rows, ?_⟩
      rw [← hs₁]
      refine h.after hlog ?_
      rintro p rfl
      rw [Payload.Tells, List.filterMap_append, hlog', List.append_nil, ← hnames]
      exact ⟨rfl, hnames ▸ hmentions⟩

/-- Calls that give no names leave it right what the snapshot tells. -/
theorem Account.calls (log : List Asked) {mentions : List Uuid}
    (h : Account (Payload.Tells log' mentions) told v log' v' n rows)
    (hlog : ∀ asked ∈ log, asked.refused = false ∧ asked.named = none) :
    Account (Payload.Tells (log ++ log') mentions) told v (log ++ log') v' n rows := by
  refine h.after (fun asked hasked => (hlog asked hasked).1) fun p hp => ?_
  have hnone : log.filterMap Asked.named = [] :=
    List.filterMap_eq_nil_iff.mpr fun asked hasked => (hlog asked hasked).2
  rw [Payload.Tells, List.filterMap_append, hnone, List.nil_append]
  exact hp

/-- An announcement to those who are told about the event. -/
theorem announceToKnown_account (hR : R.Contract) :
    (a.announceToKnown event scope notice).Endures R (fun log s' n => ∃ rows,
      Account (Payload.Tells log (notice.mentions scope)) ((R.sight s).subscribers event.id)
        (R.sight s) log (R.sight s') n rows) s := by
  refine Endures.call hR (.getEventSubscribers event.id) fun answer s₁ h => ?_
  cases answer with
  | error e => exact ⟨[], .failed ⟨_, List.mem_cons_self, rfl⟩ (hR.fails h)⟩
  | ok channelIds =>
      obtain ⟨hs₁, hperm⟩ := hR.getEventSubscribers h
      refine (announce_account hR channelIds).mono fun log s₂ n ⟨rows, h⟩ => ⟨rows, ?_⟩
      rw [← hs₁] at hperm ⊢
      exact (h.perm hperm).calls [_] (List.forall_mem_singleton.mpr ⟨rfl, rfl⟩)

/-- The channels that hear about services are told about the event from now on, unless a call
fails. -/
theorem extendSubscribers_widens (hR : R.Contract) (serviceIds : List Uuid) :
    (extendSubscribers event serviceIds).Endures R (fun log s' result =>
      match result with
      | .ok _ => (∀ asked ∈ log, asked.refused = false ∧ asked.named = none) ∧
          ∃ new, R.sight s' = (R.sight s).enlist event.id new ∧ new.Nodup ∧
            ∀ id, id ∈ new ↔ id ∈ (R.sight s).hearers serviceIds ∧
              id ∉ (R.sight s).subscribers event.id
      | .error _ => (∃ asked ∈ log, asked.refused = true) ∧ R.sight s' = R.sight s) s := by
  refine Endures.call hR (.findSubscribers serviceIds) fun answer s₁ h => ?_
  cases answer with
  | error e => exact ⟨⟨_, List.mem_cons_self, rfl⟩, hR.fails h⟩
  | ok found =>
      obtain ⟨hs₁, hperm⟩ := hR.findSubscribers h
      refine Endures.call hR (.addEventSubscribers event.id _) fun answer s₂ h₂ => ?_
      cases answer with
      | error e =>
          exact ⟨⟨_, List.mem_cons_of_mem _ List.mem_cons_self, rfl⟩, (hR.fails h₂).trans hs₁⟩
      | ok count =>
          obtain ⟨new, hs₂, -, hnodup, hmem⟩ := hR.addEventSubscribers h₂
          refine ⟨?_, new, ?_, hnodup, fun id => ?_⟩
          · refine List.forall_mem_cons.mpr ⟨⟨rfl, rfl⟩, ?_⟩
            exact List.forall_mem_singleton.mpr ⟨rfl, rfl⟩
          · rw [hs₂, hs₁]
          · rw [hmem, hperm.mem_iff, hs₁]

end Announcer

namespace Occasion
open Program

variable {σ : Type} {R : Repository σ} {s : σ}

/-- What a handler of an occasion comes to: some who hear of it anew may be in the list of the
event, and the rest is the account of an announcement. -/
def Accounts (R : Repository σ) (o : Occasion) (s : σ) (log : List Asked) (s' : σ) (n : Nat) :
    Prop :=
  ∃ new rows, new.Nodup ∧
    (∀ id ∈ new, o.notifies = true ∧ id ∈ o.newcomers (R.sight s).hearers ∧
      id ∉ (R.sight s).subscribers o.event.id) ∧
    Announcer.Account (Payload.Tells log o.mentions) ((R.sight s).recipients o)
      ((R.sight s).enlist o.event.id new) log (R.sight s') n rows

variable {o : Occasion}

/-- A handler that changes no list. -/
theorem Accounts.of_account {log : List Asked} {s' : σ} {n : Nat} {rows : List QueueItem}
    {told : List Uuid}
    (h : Announcer.Account (Payload.Tells log o.mentions) told (R.sight s) log (R.sight s') n rows)
    (htold : told.Perm ((R.sight s).recipients o)) : o.Accounts R s log s' n := by
  refine ⟨[], rows, List.nodup_nil, List.forall_mem_nil _, ?_⟩
  rw [Sight.enlist_nil]
  exact h.perm htold

/-- A handler of which a call failed. -/
theorem Accounts.failed {log : List Asked} {s' : σ} (h : ∃ asked ∈ log, asked.refused = true)
    (hs : R.sight s' = R.sight s) : o.Accounts R s log s' 0 :=
  .of_account (.failed h hs) (.refl _)

/-- A handler that finds nobody to tell. -/
theorem Accounts.nobody {log : List Asked} {s' : σ}
    (htold : [].Perm ((R.sight s).recipients o)) (hs : R.sight s' = R.sight s) :
    o.Accounts R s log s' 0 :=
  .of_account (.nobody hs) htold

/-- A handler that tells who was told before. -/
theorem announceToKnown_accounts (hR : R.Contract) (a : Announcer) (hnotify : o.notifies = true)
    (hclosed : o.newcomers (R.sight s).hearers = [])
    (htold : o.told (R.sight s).hearers ((R.sight s).listed o) = (R.sight s).listed o) :
    (a.announceToKnown o.event o.scope o.notice).Endures R (o.Accounts R s) s := by
  refine (Announcer.announceToKnown_account hR).mono fun log s' n ⟨rows, h⟩ => .of_account h ?_
  rw [Sight.recipients, if_pos hnotify, htold, Sight.listed_of_closed hclosed]

/-- The announcement of a new event accounts for what it queued, whatever the store answers. -/
theorem created_accounts (hR : R.Contract) (a : Announcer) (event : Event) (scope : Scope)
    (hnotify : event.notifySubscribers = true) :
    (a.onCreated event scope).Endures R ((created event scope).Accounts R s) s := by
  have hrecipients : (R.sight s).recipients (created event scope) =
      (R.sight s).hearers scope.serviceIds := if_pos hnotify
  rw [Announcer.onCreated, if_pos hnotify]
  refine Endures.call hR (.findSubscribers scope.serviceIds) fun answer s₁ h => ?_
  rcases answer with e | found
  · exact .failed ⟨_, List.mem_cons_self, rfl⟩ (hR.fails h)
  obtain ⟨hs₁, hperm⟩ := hR.findSubscribers h
  cases found with
  | nil => exact .nobody (hrecipients ▸ hperm) hs₁
  | cons subscriber subscribers =>
      refine Endures.call hR (.addEventSubscribers event.id _) fun answer s₂ h₂ => ?_
      cases answer with
      | error e =>
          exact .failed ⟨_, List.mem_cons_of_mem _ List.mem_cons_self, rfl⟩
            ((hR.fails h₂).trans hs₁)
      | ok count =>
          obtain ⟨new, hs₂, -, hnodup, hmem⟩ := hR.addEventSubscribers h₂
          rw [hs₁] at hs₂ hmem
          refine (Announcer.announce_account hR _).mono fun log s₃ n h => ?_
          obtain ⟨rows, h⟩ := h
          refine ⟨new, rows, hnodup, fun id hid => ⟨hnotify, ?_⟩, ?_⟩
          · obtain ⟨hfound, hnew⟩ := (hmem id).mp hid
            exact ⟨hperm.mem_iff.mp hfound, hnew⟩
          · rw [hs₂] at h
            rw [hrecipients]
            refine (h.perm hperm).calls [_, _] ?_
            refine List.forall_mem_cons.mpr ⟨⟨rfl, rfl⟩, ?_⟩
            exact List.forall_mem_singleton.mpr ⟨rfl, rfl⟩

/-- The announcement of an update accounts for what it queued, whatever the store answers. -/
theorem updated_accounts (hR : R.Contract) (a : Announcer) (event : Event) (scope : Scope)
    (update : Update) (changes : ChangeSet) (hnotify : update.notifySubscribers = true) :
    (a.onUpdated event scope update changes).Endures R
      ((updated event scope update changes).Accounts R s) s := by
  rw [Announcer.onUpdated, if_pos hnotify]
  by_cases hadded : changes.servicesAdded = []
  · rw [if_pos (List.isEmpty_iff.mpr hadded)]
    exact announceToKnown_accounts (o := updated event scope update changes) hR a hnotify
      (if_pos hadded) rfl
  · rw [if_neg fun h => hadded (List.isEmpty_iff.mp h)]
    refine (Announcer.extendSubscribers_widens hR _).bind fun log s₁ result h => ?_
    cases result with
    | error e =>
        show Accounts R _ s (log ++ []) s₁ 0
        rw [List.append_nil]
        exact .failed h.1 h.2
    | ok _ =>
        obtain ⟨hlog, new, hs₁, hnodup, hmem⟩ := h
        refine (Announcer.announceToKnown_account hR).mono fun log' s₂ n h => ?_
        obtain ⟨rows, h⟩ := h
        have hnewcomers : ∀ id, id ∈ new ↔
            id ∈ (updated event scope update changes).newcomers (R.sight s).hearers ∧
              id ∉ (R.sight s).subscribers event.id := by
          intro id
          rw [hmem, newcomers, if_neg hadded]
        have hknown : ((R.sight s).enlist event.id new).subscribers event.id =
            (R.sight s).subscribers event.id ++ new := Function.update_self ..
        have hrecipients : (R.sight s).recipients (updated event scope update changes) =
            (R.sight s).listed (updated event scope update changes) := if_pos hnotify
        -- the list is read anew, so that who came is told with who was there
        rw [hs₁, hknown] at h
        refine ⟨new, rows, hnodup, fun id hid => ⟨hnotify, (hnewcomers id).mp hid⟩, ?_⟩
        rw [hrecipients]
        exact (h.perm (Sight.perm_listed hnodup hnewcomers)).calls log hlog

end Occasion

/-- **A handler counts what it queued,** whichever calls fail.  Over any repository that keeps the
contract it ends, and what it tells is how many rows it appended to the queue.  If a call fails that
is no look-up of a name, there are none, and nothing is left but, possibly, a longer list of the
event.  If none does, there is one row for each recipient, whether names were found or not.  A row
shows the identifier in place of each name that was not. -/
theorem count_matches_queue {σ : Type} {R : Repository σ} (hR : R.Contract) (a : Announcer)
    (o : Occasion) (s : σ) : (o.program a).Endures R (o.Accounts R s) s := by
  cases hnotify : o.notifies with
  | false =>
      rw [o.program_of_silent a hnotify]
      refine Occasion.Accounts.nobody ?_ rfl
      rw [Sight.recipients, hnotify]
      exact .nil
  | true =>
      cases o with
      | created event scope => exact Occasion.created_accounts hR a event scope hnotify
      | updated event scope update changes =>
          exact Occasion.updated_accounts hR a event scope update changes hnotify
      | resolved event scope resolution =>
          exact Occasion.announceToKnown_accounts (o := .resolved event scope resolution) hR a rfl
            rfl rfl
      | completed event scope resolution =>
          exact Occasion.announceToKnown_accounts (o := .completed event scope resolution) hR a rfl
            rfl rfl
      | cancelled event scope =>
          show (a.onCancelled event scope).Endures R _ s
          rw [Announcer.onCancelled, if_pos (show event.notifySubscribers = true from hnotify)]
          exact Occasion.announceToKnown_accounts (o := .cancelled event scope) hR a hnotify rfl rfl

namespace Sample

/-- A store that knows two services, of which the first look-up fails. -/
def nameless : World :=
  { world with
    store := (world.store.insertService ⟨id 7, "Login", .operational⟩).insertService
      ⟨id 8, "Search", .operational⟩
    faults := Table.empty.set "get_service" [some (.notFound "")] }

/-- Both services break down. -/
def outage : Occasion := .created event ⟨[⟨id 7, .degraded⟩, ⟨id 8, .degraded⟩], []⟩

end Sample

/-- The channel hears of both services, of one by its identifier. -/
theorem lost_name_is_told_by_identifier : ∃ w' row,
    Sample.nameless.run (Sample.outage.program Sample.announcer) = (w', some 1) ∧
      w'.store.items = [row] ∧
      row.payload.names = [(Sample.id 7, (Sample.id 7).text), (Sample.id 8, "Search")] := by
  obtain ⟨log, w', n, hrun, new, rows, -, -, h⟩ :=
    (count_matches_queue Repository.memory_contract Sample.announcer Sample.outage
      Sample.nameless.store).run (Sample.outage.program_modest Sample.announcer)
  have hitems : w'.store.items = rows := congrArg Sight.items h.queue
  let ran := Sample.nameless.run (Sample.outage.program Sample.announcer)
  have hran : ran = (w', some n) := hrun
  have hone : ran.2 = some 1 := by decide
  have hnames : ran.1.store.items.map (·.payload.names) =
      [[(Sample.id 7, (Sample.id 7).text), (Sample.id 8, "Search")]] := by decide
  rw [hran] at hone hnames
  obtain rfl : n = 1 := Option.some.inj hone
  obtain ⟨row, rfl⟩ : ∃ row, rows = [row] := List.length_eq_one_iff.mp h.count.symm
  rw [hitems] at hnames
  exact ⟨w', row, hrun, hitems, List.head_eq_of_cons_eq hnames⟩

end Courier
