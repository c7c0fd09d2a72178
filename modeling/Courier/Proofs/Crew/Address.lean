import Courier.Proofs.Crew.Reach
import Courier.Proofs.Registry

/-!
# Proofs — Crew — Address

Whom a message goes to.  A worker looks up the channel of an item before each attempt, and between
the look-up and the call of a sender the channel may be changed, removed or switched off.  What counts
is what the look-up gave.

* `Crew.Looks`: a worker looks up the channel of an item and is answered.
* `Kept.looks_of_proceed`: nothing but a look-up brings a worker to where it may call a sender.
* `sends_follow_lookups`: each call of a sender comes right after the look-up of that attempt and
  goes to the recipient of the channel that was found, through the last sender of its kind; after a
  look-up that found no channel that may be sent to, no sender is called.
-/

namespace Courier

/-- Moves of everybody but the worker. -/
def Apart (n : Nat) (_ : Crew) (m : Move) : Prop := m.worker? ≠ some n

namespace Crew

/-- The worker looks up the channel of the item that it is processing, and is answered. -/
def Looks (c : Crew) (n : Nat) (item : QueueItem) (answer : Except StoreError (Option Channel)) :
    Prop :=
  (c.desks n).stage.item? = some item ∧
    (∃ next, (c.desks n).job = some (.ask (.store (.getChannel item.channelId)) next)) ∧
      (c.world.handle (.store (.getChannel item.channelId))).2 = some answer

/-- Moves in which the worker looks up no channel. -/
def Unlooking (n : Nat) (c : Crew) (m : Move) : Prop :=
  m = .proceed n → ∀ item answer, ¬ c.Looks n item answer

variable {team : Nat → Worker} {c d : Crew} {n : Nat}

/-- What is found is what the store has. -/
theorem Looks.eq_getChannel? {item : QueueItem} {found : Option Channel}
    (h : c.Looks n item (.ok found)) : found = c.world.store.getChannel? item.channelId := by
  obtain ⟨-, -, ha⟩ := h
  have hr := c.world.handled (.store (.getChannel item.channelId))
  generalize c.world.handle (.store (.getChannel item.channelId)) = handled at ha hr
  cases hr with
  | failed call hw e => exact nomatch ha
  | served call hw => exact (Except.ok.inj (Option.some.inj ha)).symm

/-- Nothing but a look-up brings a worker to where a channel was looked up. -/
theorem Kept.looks_of_proceed (h : c.Kept team) {item : QueueItem} {rest : List QueueItem}
    {answer : Except StoreError (Option Channel)}
    (hs : ((c.proceed n).desks n).stage = .looked item rest answer) : c.Looks n item answer := by
  rcases c.proceed_cases n with ⟨r, next, hj, he⟩ | he
  · replace hs : (c.world.handle r).2.elim .start ((c.desks n).stage.next r) =
        .looked item rest answer := by rwa [he, desk_hear] at hs
    have hp : Permits (team n) (c.desks n).stage r := ((h n).follows hj).1
    generalize hstage : (c.desks n).stage = stage at hp hs
    cases ha : (c.world.handle r).2 with
    | none =>
        rw [ha] at hs
        cases hs
    | some a =>
        replace hs : stage.next r a = .looked item rest answer := by rwa [ha] at hs
        cases hp with
        | look found rest' =>
            obtain ⟨rfl, -, rfl⟩ := Stage.looked.inj hs
            exact ⟨by rw [hstage]; rfl, ⟨next, hj⟩, ha⟩
        | claim => cases a <;> cases hs
        | wait hi hb hl =>
            simp only [Stage.next, Stage.time, hi, hb] at hs
            cases hs
        | _ => cases hs
  · rw [he] at hs
    have hstart : (Function.update c.desks n
        { c.desks n with job := none, stage := .start } n).stage = .start := by
      rw [Function.update_self]
    cases hstart.symm.trans hs

/-- The channel at hand was found by a look-up, since which only others moved. -/
theorem Reaches.looked {w : World} (h : Reaches team Free (.gather w) c) {item : QueueItem}
    {rest : List QueueItem} {answer : Except StoreError (Option Channel)}
    (hs : (c.desks n).stage = .looked item rest answer) :
    ∃ e, Reaches team Free (.gather w) e ∧ e.Looks n item answer ∧
      Reaches team (Apart n) (e.step team (.proceed n)) c := by
  induction h with
  | refl => exact nomatch hs
  | @tail b c hb hm ih =>
      obtain ⟨m, -, rfl⟩ := hm
      have hk := (kept_gather team w).reaches hb
      by_cases hn : m.worker? = some n
      · cases m with
        | begin k =>
            -- who has a batch goes on with it, and who has none is at no item
            obtain rfl : k = n := Option.some.inj hn
            rcases b.begin_cases team k with ⟨hj, -⟩ | he
            · have hstage := (stage_begin team b k).symm.trans hs
              exact nomatch ((hk k).idle hj).symm.trans hstage
            · have hsame : b.step team (.begin k) = b := he
              rw [hsame] at hs ⊢
              exact ih hs
        | proceed k =>
            obtain rfl : k = n := Option.some.inj hn
            exact ⟨b, hb, hk.looks_of_proceed hs, .refl _⟩
        | _ => exact nomatch hn
      · rw [desks_step_of_ne hn] at hs
        obtain ⟨e, he, hlooks, hreach⟩ := ih hs
        exact ⟨e, he, hlooks, hreach.move m hn⟩

/-- A worker that has found no channel that may be sent to. -/
def Barred (c : Crew) (n : Nat) : Prop :=
  ∀ item rest channel, (c.desks n).stage = .looked item rest (.ok (some channel)) →
    ¬(channel.verified = true ∧ channel.enabled = true)

/-- A worker without such a channel sends nothing. -/
theorem Kept.not_sends_of_barred (h : c.Kept team) (hb : c.Barred n) {item : QueueItem}
    {place : Nat} {notification : Notification} : ¬ c.Sends n item place notification := by
  intro hs
  obtain ⟨rest, channel, -, hstage, hv, he, -⟩ := h.sends hs
  exact hb item rest channel hstage ⟨hv, he⟩

/-- Until its next look-up, such a worker stays so. -/
theorem Barred.reaches (h : c.Barred n) (hk : c.Kept team)
    (hd : Reaches team (Unlooking n) c d) : d.Barred n := by
  refine (hd.preserves (P := fun e => e.Kept team ∧ e.Barred n) ⟨hk, h⟩ ?_).2
  intro e m hm ⟨hk, hb⟩
  refine ⟨hk.step m, fun item rest channel hs => ?_⟩
  by_cases hn : m.worker? = some n
  · cases m with
    | begin k =>
        obtain rfl : k = n := Option.some.inj hn
        exact hb item rest channel ((stage_begin team e k).symm.trans hs)
    | proceed k =>
        obtain rfl : k = n := Option.some.inj hn
        exact absurd (hk.looks_of_proceed hs) (hm rfl item _)
    | _ => exact nomatch hn
  · exact hb item rest channel (desks_step_of_ne hn ▸ hs)

end Crew

/-- A channel that may be sent to was found. -/
def Deliverable (answer : Except StoreError (Option Channel)) : Prop :=
  ∃ channel, answer = .ok (some channel) ∧ channel.verified = true ∧ channel.enabled = true

/-- After a look-up that finds no channel to send to, a worker is barred from sending. -/
theorem Crew.Kept.barred_of_looks {team : Nat → Worker} {c : Crew} {n : Nat} {item : QueueItem}
    {answer : Except StoreError (Option Channel)} (h : c.Kept team) (hl : c.Looks n item answer)
    (hno : ¬Deliverable answer) : (c.step team (.proceed n)).Barred n := by
  intro other rest channel hs ⟨hv, he⟩
  obtain ⟨hitem, -, hanswer⟩ := hl
  obtain ⟨hother, -, hfound⟩ := h.looks_of_proceed hs
  obtain rfl : item = other := Option.some.inj (hitem.symm.trans hother)
  exact hno ⟨channel, Option.some.inj (hanswer.symm.trans hfound), hv, he⟩

/-- **Each call of a sender comes right after the look-up of that attempt**, with no move of the worker
between them: the look-up found a channel, verified and enabled, the notification goes to its
recipient, and the sender is the last that was registered for its kind.  Where a look-up found no such
channel, or failed, the worker calls no sender until it looks up another one. -/
theorem sends_follow_lookups {team : Nat → Worker} {w : World} {c : Crew} {n : Nat}
    (h : Crew.Reaches team Free (.gather w) c) :
    (∀ {item place notification}, c.Sends n item place notification → ∃ e channel,
        Crew.Reaches team Free (.gather w) e ∧ e.Looks n item (.ok (some channel)) ∧
        Crew.Reaches team (Apart n) (e.step team (.proceed n)) c ∧
        channel.verified = true ∧ channel.enabled = true ∧
        notification.recipient = channel.recipient ∧
        Registry.IsLast channel.channelType (team n).registry.types place) ∧
      ∀ {item answer}, c.Looks n item answer → ¬Deliverable answer →
        ∀ {d}, Crew.Reaches team (Crew.Unlooking n) (c.step team (.proceed n)) d →
          ∀ item place notification, ¬ d.Sends n item place notification := by
  have hk := (Crew.kept_gather team w).reaches h
  refine ⟨fun hs => ?_, fun hl hno _ hd _ _ _ => ?_⟩
  · obtain ⟨rest, channel, message, hstage, hv, he, -, hplace, rfl⟩ := hk.sends hs
    obtain ⟨e, he', hlooks, hreach⟩ := h.looked hstage
    exact ⟨e, channel, he', hlooks, hreach, hv, he, rfl, Registry.isLast_of_sender? hplace⟩
  · have hk' := hk.step (.proceed n)
    exact (hk'.reaches hd).not_sends_of_barred
      ((hk.barred_of_looks hl hno).reaches hk' hd)

namespace Sample

/-- A worker is about to look up the channel of a message. -/
def looking : Crew := ((loaded 5).step team (.begin 0)).proceeds team 0 2

theorem reaches_looking : Crew.Reaches team Free (.gather world) looking :=
  (((Crew.Reaches.refl _).move (.enqueue [item 5]) trivial).move (.begin 0) trivial).proceeds 0 2
    fun _ _ => trivial

end Sample

/-- A channel that is switched off after the look-up still gets the message, and one that was removed
before it gets none. -/
theorem switched_off_after_look_up :
    let c := (Sample.looking.step Sample.team (.proceed 0)).step Sample.team
      (.edit (.setEnabled (Sample.id 1) false))
    let d := Sample.looking.step Sample.team (.edit (.removeChannel (Sample.id 1)))
    (∃ item notification, c.Sends 0 item 0 notification ∧ ∃ (e : Crew) (channel : Channel),
        e.Looks 0 item (.ok (some channel)) ∧ notification.recipient = channel.recipient ∧
          channel.enabled = true) ∧
      ∃ item, d.Looks 0 item (.ok none) ∧
        ∀ {e}, Crew.Reaches Sample.team (Crew.Unlooking 0) (d.step Sample.team (.proceed 0)) e →
          ∀ item place notification, ¬ e.Sends 0 item place notification := by
  intro c d
  have hc : Crew.Reaches Sample.team Free (.gather Sample.world) c :=
    (Sample.reaches_looking.move (.proceed 0) trivial).move (.edit _) trivial
  have hd : Crew.Reaches Sample.team Free (.gather Sample.world) d :=
    Sample.reaches_looking.move (.edit _) trivial
  have hsends : c.Sends 0 _ 0 _ := ⟨rfl, _, rfl⟩
  have hlooks : d.Looks 0 _ (.ok none) := ⟨rfl, ⟨_, rfl⟩, rfl⟩
  obtain ⟨e, channel, -, he, -, -, henabled, hrecipient, -⟩ :=
    (sends_follow_lookups hc).1 hsends
  exact ⟨⟨_, _, hsends, e, channel, he, hrecipient, henabled⟩, _, hlooks,
    (sends_follow_lookups hd).2 hlooks fun ⟨_, h, _⟩ => nomatch h⟩

end Courier
