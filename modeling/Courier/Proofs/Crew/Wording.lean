import Courier.Proofs.Crew.Address

/-!
# Proofs — Crew — Wording

What a message says is settled when its item is queued.  Two runs may part at once after that, under
different workers, edits, times, failures and answers of senders; whenever one of them calls a
sender for the item, it hands over one and the same subject and body.

* `NewItem.Matches`: a row or a snapshot has the payload and the channel of the item.
* `Crew.Pinned`: all rows and snapshots under the identifier match the item, and the channels that
  workers have found for it are of one kind.  `Pinned.step`: each move preserves it that brings nothing
  else under the identifier and leaves the kind of the channel.
* `sends_alike`: so the message is the one that the renderer makes of the queued payload for that kind.
-/

namespace Courier

/-- The channel, if there is one, is of the kind. -/
def Store.HasKind (s : Store) (id : Uuid) (t : ChannelType) : Prop :=
  ∀ channel, s.getChannel? id = some channel → channel.channelType = t

/-- Nothing else comes under the identifier of the item, and edits leave the kind of its channel. -/
def Steady (item : NewItem) (t : ChannelType) (c : Crew) : Move → Prop
  | .enqueue items => ∀ other ∈ items, other.id ≠ item.id
  | .edit e => (e.apply c.world.now c.world.store).HasKind item.channelId t
  | _ => True

/-- What stands under the identifier of the item has its payload and its channel. -/
def NewItem.Matches (item : NewItem) (x : QueueItem) : Prop :=
  x.id = item.id → x.payload = item.payload ∧ x.channelId = item.channelId

/-- A row of the same origin matches as well. -/
theorem NewItem.Matches.of_origin {item : NewItem} {x y : QueueItem} (h : item.Matches x)
    (ho : y.origin = x.origin) : item.Matches y := by
  intro hid
  obtain ⟨hpayload, hchannel⟩ := h ((QueueItem.id_of_origin ho).symm.trans hid)
  exact ⟨(QueueItem.payload_of_origin ho).trans hpayload,
    (QueueItem.channelId_of_origin ho).trans hchannel⟩

/-- No call of the store touches channels. -/
theorem StoreCall.getChannel?_serve (call : StoreCall) (now : Instant) (s : Store) (id : Uuid) :
    (call.serve now s).getChannel? id = s.getChannel? id := by
  cases call <;> rfl

namespace Crew

variable {team team₀ : Nat → Worker} {r : Renderer} {c d : Crew} {item : NewItem}
  {t : ChannelType} {n : Nat}

/-- Nothing but an edit touches channels. -/
theorem getChannel?_step {m : Move} (hm : ∀ e, m ≠ .edit e) (id : Uuid) :
    (c.step team m).world.store.getChannel? id = c.world.store.getChannel? id := by
  cases m with
  | begin n =>
      show (c.begin team n).world.store.getChannel? id = _
      rw [world_begin]
  | proceed n =>
      show (c.proceed n).world.store.getChannel? id = _
      rcases c.proceed_cases n with ⟨r, next, -, he⟩ | he
      · rw [he]
        show (c.world.handle r).1.store.getChannel? id = _
        rcases c.world.handle_store_cases r with hw | ⟨call, hw⟩
        · rw [hw]
        · rw [hw, call.getChannel?_serve]
      · rw [he]
  | edit e => exact absurd rfl (hm e)
  | _ => rfl

/-! ### Workers that come and go -/

/-- All workers that are at it use the renderer. -/
def Uses (r : Renderer) (c : Crew) : Prop :=
  ∃ team : Nat → Worker, (∀ n, (team n).renderer = r) ∧ c.Kept team

/-- A worker that has no batch may be replaced by another, and those that have one go on. -/
theorem Kept.exchange (h : c.Kept team₀) (team : Nat → Worker) (m : Move) :
    ∃ staff : Nat → Worker, (∀ n, staff n = team₀ n ∨ staff n = team n) ∧ c.Kept staff ∧
      c.step staff m = c.step team m := by
  cases m with
  | begin n =>
      cases hj : (c.desks n).job with
      | none =>
          refine ⟨Function.update team₀ n (team n), fun k => ?_, fun k => ?_, ?_⟩
          · by_cases hk : k = n
            · subst hk
              exact .inr (Function.update_self k _ _)
            · exact .inl (Function.update_of_ne hk _ _)
          · by_cases hk : k = n
            · subst hk
              exact ⟨fun hp => (nomatch hj.symm.trans hp), (h k).idle⟩
            · rw [Function.update_of_ne hk]
              exact h k
          · show c.begin _ n = c.begin team n
            simp only [begin, hj, Function.update_self]
      | some p =>
          refine ⟨team₀, fun _ => .inl rfl, h, ?_⟩
          show c.begin team₀ n = c.begin team n
          simp only [begin, hj]
  | _ => exact ⟨team₀, fun _ => .inl rfl, h, rfl⟩

/-- Moves that keep to a rule lead from one crew to the other, under workers that may change from move
to move and all use the renderer. -/
def Staffed (r : Renderer) (rule : Crew → Move → Prop) : Crew → Crew → Prop :=
  Relation.ReflTransGen fun c d =>
    ∃ (team : Nat → Worker) (m : Move), (∀ n, (team n).renderer = r) ∧ rule c m ∧ d = c.step team m

/-- With one team that uses the renderer, the workers are so staffed. -/
theorem Reaches.staffed {rule : Crew → Move → Prop} (h : Reaches team rule c d)
    (hr : ∀ n, (team n).renderer = r) : Staffed r rule c d :=
  Relation.ReflTransGen.mono (fun _ _ ⟨m, hm, he⟩ => ⟨team, m, hr, hm, he⟩) _ _ h

theorem uses_gather (r : Renderer) (w : World) : (gather w).Uses r :=
  ⟨fun _ => ⟨r, ⟨[]⟩, .standard, 0⟩, fun _ => rfl, kept_gather _ w⟩

/-- What each move of workers with the renderer preserves holds of all that is reached. -/
theorem Staffed.preserves {rule : Crew → Move → Prop} {P : Crew → Prop}
    (h : Staffed r rule c d) (hu : c.Uses r) (hc : P c)
    (hstep : ∀ {team : Nat → Worker} {e : Crew} {m}, e.Kept team → rule e m → P e →
      P (e.step team m)) : d.Uses r ∧ P d := by
  induction h with
  | refl => exact ⟨hu, hc⟩
  | tail _ hm ih =>
      obtain ⟨team, m, hr, hrule, rfl⟩ := hm
      obtain ⟨⟨team₀, hr₀, hk₀⟩, he⟩ := ih
      obtain ⟨staff, hstaff, hk, hsame⟩ := hk₀.exchange team m
      rw [← hsame]
      refine ⟨⟨staff, fun n => ?_, hk.step m⟩, hstep hk hrule he⟩
      rcases hstaff n with hn | hn
      · rw [hn, hr₀ n]
      · rw [hn, hr n]

/-- New items come in. -/
def receive (c : Crew) (items : List NewItem) : Crew :=
  c.visit (c.world.store.enqueueBatch c.world.now items) []

/-- New items do not change who is at work. -/
theorem Uses.receive (h : c.Uses r) (items : List NewItem) : (c.receive items).Uses r :=
  h.imp fun _ ⟨hr, hk⟩ => ⟨hr, hk.step (.enqueue items)⟩

/-! ### What is settled -/

/-- What the messages of the item depend on is settled. -/
structure Pinned (item : NewItem) (t : ChannelType) (c : Crew) : Prop where
  rows : ∀ row ∈ c.world.store.items, item.Matches row
  todo : ∀ {n x}, x ∈ (c.desks n).stage.todo → item.Matches x
  found : ∀ {n x rest channel}, (c.desks n).stage = .looked x rest (.ok (some channel)) →
    x.id = item.id → channel.channelType = t
  kind : c.world.store.HasKind item.channelId t

/-- A steady move leaves the item and its kind of channel pinned. -/
theorem Pinned.step (h : c.Pinned item t) (hk : c.Kept team) {m : Move} (hm : Steady item t c m) :
    (c.step team m).Pinned item t where
  rows := by
    intro row hrow
    rcases hk.store_step m with ⟨hstore, -⟩ | ⟨op, -, hnews, hstore⟩
    · rw [hstore] at hrow
      exact h.rows row hrow
    · rw [hstore] at hrow
      rcases Operation.mem_items_apply hrow with ⟨before, hbefore, hchange⟩ | ⟨other, ho, rfl⟩
      · exact (h.rows before hbefore).of_origin hchange.origin
      · rw [hnews] at ho
        cases m with
        | enqueue items => exact fun hid => absurd hid (hm other ho)
        | _ => exact nomatch ho
  todo := by
    intro k x hx
    rcases hk.todo_step m hx with hx | ⟨row, hrow, now, rfl⟩
    · exact h.todo hx
    · exact (h.rows row hrow).of_origin rfl
  found := by
    intro k x rest channel hs hid
    by_cases hn : m.worker? = some k
    · cases m with
      | begin n =>
          obtain rfl : n = k := Option.some.inj hn
          exact h.found ((stage_begin team c n).symm.trans hs) hid
      | proceed n =>
          obtain rfl : n = k := Option.some.inj hn
          have hlooks := hk.looks_of_proceed hs
          have hx : x ∈ (c.desks n).stage.todo :=
            Stage.todo_of_item? hlooks.1 ▸ List.mem_cons_self
          have hchannel := hlooks.eq_getChannel?
          rw [(h.todo hx hid).2] at hchannel
          exact h.kind channel hchannel.symm
      | _ => exact nomatch hn
    · exact h.found (desks_step_of_ne hn ▸ hs) hid
  kind := by
    by_cases he : ∃ e, m = .edit e
    · obtain ⟨e, rfl⟩ := he
      exact hm
    · intro channel hchannel
      rw [getChannel?_step fun e h => he ⟨e, h⟩] at hchannel
      exact h.kind channel hchannel

/-- The item has just come into the queue. -/
theorem Pinned.receive {before after : List NewItem}
    (hids : ∀ {n x}, x ∈ (c.desks n).stage.todo → x.id ∈ c.world.store.ids)
    (hnew : item.id ∉ c.world.store.ids) (halone : ∀ other ∈ before ++ after, other.id ≠ item.id)
    (ht : c.world.store.HasKind item.channelId t) :
    (c.receive (before ++ item :: after)).Pinned item t where
  rows := by
    intro row hrow hid
    rcases List.mem_append.mp hrow with hrow | hrow
    · exact absurd (hid ▸ List.mem_map_of_mem hrow) hnew
    · obtain ⟨other, ho, rfl⟩ := List.mem_map.mp hrow
      rcases List.mem_append.mp ho with ho | ho
      · exact absurd hid (halone other (List.mem_append_left _ ho))
      · rcases List.mem_cons.mp ho with rfl | ho
        · exact ⟨rfl, rfl⟩
        · exact absurd hid (halone other (List.mem_append_right _ ho))
  todo := fun hx hid => absurd (hid ▸ hids hx) hnew
  found := by
    intro k x rest channel hs hid
    replace hs : (c.desks k).stage = .looked x rest (.ok (some channel)) := hs
    have hx : x ∈ (c.desks k).stage.todo := by
      rw [hs]
      exact List.mem_cons_self
    exact absurd (hid ▸ hids hx) hnew
  kind := ht

/-- What is handed over for the item is its payload, rendered for the kind of its channel. -/
theorem Pinned.sends (h : c.Pinned item t) (hu : c.Uses r) {x : QueueItem} {place : Nat}
    {note : Notification} (hs : c.Sends n x place note) (hid : x.id = item.id) :
    r.render t item.payload = .ok ⟨note.subject, note.body⟩ := by
  obtain ⟨team, hr, hk⟩ := hu
  obtain ⟨rest, channel, message, hstage, -, -, hm, -, rfl⟩ := hk.sends hs
  have hx : x ∈ (c.desks n).stage.todo := Stage.todo_of_item? hs.1 ▸ List.mem_cons_self
  rw [hr n, h.found hstage hid, (h.todo hx hid).1] at hm
  exact hm

end Crew

/-- **Whatever changes after an item was queued, its messages say the same.**  From the moment at which
the item comes into the queue, two runs may differ in all that workers, senders, the store, the clock
and edits do, as long as their workers use one renderer, nothing else comes under the identifier, and
the channel of the item, while it is there, stays of its kind.  Whenever the first run calls a sender
for the item and whenever the second does, the subject is the same, and the body is. -/
theorem sends_alike {r : Renderer} {w : World} {c c₁ c₂ : Crew} {before after : List NewItem}
    {item : NewItem} {t : ChannelType} (h : Crew.Staffed r Free (.gather w) c)
    (hnew : item.id ∉ c.world.store.ids) (halone : ∀ other ∈ before ++ after, other.id ≠ item.id)
    (ht : c.world.store.HasKind item.channelId t)
    (h₁ : Crew.Staffed r (Steady item t) (c.receive (before ++ item :: after)) c₁)
    (h₂ : Crew.Staffed r (Steady item t) (c.receive (before ++ item :: after)) c₂)
    {n₁ n₂ place₁ place₂ : Nat} {x₁ x₂ : QueueItem} {note₁ note₂ : Notification}
    (hs₁ : c₁.Sends n₁ x₁ place₁ note₁) (hid₁ : x₁.id = item.id)
    (hs₂ : c₂.Sends n₂ x₂ place₂ note₂) (hid₂ : x₂.id = item.id) :
    note₁.subject = note₂.subject ∧ note₁.body = note₂.body := by
  obtain ⟨hu, hids⟩ := h.preserves
    (P := fun e => ∀ {n x}, x ∈ (e.desks n).stage.todo → x.id ∈ e.world.store.ids)
    (Crew.uses_gather r w) (fun hx => nomatch hx)
    fun {_ _ m} hk _ he => hk.id_mem_ids_step he m
  have hpinned := Crew.Pinned.receive hids hnew halone ht
  obtain ⟨hu₁, hp₁⟩ := h₁.preserves (hu.receive _) hpinned fun hk hm he => he.step hk hm
  obtain ⟨hu₂, hp₂⟩ := h₂.preserves (hu.receive _) hpinned fun hk hm he => he.step hk hm
  have hmessage := (hp₁.sends hu₁ hs₁ hid₁).symm.trans (hp₂.sends hu₂ hs₂ hid₂)
  obtain ⟨hsubject, hbody⟩ := Message.mk.inj (Except.ok.inj hmessage)
  exact ⟨hsubject, hbody⟩

namespace Sample

/-- The message has come in. -/
def received : Crew := (Crew.gather world).receive ([] ++ item 5 :: [])

/-- A worker is about to send it. -/
def first : Crew := (received.step team (.begin 0)).proceeds team 0 3

/-- Another kind of team, with one more sender. -/
def others (_ : Nat) : Worker := ⟨.standard, ⟨[.telegram, .telegram]⟩, .standard, 1⟩

/-- The first worker was given up, the channel has another target by now, and a worker of the other team is
about to send the message. -/
def second : Crew :=
  ((((first.step others (.edit (.insertChannel { channel with target := "2" }))).step others
    (.turn ⟨1200, 0, by decide⟩ .empty .empty)).step others
    (.recover ⟨900, 0, by decide⟩)).step others (.begin 1)).proceeds others 1 3

theorem staffed_first : Crew.Staffed .standard (Steady (item 5) .telegram) received first :=
  (((Crew.Reaches.refl _).move (.begin 0) trivial).proceeds 0 3 fun _ _ => trivial).staffed
    fun _ => rfl

theorem staffed_second : Crew.Staffed .standard (Steady (item 5) .telegram) received second := by
  have hafter : Crew.Reaches others (Steady (item 5) .telegram) first second := by
    refine .proceeds (.move (.move (.move (.move (.refl _) (.edit _) ?_) (.turn _ _ _) trivial)
      (.recover _) trivial) (.begin 1) trivial) 1 3 fun _ _ => trivial
    intro channel h
    rw [← Option.some.inj h]
    rfl
  exact staffed_first.trans (hafter.staffed fun _ => rfl)

end Sample

/-- A message is sent anew to another target, and says what it would have said. -/
theorem retargeted_message_says_the_same :
    ∃ x₁ x₂ note₁ note₂, Sample.first.Sends 0 x₁ 0 note₁ ∧ Sample.second.Sends 1 x₂ 1 note₂ ∧
      note₁.recipient = "1" ∧ note₂.recipient = "2" ∧
      note₁.subject = note₂.subject ∧ note₁.body = note₂.body := by
  have hs₁ : Sample.first.Sends 0 _ 0 _ := ⟨rfl, _, rfl⟩
  have hs₂ : Sample.second.Sends 1 _ 1 _ := ⟨rfl, _, rfl⟩
  refine ⟨_, _, _, _, hs₁, hs₂, rfl, rfl, ?_⟩
  refine @sends_alike .standard Sample.world (.gather Sample.world) _ _ [] [] (Sample.item 5)
    .telegram .refl List.not_mem_nil (List.forall_mem_nil _) ?_ Sample.staffed_first
    Sample.staffed_second _ _ _ _ _ _ _ _ hs₁ rfl hs₂ rfl
  intro channel h
  rw [← Option.some.inj h]
  rfl

end Courier
