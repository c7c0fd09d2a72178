import Mathlib.Algebra.BigOperators.Group.Finset.Basic
import Mathlib.Logic.Relation
import Mathlib.Tactic.IntervalCases
import Courier.Proofs.Crew.Scene
import Courier.Proofs.Queue.History

/-!
# Proofs — Crew — Reach

What moves lead to from any crew, under any rule, and whatever identifiers new items have.

* `Crew.Reaches`: the closure of the moves that keep to a rule.  `Kept.reaches`: workers keep to
  their rules throughout.
* `desks_step_of_ne`: a move leaves the desks of all other workers as they are, so that a sum over the
  desks changes by the share of the one who moves (`sum_desks_step`).
* `Kept.store_step`: what a move does to the store is an operation; `Happens.todo`: what a worker is
  still to process it was to process before, or has just claimed.
* `Crew.Sends`: a worker calls a sender for an item.  `Kept.sends` says all that holds then.
-/

namespace Courier

/-- Who makes a move; nobody where it comes from outside. -/
def Move.worker? : Move → Option Nat
  | begin n => some n
  | proceed n => some n
  | _ => none

/-- The items that a move brings. -/
def Move.news : Move → List NewItem
  | enqueue items => items
  | _ => []

/-- No worker brings items. -/
theorem Permits.news_eq_nil {w : Worker} {t : Stage} {call : StoreCall}
    (h : Permits w t (.store call)) : (Operation.call call).news = [] := by
  cases h <;> rfl

/-- What a worker is still to process it was to process before, or has just claimed. -/
theorem Happens.todo {team : Nat → Worker} {s s' : Scene} (h : Happens team s s') {n : Nat}
    {x : QueueItem} (hx : x ∈ (s'.stages n).todo) :
    x ∈ (s.stages n).todo ∨ ∃ row ∈ s.store.items, ∃ now, x = row.claim now := by
  have hkept : ∀ {k : Nat} {t : Stage}, t.todo ⊆ (s.stages k).todo →
      x ∈ (if n = k then t else s.stages n).todo → x ∈ (s.stages n).todo := by
    intro k t ht hx
    split at hx
    · rename_i hk
      exact hk ▸ ht hx
    · exact hx
  cases h with
  | claim k now hs =>
      rw [Scene.stages_claim] at hx
      split at hx
      · obtain ⟨row, hrow, -, rfl⟩ := Store.exists_row_of_mem_claimed hx
        exact .inr ⟨row, hrow, now, rfl⟩
      · exact .inl hx
  | look k hs answer ha =>
      rw [Scene.stages_advance] at hx
      exact .inl (hkept (by rw [hs]; exact List.Subset.refl _) hx)
  | send k hs hv he hm hp result =>
      rw [Scene.stages_advance] at hx
      exact .inl (hkept (by rw [hs]; exact List.Subset.refl _) hx)
  | succeed k now hs =>
      rw [Scene.stages_report] at hx
      exact .inl (hkept (List.tail_sublist _).subset hx)
  | fail k now hr =>
      rw [Scene.stages_report] at hx
      exact .inl (hkept (List.tail_sublist _).subset hx)
  | putBack k now hs hl hw ha ht =>
      rw [Scene.stages_report] at hx
      refine .inl (hkept ?_ hx)
      rcases ht with rfl | rfl
      · exact (List.tail_sublist _).subset
      · exact List.nil_subset _
  | lose k =>
      rw [Scene.stages_advance] at hx
      exact .inl (hkept (List.tail_sublist _).subset hx)
  | pass k ht =>
      rw [Scene.stages_advance] at hx
      exact .inl (hkept ht.todo.subset hx)
  | enqueue now hf => exact .inl hx
  | requeue now id => exact .inl hx
  | edit hi => exact .inl hx

/-- Only the first `size` workers move, and a move crashes none. -/
def Unbroken (team : Nat → Worker) (size : Nat) (c : Crew) (m : Move) : Prop :=
  ∀ n, m.worker? = some n → n < size ∧ ((c.step team m).desks n).job ≠ some .crash

/-- What comes from outside crashes nobody. -/
theorem unbroken_of_outside {team : Nat → Worker} {size : Nat} {c : Crew} {m : Move}
    (hm : m.worker? = none) : Unbroken team size c m :=
  fun _ hn => nomatch hm.symm.trans hn

namespace Crew

/-- Moves that keep to a rule lead from one crew to the other. -/
def Reaches (team : Nat → Worker) (rule : Crew → Move → Prop) : Crew → Crew → Prop :=
  Relation.ReflTransGen fun c d => ∃ m, rule c m ∧ d = c.step team m

variable {team : Nat → Worker} {rule : Crew → Move → Prop} {c d : Crew} {n : Nat}

theorem Reaches.refl (c : Crew) : Reaches team rule c c := Relation.ReflTransGen.refl

/-- One more move that keeps to the rule. -/
theorem Reaches.move (h : Reaches team rule c d) (m : Move) (hr : rule d m) :
    Reaches team rule c (d.step team m) :=
  Relation.ReflTransGen.tail h ⟨m, hr, rfl⟩

/-- A worker goes on for as many steps as the rule lets it. -/
theorem Reaches.proceeds (h : Reaches team rule c d) (n k : Nat)
    (hr : ∀ j < k, rule (d.proceeds team n j) (.proceed n)) :
    Reaches team rule c (d.proceeds team n k) := by
  induction k with
  | zero => exact h
  | succ k ih =>
      exact (ih fun j hj => hr j (Nat.lt_succ_of_lt hj)).move (.proceed n) (hr k (Nat.lt_succ_self k))

/-- What each move preserves holds of all that is reached. -/
theorem Reaches.preserves {P : Crew → Prop} (h : Reaches team rule c d) (hc : P c)
    (hstep : ∀ {e : Crew} {m}, rule e m → P e → P (e.step team m)) : P d := by
  induction h with
  | refl => exact hc
  | tail _ hm ih =>
      obtain ⟨m, hr, rfl⟩ := hm
      exact hstep hr ih

/-- What keeps to a rule keeps to one that asks for less. -/
theorem Reaches.mono {rule' : Crew → Move → Prop} (h : Reaches team rule c d)
    (hr : ∀ {e m}, rule e m → rule' e m) : Reaches team rule' c d :=
  Relation.ReflTransGen.mono (fun _ _ ⟨m, hm, he⟩ => ⟨m, hr hm, he⟩) _ _ h

theorem kept_gather (team : Nat → Worker) (w : World) : (gather w).Kept team :=
  fun _ => ⟨fun hp => (nomatch hp), fun _ => rfl⟩

/-- Workers keep to their programs wherever moves lead. -/
theorem Kept.reaches (h : c.Kept team) (hd : Reaches team rule c d) : d.Kept team :=
  hd.preserves h fun {_ m} _ he => he.step m

/-- A move leaves the desks of the others. -/
theorem desks_step_of_ne {m : Move} (h : m.worker? ≠ some n) :
    (c.step team m).desks n = c.desks n := by
  cases m with
  | begin k =>
      have hk : n ≠ k := fun e => h (congrArg some e.symm)
      show (c.begin team k).desks n = _
      rcases c.begin_cases team k with ⟨-, he⟩ | he
      · rw [he]
        exact Function.update_of_ne hk _ _
      · rw [he]
  | proceed k =>
      have hk : n ≠ k := fun e => h (congrArg some e.symm)
      show (c.proceed k).desks n = _
      rcases c.proceed_cases k with ⟨r, next, -, he⟩ | he
      all_goals
        rw [he]
        exact Function.update_of_ne hk _ _
  | _ => rfl

/-- Only the first `size` workers have begun. -/
def Within (size : Nat) (c : Crew) : Prop := ∀ n, size ≤ n → (c.desks n).job = none

/-- Moves of the first workers begin nobody else. -/
theorem Within.step {size : Nat} (h : c.Within size) {m : Move}
    (hm : ∀ n, m.worker? = some n → n < size) : (c.step team m).Within size := by
  intro n hn
  rw [desks_step_of_ne fun e => Nat.not_le.mpr (hm n e) hn]
  exact h n hn

/-- A sum over the desks changes by the share of the one who moves. -/
theorem sum_desks_step (share : Desk → Nat) {m : Move} (hm : m.worker? = some n) {size : Nat}
    (hn : n < size) :
    ∑ k ∈ Finset.range size, share ((c.step team m).desks k) + share (c.desks n) =
      ∑ k ∈ Finset.range size, share (c.desks k) + share ((c.step team m).desks n) := by
  have hmem : n ∈ Finset.range size := Finset.mem_range.mpr hn
  have hrest : ∑ k ∈ (Finset.range size).erase n, share ((c.step team m).desks k) =
      ∑ k ∈ (Finset.range size).erase n, share (c.desks k) :=
    Finset.sum_congr rfl fun k hk => by
      rw [desks_step_of_ne fun h => Finset.ne_of_mem_erase hk (Option.some.inj (h.symm.trans hm))]
  rw [← Finset.sum_erase_add _ _ hmem, hrest,
    ← Finset.sum_erase_add _ (fun k => share (c.desks k)) hmem]
  omega

theorem desk_begin (team : Nat → Worker) (hj : (c.desks n).job = none) :
    (c.begin team n).desks n = { c.desks n with job := some (team n).processBatch } := by
  rw [begin, hj]
  exact Function.update_self n _ _

/-- An answer changes the desk of the worker that asked. -/
theorem desk_hear (c : Crew) {r : Request} {next : r.Answer → Program (Except StoreError Nat)}
    {handled : World × Option r.Answer} :
    (c.hear n r next handled).desks n = (c.desks n).after r next handled.2 :=
  Function.update_self n _ _

/-- What a worker does that does not crash: it makes a request and goes on with the answer, or it has no
request to make and puts its batch away. -/
theorem proceed_inv (hc : ((c.proceed n).desks n).job ≠ some .crash) :
    (∃ r next a, (c.desks n).job = some (.ask r next) ∧ (c.world.handle r).2 = some a ∧
        (c.proceed n).world = (c.world.handle r).1 ∧
        ((c.proceed n).desks n).job = some (next a) ∧
        ((c.proceed n).desks n).stage = (c.desks n).stage.next r a) ∨
      (∀ r next, (c.desks n).job ≠ some (.ask r next)) ∧ (c.proceed n).world = c.world ∧
        ((c.proceed n).desks n).job = none ∧ ((c.proceed n).desks n).stage = .start := by
  by_cases hask : ∃ r next, (c.desks n).job = some (.ask r next)
  · obtain ⟨r, next, hj⟩ := hask
    rw [proceed_of_ask hj, desk_hear] at hc ⊢
    cases ha : (c.world.handle r).2 with
    | none =>
        rw [ha] at hc
        exact absurd rfl hc
    | some a => exact .inl ⟨r, next, a, hj, ha, rfl, rfl, rfl⟩
  · have hno : ∀ r next, (c.desks n).job ≠ some (.ask r next) := fun r next hj => hask ⟨r, next, hj⟩
    rcases c.proceed_cases n with ⟨r, next, hj, -⟩ | he
    · exact absurd hj (hno r next)
    · have hdesk : (c.proceed n).desks n = { c.desks n with job := none, stage := .start } := by
        rw [he]
        exact Function.update_self n _ _
      rw [hdesk]
      exact .inr ⟨hno, by rw [he], rfl, rfl⟩

/-- To begin a batch leaves a worker at its stage. -/
theorem stage_begin (team : Nat → Worker) (c : Crew) (n : Nat) :
    ((c.begin team n).desks n).stage = (c.desks n).stage := by
  cases hj : (c.desks n).job with
  | none => rw [desk_begin team hj]
  | some p => rw [begin, hj]

/-! ### The store and what is to be processed -/

/-- **What a move does to the store is an operation**, if it does anything. -/
theorem Kept.store_step (h : c.Kept team) (m : Move) :
    (c.step team m).world.store = c.world.store ∧ m.news = [] ∨
      ∃ op : Operation, op.Plain ∧ op.news = m.news ∧
        (c.step team m).world.store = op.apply c.world.now c.world.store := by
  cases m with
  | begin n =>
      exact .inl ⟨congrArg (·.store) (world_begin team c n), rfl⟩
  | proceed n =>
      show (c.proceed n).world.store = _ ∧ _ ∨
        ∃ op : Operation, _ ∧ _ ∧ (c.proceed n).world.store = _
      rcases c.proceed_cases n with ⟨r, next, hj, he⟩ | he
      · rw [he]
        show (c.world.handle r).1.store = _ ∧ _ ∨
          ∃ op : Operation, _ ∧ _ ∧ (c.world.handle r).1.store = _
        have hp : Permits (team n) (c.desks n).stage r := ((h n).follows hj).1
        have hr := c.world.handled r
        generalize c.world.handle r = handled at hr
        cases hr with
        | failed call hw => exact .inl ⟨hw, rfl⟩
        | served call hw => exact .inr ⟨.call call, trivial, hp.news_eq_nil, hw⟩
        | sent sender notification hw => exact .inl ⟨hw, rfl⟩
        | clock => exact .inl ⟨rfl, rfl⟩
        | mint hw => exact .inl ⟨hw, rfl⟩
        | measure m hw => exact .inl ⟨hw, rfl⟩
        | metrics => exact .inl ⟨rfl, rfl⟩
      · rw [he]
        exact .inl ⟨rfl, rfl⟩
  | enqueue items => exact .inr ⟨.call (.enqueueBatch items), trivial, rfl, rfl⟩
  | requeue id => exact .inr ⟨.call (.requeue id), trivial, rfl, rfl⟩
  | recover olderThan => exact .inr ⟨.call (.recoverStale olderThan), trivial, rfl, rfl⟩
  | edit e => exact .inr ⟨.edit e, trivial, rfl, rfl⟩
  | turn now replies faults => exact .inl ⟨rfl, rfl⟩

/-- A move leaves the identifiers in the queue, and appends those that it brings. -/
theorem Kept.ids_step_eq (h : c.Kept team) (m : Move) :
    (c.step team m).world.store.ids = c.world.store.ids ++ m.news.map (·.id) := by
  rcases h.store_step m with ⟨hstore, hnews⟩ | ⟨op, -, hnews, hstore⟩
  · rw [hstore, hnews, List.map_nil, List.append_nil]
  · rw [hstore, op.ids_apply_eq, hnews]

/-- What a worker is still to process after a move it was to process before, or has just claimed. -/
theorem Kept.todo_step (h : c.Kept team) (m : Move) {x : QueueItem}
    (hx : x ∈ ((c.step team m).desks n).stage.todo) :
    x ∈ (c.desks n).stage.todo ∨ ∃ row ∈ c.world.store.items, ∃ now, x = row.claim now := by
  by_cases hn : m.worker? = some n
  · cases m with
    | begin k =>
        obtain rfl : k = n := Option.some.inj hn
        exact .inl (stage_begin team c k ▸ hx)
    | proceed k => exact (h.proceed_happens k).todo hx
    | _ => exact nomatch hn
  · exact .inl (desks_step_of_ne hn ▸ hx)

/-- That all which workers are to process is in the queue is preserved by each move. -/
theorem Kept.id_mem_ids_step (h : c.Kept team)
    (hids : ∀ {n x}, x ∈ (c.desks n).stage.todo → x.id ∈ c.world.store.ids) (m : Move)
    {x : QueueItem} (hx : x ∈ ((c.step team m).desks n).stage.todo) :
    x.id ∈ (c.step team m).world.store.ids := by
  rw [h.ids_step_eq m]
  refine List.mem_append_left _ ?_
  rcases h.todo_step m hx with hx | ⟨row, hrow, now, rfl⟩
  · exact hids hx
  · show row.id ∈ c.world.store.ids
    exact List.mem_map_of_mem hrow

/-! ### Calls of senders -/

/-- The worker hands a notification over to a sender, for the item that it is processing. -/
def Sends (c : Crew) (n : Nat) (item : QueueItem) (place : Nat) (notification : Notification) :
    Prop :=
  (c.desks n).stage.item? = some item ∧
    ∃ next, (c.desks n).job = some (.ask (.send place notification) next)

/-- Where a worker calls a sender, it has just looked up a channel that may be sent to, and what it
hands over is the payload rendered for that channel. -/
theorem Kept.sends (h : c.Kept team) {item : QueueItem} {place : Nat}
    {notification : Notification} (hs : c.Sends n item place notification) :
    ∃ rest channel message, (c.desks n).stage = .looked item rest (.ok (some channel)) ∧
      channel.verified = true ∧ channel.enabled = true ∧
      (team n).renderer.render channel.channelType item.payload = .ok message ∧
      (team n).registry.sender? channel.channelType = some place ∧
      notification = ⟨channel.recipient, message.subject, message.body⟩ := by
  obtain ⟨hitem, next, hj⟩ := hs
  have hp : Permits (team n) (c.desks n).stage (.send place notification) :=
    ((h n).follows hj).1
  generalize hstage : (c.desks n).stage = stage at hp hitem
  cases hp with
  | @send found rest channel message _ hv he hm hplace =>
      obtain rfl := Option.some.inj hitem
      exact ⟨rest, channel, message, rfl, hv, he, hm, hplace, rfl⟩

end Crew

namespace Sample

/-- A worker has a message to send, and has made `k` requests. -/
def busy (k : Nat) : Crew := ((loaded 5).step team (.begin 0)).proceeds team 0 k

theorem unbroken_loaded {size : Nat} (hs : 0 < size) : Unbroken team size (loaded 5) (.begin 0) := by
  intro n hn
  obtain rfl := Option.some.inj hn
  exact ⟨hs, fun h => nomatch h⟩

/-- The worker of the sample goes on without a crash. -/
theorem unbroken_busy {size k : Nat} (hs : 0 < size) (hk : k < 8) :
    Unbroken team size (busy k) (.proceed 0) := by
  intro n hn
  obtain rfl := Option.some.inj hn
  refine ⟨hs, ?_⟩
  show ((busy (k + 1)).desks 0).job ≠ some .crash
  interval_cases k
  all_goals exact fun h => nomatch h

end Sample

end Courier
