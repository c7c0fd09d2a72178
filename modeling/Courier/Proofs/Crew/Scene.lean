import Courier.Proofs.Crew.Machine

/-!
# Proofs — Crew — Scene

What invariants of a crew speak of: the store, how far each worker is, what each holds, and the
history (`Scene`).

* `Happens`: all that one move can do to a scene, but for a recovery, with what is known where it is
  done.
* `Run.scene_induction`: what holds at first and is preserved by all that happens, holds in every
  run.
-/

namespace Courier

/-- The store, the workers as far as the store is concerned, and the history. -/
structure Scene where
  store : Store
  stages : Nat → Stage
  held : Nat → List QueueItem
  log : List Deed

namespace Scene

/-- Nobody has begun anything. -/
def first (store : Store) : Scene := ⟨store, fun _ => .start, fun _ => [], []⟩

/-- A worker gets to another stage. -/
def advance (s : Scene) (n : Nat) (t : Stage) (deeds : List Deed) : Scene :=
  { s with stages := Function.update s.stages n t, log := deeds ++ s.log }

/-- A worker claims items. -/
def claim (s : Scene) (n : Nat) (now : Instant) (limit : UInt32) : Scene :=
  { store := s.store.claimDue now limit
    stages := Function.update s.stages n (.claimed (s.store.claimed now limit))
    held := Function.update s.held n (s.held n ++ s.store.claimed now limit)
    log := .claimed n (s.store.claimed now limit) :: s.log }

/-- What the history keeps of a report. -/
def reported (s : Scene) (n : Nat) (id : Uuid) : List Deed :=
  if (s.store.findIn? id .processing).isSome then [.wrote n id] else []

/-- A worker reports the end of an attempt, which changes the row as `f` says. -/
def report (s : Scene) (n : Nat) (id : Uuid) (f : QueueItem → QueueItem) (t : Stage) : Scene :=
  { store := s.store.change id .processing f
    stages := Function.update s.stages n t
    held := Function.update s.held n ((s.held n).filter (·.id ≠ id))
    log := s.reported n id ++ s.log }

/-- The store changes from outside. -/
def visit (s : Scene) (store : Store) (deeds : List Deed) : Scene :=
  { s with store, log := deeds ++ s.log }

/-- Abandoned claims go back to the queue. -/
def recover (s : Scene) (now olderThan : Instant) : Scene :=
  s.visit (s.store.recoverStale now olderThan)
    [.recovered ((s.store.items.filter (·.isStale olderThan)).map (·.id))]

section Fields

variable (s : Scene) (n m : Nat) (t : Stage)

@[simp] theorem stages_advance (deeds : List Deed) :
    (s.advance n t deeds).stages m = if m = n then t else s.stages m :=
  Function.update_apply _ _ _ _

@[simp] theorem stages_claim (now : Instant) (limit : UInt32) :
    (s.claim n now limit).stages m =
      if m = n then .claimed (s.store.claimed now limit) else s.stages m :=
  Function.update_apply _ _ _ _

@[simp] theorem held_claim (now : Instant) (limit : UInt32) :
    (s.claim n now limit).held m =
      if m = n then s.held n ++ s.store.claimed now limit else s.held m :=
  Function.update_apply _ _ _ _

@[simp] theorem stages_report (id : Uuid) (f : QueueItem → QueueItem) :
    (s.report n id f t).stages m = if m = n then t else s.stages m :=
  Function.update_apply _ _ _ _

@[simp] theorem held_report (id : Uuid) (f : QueueItem → QueueItem) :
    (s.report n id f t).held m =
      if m = n then (s.held n).filter (·.id ≠ id) else s.held m :=
  Function.update_apply _ _ _ _

end Fields

variable {s : Scene} {n m : Nat} {t : Stage}

/-- What is held after a claim was held before, or was handed out by it. -/
theorem mem_held_claim {now : Instant} {limit : UInt32} {x : QueueItem}
    (hx : x ∈ (s.claim n now limit).held m) :
    x ∈ s.held m ∨ m = n ∧ x ∈ s.store.claimed now limit := by
  by_cases hm : m = n
  · rw [held_claim, if_pos hm] at hx
    exact (List.mem_append.mp hx).imp (hm ▸ id) fun hx => ⟨hm, hx⟩
  · rw [held_claim, if_neg hm] at hx
    exact .inl hx

/-- What is held after a report was held before, and the worker does not hold what it reported. -/
theorem mem_held_report {id : Uuid} {f : QueueItem → QueueItem} {x : QueueItem}
    (hx : x ∈ (s.report n id f t).held m) : x ∈ s.held m ∧ (m = n → x.id ≠ id) := by
  by_cases hm : m = n
  · rw [held_report, if_pos hm] at hx
    obtain ⟨hx, hid⟩ := List.mem_filter.mp hx
    exact ⟨hm ▸ hx, fun _ => of_decide_eq_true hid⟩
  · rw [held_report, if_neg hm] at hx
    exact ⟨hx, fun h => absurd h hm⟩

/-- All that a report adds to the history is itself. -/
theorem eq_of_mem_reported {id : Uuid} {d : Deed} (hd : d ∈ s.reported n id) : d = .wrote n id :=
  List.eq_of_mem_singleton (List.mem_ite_nil_right.mp hd).2

end Scene

/-- What a worker may do that neither the store nor the history sees. -/
inductive Passes (s : Stage) : Stage → Prop where
  | stay : Passes s s
  /-- A batch is over, has crashed, or was put away. -/
  | stop : Passes s .start
  | count : Passes s s.count
  | time (now : Instant) : Passes s (s.time now)

/-- A worker that goes on has no more to process than before. -/
theorem Passes.todo {s t : Stage} (h : Passes s t) : t.todo.Sublist s.todo := by
  cases h with
  | stay => exact List.Sublist.refl _
  | stop => exact List.nil_sublist _
  | count => exact s.todo_count ▸ List.Sublist.refl _
  | time now => exact s.todo_time now ▸ List.Sublist.refl _

/-- What a move does to a scene. -/
inductive Happens (team : Nat → Worker) (s : Scene) : Scene → Prop where
  | claim (n : Nat) (now : Instant) (hs : s.stages n = .start) :
      Happens team s (s.claim n now (team n).batchSize)
  | look (n : Nat) {item : QueueItem} {rest : List QueueItem}
      (hs : s.stages n = .ready (item :: rest)) (answer : Except StoreError (Option Channel))
      (ha : ∀ {found}, answer = .ok found → found = s.store.getChannel? item.channelId) :
      Happens team s (s.advance n (.looked item rest answer) [.looked n item answer])
  | send (n : Nat) {item : QueueItem} {rest : List QueueItem} {channel : Channel}
      {message : Message} {place : Nat}
      (hs : s.stages n = .looked item rest (.ok (some channel)))
      (hv : channel.verified) (he : channel.enabled)
      (hm : (team n).renderer.render channel.channelType item.payload = .ok message)
      (hp : (team n).registry.sender? channel.channelType = some place)
      (result : Except SendError Unit) :
      Happens team s (s.advance n (.tried item rest channel result)
        [.sent n item place ⟨channel.recipient, message.subject, message.body⟩ result])
  | succeed (n : Nat) (now : Instant) {item : QueueItem} {rest : List QueueItem}
      {channel : Channel} (hs : s.stages n = .tried item rest channel (.ok ())) :
      Happens team s
        (s.report n item.id (·.succeed now) (.ended (s.stages n).todo.tail))
  | fail (n : Nat) (now : Instant) {item : QueueItem} {reason : String}
      (h : Refusal (team n) (s.stages n) item reason) :
      Happens team s
        (s.report n item.id (·.fail now reason) (.ended (s.stages n).todo.tail))
  | putBack (n : Nat) (now : Instant) {item : QueueItem} {rest : List QueueItem}
      {setback : Setback} {read at_ : Instant} {wait : Span} {t : Stage}
      (hs : s.stages n = .timed item rest setback read)
      (hl : item.isLastAttempt? = some false)
      (hw : (team n).wait? item setback.retryAfter = some wait)
      (ha : retryTime? read wait = some at_)
      (ht : t = .ended (s.stages n).todo.tail ∨ t = .start) :
      Happens team s (s.report n item.id (Store.putBack now setback.reason at_) t)
  /-- A report is lost: the store failed. -/
  | lose (n : Nat) : Happens team s (s.advance n (.ended (s.stages n).todo.tail) [])
  | pass (n : Nat) {t : Stage} (ht : Passes (s.stages n) t) : Happens team s (s.advance n t [])
  | enqueue (now : Instant) {items : List NewItem} (hf : s.store.Fresh items) :
      Happens team s (s.visit (s.store.enqueueBatch now items) [])
  | requeue (now : Instant) (id : Uuid) :
      Happens team s (s.visit (s.store.requeue now id)
        (if (s.store.findIn? id .failed).isSome then [.requeued id] else []))
  | edit {store : Store} (hi : store.items = s.store.items) :
      Happens team s (s.visit store [])

namespace Crew

/-- The crew as far as the store is concerned. -/
def scene (c : Crew) : Scene :=
  ⟨c.world.store, fun n => (c.desks n).stage, fun n => (c.desks n).held, c.log⟩

variable {team : Nat → Worker} {c : Crew}

/-- A desk that changes, in the scene. -/
theorem scene_update (c : Crew) (w : World) (n : Nat) (d : Desk) (log : List Deed) :
    scene ⟨w, Function.update c.desks n d, log⟩ =
      ⟨w.store, Function.update c.scene.stages n d.stage, Function.update c.scene.held n d.held,
        log⟩ := by
  simp only [scene, Scene.mk.injEq, true_and]
  refine ⟨funext fun k => ?_, funext fun k => ?_, trivial⟩ <;>
    by_cases hk : k = n <;> simp [Function.update, hk]

variable {n : Nat} {r : Request} {next : r.Answer → Program (Except StoreError Nat)} {w : World}
  {answer : Option r.Answer}

/-- What the answer to a request makes of a scene. -/
theorem scene_hear (c : Crew) :
    (c.hear n r next (w, answer)).scene =
      { store := w.store
        stages := Function.update c.scene.stages n
          (answer.elim .start ((c.desks n).stage.next r))
        held := Function.update c.scene.held n (Desk.heldAfter (c.desks n).held r answer)
        log := (c.desks n).deeds n c.world.store r answer ++ c.log } :=
  scene_update c _ n _ _

/-- A request that changes neither the store nor what the worker holds. -/
theorem scene_hear_advance {t : Stage} {deeds : List Deed} (hw : w.store = c.world.store)
    (hh : Desk.heldAfter (c.desks n).held r answer = (c.desks n).held)
    (ht : answer.elim .start ((c.desks n).stage.next r) = t)
    (hd : (c.desks n).deeds n c.world.store r answer = deeds) :
    (c.hear n r next (w, answer)).scene = c.scene.advance n t deeds := by
  have hheld : Function.update c.scene.held n (c.desks n).held = c.scene.held :=
    Function.update_eq_self n c.scene.held
  rw [scene_hear, hw, hh, ht, hd, hheld]
  rfl

/-! ### Reports -/

section Reports

variable {call : StoreCall} {id : Uuid}
  {next : Except StoreError call.Result → Program (Except StoreError Nat)}

/-- A report ends the stage of the item. -/
theorem next_report (h : call.report? = some id) (s : Stage) (a : Except StoreError call.Result) :
    s.next (.store call) a = .ended s.todo.tail := by
  cases call <;> first | rfl | exact nomatch h

/-- With a report that arrives the worker no longer holds the item. -/
theorem heldAfter_report (h : call.report? = some id) (held : List QueueItem)
    (answer : Option (Except StoreError call.Result)) :
    Desk.heldAfter held (.store call) answer =
      if (Request.store call).took answer then held.filter (·.id ≠ id) else held := by
  cases call <;> first | (cases h; rfl) | exact nomatch h

/-- A report that finds the item `processing` is a deed. -/
theorem deeds_report (h : call.report? = some id) (d : Desk) (s : Store)
    (answer : Option (Except StoreError call.Result)) :
    d.deeds n s (.store call) answer =
      if (Request.store call).took answer ∧ (s.findIn? id .processing).isSome then [.wrote n id]
      else [] := by
  cases call <;> first | (cases h; rfl) | exact nomatch h

/-- A report that the store failed over. -/
theorem scene_hear_lost (h : call.report? = some id) (hw : w.store = c.world.store)
    (e : StoreError) :
    (c.hear n (.store call) next (w, some (.error e))).scene =
      c.scene.advance n (.ended (c.scene.stages n).todo.tail) [] := by
  refine scene_hear_advance hw ?_ (next_report h _ _) ?_
  · rw [heldAfter_report h]
    rfl
  · rw [deeds_report h]
    rfl

/-- A report that the store took, also where it broke down over it. -/
theorem scene_hear_report {f : QueueItem → QueueItem}
    {answer : Option (Except StoreError call.Result)} (h : call.report? = some id)
    (hw : w.store = c.world.store.change id .processing f)
    (ha : (Request.store call).took answer = true) :
    (c.hear n (.store call) next (w, answer)).scene =
      c.scene.report n id f
        (answer.elim .start fun _ => .ended (c.scene.stages n).todo.tail) := by
  have ht : answer.elim .start ((c.desks n).stage.next (.store call)) =
      answer.elim .start fun _ => .ended (c.scene.stages n).todo.tail := by
    cases answer with
    | none => rfl
    | some a => exact next_report h _ a
  rw [scene_hear, hw, ht, heldAfter_report h, deeds_report h, if_pos ha]
  simp only [ha, true_and]
  rfl

end Reports

/-- A look-up of a channel. -/
theorem scene_hear_look {item : QueueItem} {rest : List QueueItem}
    {next : Except StoreError (Option Channel) → Program (Except StoreError Nat)}
    (hs : (c.desks n).stage = .ready (item :: rest)) (hw : w.store = c.world.store)
    (a : Except StoreError (Option Channel)) :
    (c.hear n (.store (.getChannel item.channelId)) next (w, some a)).scene =
      c.scene.advance n (.looked item rest a) [.looked n item a] := by
  refine scene_hear_advance hw rfl ?_ ?_
  · rw [hs]
    rfl
  · simp [Desk.deeds, hs, Stage.item?]

/-- An answer of a sender. -/
theorem scene_hear_send {item : QueueItem} {rest : List QueueItem} {channel : Channel}
    {sender : Nat} {notification : Notification}
    {next : Except SendError Unit × Span → Program (Except StoreError Nat)}
    (hs : (c.desks n).stage = .looked item rest (.ok (some channel)))
    (hw : w.store = c.world.store) (a : Except SendError Unit × Span) :
    (c.hear n (.send sender notification) next (w, some a)).scene =
      c.scene.advance n (.tried item rest channel a.1)
        [.sent n item sender notification a.1] := by
  refine scene_hear_advance hw rfl ?_ ?_
  · rw [hs]
    rfl
  · simp [Desk.deeds, hs, Stage.item?]

/-! ### Moves -/

/-- A request of a worker, in the scene, by what it comes to. -/
theorem Kept.hear_happens (h : c.Kept team) (hj : (c.desks n).job = some (.ask r next))
    {handled : World × Option r.Answer} (hr : c.world.Handled r handled) :
    Happens team c.scene (c.hear n r next handled).scene := by
  -- the rules say which requests there are, and `Handled` what each comes to
  have hp : Permits (team n) (c.desks n).stage r := ((h n).follows hj).1
  generalize hs : (c.desks n).stage = stage at hp
  cases hp with
  | claim =>
      cases hr with
      | failed _ hw e =>
          rw [scene_hear_advance hw rfl rfl rfl]
          exact .pass n .stay
      | served _ hw =>
          rw [scene_hear, hw]
          exact .claim n c.world.now hs
  | fetched items =>
      cases hr with
      | measure _ hw =>
          rw [scene_hear_advance hw rfl rfl rfl]
          exact .pass n .count
  | look item rest =>
      cases hr with
      | failed _ hw e =>
          rw [scene_hear_look hs hw]
          exact .look n hs _ (fun h => nomatch h)
      | served _ hw =>
          rw [StoreCall.answer?, Option.map_some, scene_hear_look hs hw]
          exact .look n hs _ (fun h => (Except.ok.inj h).symm)
  | send item rest hv he hm hp =>
      cases hr with
      | sent _ _ hw answer =>
          cases answer with
          | none =>
              rw [scene_hear_advance hw rfl rfl rfl]
              exact .pass n .stop
          | some a =>
              rw [scene_hear_send hs hw]
              exact .send n hs hv he hm hp a.1
  | sendTime item rest channel result took =>
      cases hr with
      | measure _ hw =>
          rw [scene_hear_advance hw rfl rfl rfl]
          exact .pass n .count
  | succeed item rest channel =>
      cases hr with
      | failed _ hw e =>
          rw [scene_hear_lost rfl hw]
          exact .lose n
      | served _ hw =>
          rw [scene_hear_report rfl hw rfl]
          exact .succeed n c.world.now hs
  | fail hf =>
      cases hr with
      | failed _ hw e =>
          rw [scene_hear_lost rfl hw]
          exact .lose n
      | served _ hw =>
          rw [scene_hear_report rfl hw rfl]
          exact .fail n c.world.now (by rwa [← hs] at hf)
  | wait hi hb hl =>
      cases hr
      rw [scene_hear_advance rfl rfl rfl rfl]
      exact .pass n (.time c.world.now)
  | putBack item rest setback hl hwait ha =>
      cases hr with
      | failed _ hw e =>
          rw [scene_hear_lost rfl hw]
          exact .lose n
      | served _ hw =>
          -- the row is put back also where the store breaks down over its count
          rw [StoreCall.answer?]
          split
          · rw [scene_hear_report rfl hw rfl]
            exact .putBack n c.world.now hs hl hwait ha (.inl rfl)
          · rw [scene_hear_report rfl hw rfl]
            exact .putBack n c.world.now hs hl hwait ha (.inr rfl)
  | outcome rest label o =>
      cases hr with
      | measure _ hw =>
          rw [scene_hear_advance hw rfl rfl rfl]
          exact .pass n .count

/-- A worker's move, in the scene. -/
theorem Kept.proceed_happens (h : c.Kept team) (n : Nat) :
    Happens team c.scene (c.proceed n).scene := by
  rcases c.proceed_cases n with ⟨r, next, hj, he⟩ | he
  · rw [he]
    exact h.hear_happens hj (c.world.handled r)
  · have hheld : Function.update c.scene.held n (c.desks n).held = c.scene.held :=
      Function.update_eq_self n c.scene.held
    rw [he, scene_update, hheld]
    exact .pass n .stop

/-- A move that only the world sees. -/
theorem happens_nothing (s : Scene) : Happens team s s := .edit rfl

/-- **All that a move can do** is what `Happens` lists, but for a recovery. -/
theorem Kept.step_happens (h : c.Kept team) {m : Move} (hm : c.Admits m)
    (hr : ∀ olderThan, m ≠ .recover olderThan) : Happens team c.scene (c.step team m).scene := by
  cases m with
  | begin n =>
      show Happens team c.scene (c.begin team n).scene
      rcases c.begin_cases team n with ⟨-, he⟩ | he
      · have hstage : Function.update c.scene.stages n (c.desks n).stage = c.scene.stages :=
          Function.update_eq_self n c.scene.stages
        have hheld : Function.update c.scene.held n (c.desks n).held = c.scene.held :=
          Function.update_eq_self n c.scene.held
        rw [he, scene_update, hstage, hheld]
        exact happens_nothing c.scene
      · rw [he]
        exact happens_nothing c.scene
  | proceed n => exact h.proceed_happens n
  | enqueue items => exact .enqueue c.world.now hm
  | requeue id => exact .requeue c.world.now id
  | recover olderThan => exact absurd rfl (hr olderThan)
  | edit e => exact .edit (e.items_apply _ _)
  | turn now replies faults => exact happens_nothing c.scene

end Crew

/-- **What holds at first and is preserved by all that happens holds in every run.** -/
theorem Run.scene_induction {team : Nat → Worker} {rule : Crew → Move → Prop} {w : World}
    {c : Crew} {I : Scene → Prop} (h : Run team rule w c) (hfirst : I (.first w.store))
    (hstep : ∀ {s s'}, Happens team s s' → I s → I s')
    (hrecover : ∀ {d : Crew} {olderThan}, rule d (.recover olderThan) → I d.scene →
      I (d.scene.recover d.world.now olderThan)) : I c.scene := by
  induction h with
  | start => exact hfirst
  | step hrun m hm hr ih =>
      by_cases hrec : ∃ olderThan, m = .recover olderThan
      · -- the one move that takes claims from workers that still have them
        obtain ⟨olderThan, rfl⟩ := hrec
        exact hrecover hr ih
      · exact hstep (hrun.kept.step_happens hm fun olderThan e => hrec ⟨olderThan, e⟩) ih

end Courier
