import Courier.Http.Api
import Courier.Proofs.Queue.History
import Courier.Proofs.World

/-!
# Proofs — Http — Api

What requests to the API do, where the store answers every call.  Two of them do something (`Deed`):
the one that puts an item back to the queue, and the one that tests a channel.

* `World.Keeps`: neither the store nor what the senders got has changed.
* `run_retry_failed`, `testChannel_sends`: the two that do something; `respond_keeps`: the rest.
* `respond_effects`: what any request to any path does.
-/

namespace Courier

/-- A request left the store as it was, and sent nothing. -/
structure World.Keeps (w w' : World) : Prop where
  store : w'.store = w.store
  sent : w'.sent = w.sent

/-- The row of an item that starts anew at a time. -/
structure QueueItem.Renews (now : Instant) (row row' : QueueItem) : Prop where
  origin : row'.origin = row.origin
  lastError : row'.lastError = row.lastError
  status : row'.status = .pending
  attempts : row'.attempts = 0
  nextAttemptAt : row'.nextAttemptAt = now

/-- An item that is put on its way again starts anew, with all else as it was. -/
theorem QueueItem.renews_requeue (now : Instant) (row : QueueItem) :
    row.Renews now (row.requeue now) :=
  ⟨rfl, rfl, rfl, rfl, rfl⟩

/-- A failed row that is put back is found as it is then. -/
theorem Store.getItem?_requeue {s : Store} (hd : s.Distinct) (now : Instant) {id : Uuid}
    {row : QueueItem} (h : s.getItem? id = some row) (hs : row.status = .failed) :
    (s.requeue now id).getItem? id = some (row.requeue now) := by
  have hin : row.isIn id .failed = true := isIn_iff.mpr ⟨id_of_getItem? h, hs⟩
  rw [requeue_eq_change, getItem?_change hd (keepsId_requeue _), h, Option.map_some,
    changeIn_of_isIn hin]

/-- The store with another row in place of the one under its identifier. -/
def Store.replace (row : QueueItem) (s : Store) : Store :=
  { s with items := s.items.map fun other => if other.id = row.id then row else other }

/-- The only row under an identifier starts anew. -/
theorem Store.requeue_eq_replace {s : Store} (hd : s.Distinct) (now : Instant) {row : QueueItem}
    (h : s.getItem? row.id = some row) (hs : row.status = .failed) :
    s.requeue now row.id = s.replace (row.requeue now) := by
  have hitems : s.items.map (QueueItem.changeIn row.id .failed (·.requeue now)) =
      s.items.map fun other => if other.id = row.id then row.requeue now else other := by
    refine List.map_congr_left fun other hother => ?_
    by_cases hid : other.id = row.id
    · have he : other = row := by
        have hfound := hd.getItem?_of_mem hother
        rw [hid, h] at hfound
        exact (Option.some.inj hfound).symm
      rw [if_pos hid, he, changeIn_of_isIn (isIn_iff.mpr ⟨rfl, hs⟩)]
    · rw [if_neg hid, changeIn_of_not_isIn fun hin => hid (isIn_iff.mp hin).1]
  rw [requeue, changeFirst_eq_map hd, hitems]
  rfl

namespace Http

/-- Something that a request wants to have done. -/
inductive Deed where
  /-- An item is put back to the queue. -/
  | retry (id : Uuid)
  /-- A channel is tested. -/
  | test (id : Uuid)
  deriving DecidableEq

/-- What a request wants to have done. -/
def deed? (method : String) (target : Target) : Option Deed :=
  if method = "POST" then
    match Route.ofPath? target.path with
    | some (.retry id) => (pathId id).toOption.map .retry
    | some (.channelTest id) => (pathId id).toOption.map .test
    | _ => none
  else none

theorem toOption_eq_some {ε α : Type} {x : Except ε α} {a : α} (h : x.toOption = some a) :
    x = .ok a := by
  cases x with
  | error e => cases h
  | ok b => exact congrArg Except.ok (Option.some.inj h)

namespace Api
open Program

/-- How that is done. -/
def act (api : Api) : Deed → Program Response
  | .retry id => retry id
  | .test id => api.testChannel id

variable {api : Api} {w : World} {id : Uuid} {row : QueueItem}

/-! ### Requests that only look -/

/-- The list of items changes nothing. -/
theorem list_keeps (hf : w.faults = .empty) (p : ListParameters) : w.Keeps (w.run (list p)).1 := by
  rw [list]
  cases listedStatus p with
  | error reason => exact ⟨rfl, rfl⟩
  | ok status =>
      simp only [bind_eq_bind]
      rw [World.run_read hf rfl rfl]
      exact ⟨rfl, rfl⟩

theorem stats_keeps (hf : w.faults = .empty) : w.Keeps (w.run stats).1 := by
  simp only [stats, bind_eq_bind]
  rw [World.run_read hf rfl rfl]
  exact ⟨rfl, rfl⟩

theorem metrics_keeps (hf : w.faults = .empty) : w.Keeps (w.run metrics).1 := by
  simp only [metrics, refreshDepths, bind_eq_bind, bind_assoc]
  rw [World.run_read hf rfl rfl]
  exact ⟨rfl, rfl⟩

/-- What shows the queue changes nothing. -/
theorem queue_keeps (hf : w.faults = .empty) (query : Option (List Char)) :
    w.Keeps (w.run (api.serve query .queue)).1 := by
  rw [serve]
  cases ListParameters.ofQuery (query.getD []) with
  | error fault => exact ⟨rfl, rfl⟩
  | ok p => exact list_keeps hf p

/-- What can be fetched is fetched without effect. -/
theorem serve_keeps (hf : w.faults = .empty) (query : Option (List Char)) {route : Route}
    (hr : route.isAction = false) : w.Keeps (w.run (api.serve query route)).1 := by
  cases route with
  | health => exact ⟨rfl, rfl⟩
  | metrics => exact metrics_keeps hf
  | queue => exact queue_keeps hf query
  | queueStats => exact stats_keeps hf
  | retry id => cases hr
  | channelTest id => cases hr

/-! ### Putting an item back -/

/-- There is no item to try again under an unknown identifier. -/
theorem run_retry_missing (hf : w.faults = .empty) (h : w.store.getItem? id = none) :
    w.run (retry id) = (w, some (itemMissing id)) := by
  have hanswer : (StoreCall.getItem id).answer? w.now w.store = some none := congrArg some h
  simp only [retry, bind_eq_bind]
  rw [World.run_read hf rfl hanswer]
  rfl

/-- An item that has not failed is not tried again. -/
theorem run_retry_refused (hf : w.faults = .empty) (h : w.store.getItem? id = some row)
    (hs : row.status ≠ .failed) :
    ∃ reason, w.run (retry id) = (w, some (.failure (.validation reason))) := by
  have hanswer : (StoreCall.getItem id).answer? w.now w.store = some (some row) := congrArg some h
  simp only [retry, bind_eq_bind]
  rw [World.run_read hf rfl hanswer]
  simp only [if_pos hs]
  exact ⟨_, rfl⟩

/-- A failed item starts anew, and the answer is its row as the store has it then. -/
theorem run_retry_failed (hd : w.store.Distinct) (hf : w.faults = .empty)
    (h : w.store.getItem? id = some row) (hs : row.status = .failed) :
    w.run (retry id) =
      ({ w with store := w.store.requeue w.now id },
        some (.json 200 (row.requeue w.now).toJson)) := by
  have hanswer : (StoreCall.getItem id).answer? w.now w.store = some (some row) := congrArg some h
  have hfound : (StoreCall.requeue id).answer? w.now w.store = some true := by
    rw [StoreCall.answer?, hd.findIn?_eq, h, Option.filter_some, if_pos (by simpa using hs)]
    rfl
  have hrow : (StoreCall.getItem id).answer? w.now (w.store.requeue w.now id) =
      some (some (row.requeue w.now)) :=
    congrArg some (Store.getItem?_requeue hd w.now h hs)
  simp only [retry, bind_eq_bind]
  rw [World.run_read hf rfl hanswer]
  simp only [hs, ne_eq, not_true_eq_false, if_false]
  rw [World.run_call hf hfound]
  exact World.run_read (w := { w with store := w.store.requeue w.now id }) hf rfl hrow _

/-- What putting an item back comes to. -/
inductive Retries (w : World) (id : Uuid) : World × Option Response → Prop where
  | missing (h : w.store.getItem? id = none) : Retries w id (w, some (itemMissing id))
  | refused {row : QueueItem} (h : w.store.getItem? id = some row) (hs : row.status ≠ .failed)
      (reason : String) : Retries w id (w, some (.failure (.validation reason)))
  | renewed {row : QueueItem} (h : w.store.getItem? id = some row) (hs : row.status = .failed) :
      Retries w id ({ w with store := w.store.requeue w.now id },
        some (.json 200 (row.requeue w.now).toJson))

/-- A request to try an item again is refused, or puts the item on its way. -/
theorem run_retry (hd : w.store.Distinct) (hf : w.faults = .empty) (id : Uuid) :
    Retries w id (w.run (retry id)) := by
  cases h : w.store.getItem? id with
  | none =>
      rw [run_retry_missing hf h]
      exact .missing h
  | some row =>
      by_cases hs : row.status = .failed
      · rw [run_retry_failed hd hf h hs]
        exact .renewed h hs
      · obtain ⟨reason, hrun⟩ := run_retry_refused hf h hs
        rw [hrun]
        exact .refused h hs reason

/-! ### Testing a channel -/

/-- A sender is called exactly once, whatever it answers and however long it takes. -/
theorem testChannel_sends (hf : w.faults = .empty) {channel : Channel}
    (hc : w.store.getChannel? id = some channel) {place : Nat}
    (hs : api.registry.sender? channel.channelType = some place) :
    (w.run (api.testChannel id)).1.store = w.store ∧
      ∃ delivered, (w.run (api.testChannel id)).1.sent =
        ⟨place, ⟨channel.recipient, testSubject, testBody channel⟩, delivered⟩ :: w.sent := by
  have hanswer : (StoreCall.getChannel id).answer? w.now w.store = some (some channel) :=
    congrArg some hc
  simp only [testChannel, bind_eq_bind]
  rw [World.run_read hf rfl hanswer]
  simp only [Registry.sendToChannel, hs, bind_eq_bind, request, ask_bind, done_bind, World.run,
    World.handle]
  cases w.now.shift? ((World.takeNext place w.replies).1.getD .success).took.nanos with
  | none => exact ⟨rfl, _, rfl⟩
  | some now =>
      simp only
      cases ((World.takeNext place w.replies).1.getD .success).result with
      | ok _ => exact ⟨rfl, _, rfl⟩
      | error e => exact ⟨rfl, _, rfl⟩

/-- Without a channel or a sender for it, nothing is sent. -/
theorem testChannel_keeps (hf : w.faults = .empty)
    (h : ∀ channel, w.store.getChannel? id = some channel →
      api.registry.sender? channel.channelType = none) :
    w.Keeps (w.run (api.testChannel id)).1 := by
  simp only [testChannel, bind_eq_bind]
  rw [World.run_read hf rfl rfl]
  cases hc : w.store.getChannel? id with
  | none => exact ⟨rfl, rfl⟩
  | some channel =>
      simp only [Registry.sendToChannel, h channel hc, pure_eq_done, done_bind]
      exact ⟨rfl, rfl⟩

/-! ### Any request -/

/-- A request with a deed does it. -/
theorem respond_deed {method : String} {target : Target} {deed : Deed}
    (h : deed? method target = some deed) : api.respond method target = api.act deed := by
  rw [deed?] at h
  split at h
  · rename_i hmethod
    cases hroute : Route.ofPath? target.path with
    | none =>
        rw [hroute] at h
        cases h
    | some route =>
        rw [hroute] at h
        cases route with
        | retry text =>
            obtain ⟨id, hid, rfl⟩ := Option.map_eq_some_iff.mp h
            simp only [respond, hroute, hmethod, Route.takes, Route.isAction, serve, withId,
              toOption_eq_some hid]
            rfl
        | channelTest text =>
            obtain ⟨id, hid, rfl⟩ := Option.map_eq_some_iff.mp h
            simp only [respond, hroute, hmethod, Route.takes, Route.isAction, serve, withId,
              toOption_eq_some hid]
            rfl
        | _ => cases h
  · cases h

/-- An identifier that cannot be read is refused. -/
theorem withId_keeps {text : List Char} (h : (pathId text).toOption = none)
    (act : Uuid → Program Response) : w.Keeps (w.run (withId text act)).1 := by
  cases hid : pathId text with
  | error fault =>
      rw [withId, hid]
      exact ⟨rfl, rfl⟩
  | ok id =>
      rw [hid] at h
      cases h

/-- Any other request has no effect. -/
theorem respond_keeps (hf : w.faults = .empty) {method : String} {target : Target}
    (h : deed? method target = none) : w.Keeps (w.run (api.respond method target)).1 := by
  rw [respond]
  cases hroute : Route.ofPath? target.path with
  | none => exact ⟨rfl, rfl⟩
  | some route =>
      by_cases ht : route.takes method = true
      · simp only [ht, if_true, bind_eq_bind, pure_eq_done]
        have hkeeps : w.Keeps (w.run (api.serve target.query route)).1 := by
          cases ha : route.isAction with
          | false => exact serve_keeps hf _ ha
          | true =>
              have hmethod : method = "POST" := by simpa [Route.takes, ha] using ht
              rw [deed?, if_pos hmethod, hroute] at h
              cases route with
              | retry text => exact withId_keeps (Option.map_eq_none_iff.mp h) _
              | channelTest text => exact withId_keeps (Option.map_eq_none_iff.mp h) _
              | _ => cases ha
        by_cases hhead : method = "HEAD"
        · rw [if_pos hhead, World.fst_run_map]
          exact hkeeps
        · rw [if_neg hhead]
          exact hkeeps
      · simp only [ht]
        exact ⟨rfl, rfl⟩

/-- What a request does, from one world to another, and what it is answered. -/
structure Effects (api : Api) (method : String) (target : Target) (w w' : World)
    (answer : Option Response) : Prop where
  /-- A failed item starts anew, nothing else in the store changes, and the answer is its row as the
  store has it then. -/
  renews : ∀ {id row}, deed? method target = some (.retry id) → w.store.getItem? id = some row →
    row.status = .failed → ∃ row', row.Renews w.now row' ∧ w'.store = w.store.replace row' ∧
      w'.store.getItem? id = some row' ∧ answer = some (.json 200 row'.toJson)
  /-- Nothing else changes the store. -/
  keeps : (∀ {id row}, deed? method target = some (.retry id) → w.store.getItem? id = some row →
    row.status ≠ .failed) → w'.store = w.store
  /-- An item that is not failed is not put back. -/
  refuses : ∀ {id}, deed? method target = some (.retry id) → ∃ response, answer = some response ∧
    (response.status = 404 ↔ w.store.getItem? id = none) ∧
    (response.status = 400 ↔ ∃ row, w.store.getItem? id = some row ∧ row.status ≠ .failed)
  /-- One message goes to the sender of a channel that is tested. -/
  sends : ∀ {id channel place}, deed? method target = some (.test id) →
    w.store.getChannel? id = some channel →
    api.registry.sender? channel.channelType = some place → ∃ delivered, w'.sent =
      ⟨place, ⟨channel.recipient, testSubject, testBody channel⟩, delivered⟩ :: w.sent
  /-- Nothing else sends a message. -/
  silent : (∀ {id channel}, deed? method target = some (.test id) →
    w.store.getChannel? id = some channel → api.registry.sender? channel.channelType = none) →
    w'.sent = w.sent

section

variable {method : String} {target : Target} {w' : World} {answer : Option Response}

/-- A request without effect that wants nothing to be put back. -/
theorem Effects.of_keeps (h : w.Keeps w')
    (hdeed : ∀ {id}, deed? method target ≠ some (.retry id))
    (hnone : ∀ {id channel}, deed? method target = some (.test id) →
      w.store.getChannel? id = some channel → api.registry.sender? channel.channelType = none) :
    api.Effects method target w w' answer where
  renews := fun hid => absurd hid hdeed
  keeps := fun _ => h.store
  refuses := fun hid => absurd hid hdeed
  sends := fun hid hc hs => by
    rw [hnone hid hc] at hs
    cases hs
  silent := fun _ => h.sent

/-- To try an item again has the effects of that deed. -/
theorem Effects.of_retries (hd : w.store.Distinct) (hdeed : deed? method target = some (.retry id))
    (h : Retries w id (w', answer)) : api.Effects method target w w' answer := by
  have hid : ∀ {id'}, deed? method target = some (.retry id') → id' = id := by
    intro id' hid'
    rw [hdeed] at hid'
    exact (Deed.retry.inj (Option.some.inj hid')).symm
  have htest : ∀ {id'}, deed? method target ≠ some (.test id') := by
    intro id' hid'
    rw [hdeed] at hid'
    cases hid'
  cases h with
  | missing h =>
      refine ⟨?_, fun _ => rfl, ?_, fun ht => absurd ht htest, fun _ => rfl⟩
      · intro id' row hid' hrow
        rw [hid hid', h] at hrow
        cases hrow
      · intro id' hid'
        rw [hid hid', h]
        refine ⟨_, rfl, iff_of_true rfl rfl, iff_of_false (show ¬(404 = 400) by decide) ?_⟩
        rintro ⟨row, hrow, -⟩
        cases hrow
  | refused h hs reason =>
      refine ⟨?_, fun _ => rfl, ?_, fun ht => absurd ht htest, fun _ => rfl⟩
      · intro id' row hid' hrow hfailed
        rw [hid hid', h] at hrow
        exact absurd (Option.some.inj hrow ▸ hfailed) hs
      · intro id' hid'
        rw [hid hid', h]
        exact ⟨_, rfl, iff_of_false (show ¬(400 = 404) by decide) nofun,
          iff_of_true rfl ⟨_, rfl, hs⟩⟩
  | @renewed row h hs =>
      have hrow := Store.id_of_getItem? h
      refine ⟨?_, ?_, ?_, fun ht => absurd ht htest, fun _ => rfl⟩
      · intro id' row' hid' hrow' _
        rw [hid hid', h] at hrow'
        obtain rfl := Option.some.inj hrow'
        refine ⟨_, row.renews_requeue w.now, ?_, ?_, rfl⟩
        · rw [← hrow]
          exact Store.requeue_eq_replace hd w.now (hrow.symm ▸ h) hs
        · rw [hid hid']
          exact Store.getItem?_requeue hd w.now h hs
      · intro hnone
        exact absurd hs (hnone hdeed h)
      · intro id' hid'
        rw [hid hid', h]
        refine ⟨_, rfl, iff_of_false (show ¬(200 = 404) by decide) nofun,
          iff_of_false (show ¬(200 = 400) by decide) ?_⟩
        rintro ⟨other, hother, hne⟩
        exact hne (Option.some.inj hother ▸ hs)

/-- To test a channel has the effects of that deed. -/
theorem Effects.of_test (hf : w.faults = .empty) (hdeed : deed? method target = some (.test id)) :
    api.Effects method target w (w.run (api.testChannel id)).1 (w.run (api.testChannel id)).2 := by
  have hretry : ∀ {id'}, deed? method target ≠ some (.retry id') := by
    intro id' hid'
    rw [hdeed] at hid'
    cases hid'
  -- the sender is called where there is one, and its answer does not matter
  by_cases h : ∀ channel, w.store.getChannel? id = some channel →
      api.registry.sender? channel.channelType = none
  · refine .of_keeps (testChannel_keeps hf h) hretry ?_
    intro id' channel hid' hc
    rw [hdeed] at hid'
    obtain rfl := Deed.test.inj (Option.some.inj hid')
    exact h channel hc
  · push Not at h
    obtain ⟨channel, hc, hs⟩ := h
    obtain ⟨place, hplace⟩ := Option.ne_none_iff_exists'.mp hs
    obtain ⟨hstore, hsent⟩ := testChannel_sends hf hc hplace
    refine ⟨fun hid => absurd hid hretry, fun _ => hstore, fun hid => absurd hid hretry, ?_, ?_⟩
    · intro id' channel' place' hid' hc' hs'
      rw [hdeed] at hid'
      obtain rfl := Deed.test.inj (Option.some.inj hid')
      rw [hc] at hc'
      obtain rfl := Option.some.inj hc'
      rw [hplace] at hs'
      obtain rfl := Option.some.inj hs'
      exact hsent
    · intro hnone
      rw [hnone hdeed hc] at hplace
      cases hplace

end

/-- **Of all requests to the API, one that wants a failed item to be put back changes the row of
that item, and nothing else changes the store; one that wants a channel to be tested sends one
message, and nothing else sends any.**  The flags of the channel do not matter. -/
theorem respond_effects (api : Api) (method : String) (target : Target) {w : World}
    (hd : w.store.Distinct) (hf : w.faults = .empty) :
    api.Effects method target w (w.run (api.respond method target)).1
      (w.run (api.respond method target)).2 := by
  cases hdeed : deed? method target with
  | none => exact .of_keeps (respond_keeps hf hdeed) (hdeed ▸ nofun) (hdeed ▸ nofun)
  | some deed =>
      rw [respond_deed hdeed]
      cases deed with
      | retry id => exact .of_retries hd hdeed (run_retry hd hf id)
      | test id => exact .of_test hf hdeed

end Api

end Http

namespace Sample

/-- A message that was sent, and one that was given up. -/
def refused : World :=
  { world with
    store := { world.store with
      items := [((item 5).enter .epoch).succeed .epoch,
        { ((item 5).enter .epoch).fail .epoch "no answer" with id := id 4, attempts := 5 }] } }

/-- The operator wants the second to be tried again. -/
def wish : Http.Target :=
  ⟨"/api/notifications/queue/00000000-0000-0000-0000-000000000004/retry".toList, none⟩

/-- An interface with a sender for one kind of channel. -/
def api : Http.Api := ⟨true, ⟨[.telegram]⟩⟩

end Sample

/-- A message that was given up goes back to the queue, and the one beside it stays as it is. -/
theorem given_up_is_retried :
    ∃ row row', Sample.refused.store.items[1]? = some row ∧ row.Renews .epoch row' ∧
      (Sample.refused.run (Sample.api.respond "POST" Sample.wish)).1.store =
        Sample.refused.store.replace row' := by
  have hd : Sample.refused.store.Distinct := List.nodup_iff_pairwise_ne.mpr (by decide)
  have hdeed : Http.deed? "POST" Sample.wish = some (.retry (Sample.id 4)) := by decide +kernel
  obtain ⟨row', hrenews, hstore, -, -⟩ :=
    (Http.Api.respond_effects Sample.api "POST" Sample.wish hd rfl).renews hdeed rfl rfl
  exact ⟨_, row', rfl, hrenews, hstore⟩

end Courier
