import Courier.Announcement
import Courier.Delivery
import Courier.Proofs.Time.Instant
import Courier.World

/-!
# Proofs — World

* `World.Handled`: what a request comes to, as far as the store is concerned.  A call of the store
  fails and leaves the store as it was, or it is served, and no other request changes the store.
* `run_bind_some`, `run_call`, `run_send`: a program that is run, piece by piece.
* `Sample`: a small deployment.
-/

namespace Courier

namespace World

/-- What a request comes to. -/
inductive Handled (w : World) : (r : Request) → World × Option r.Answer → Prop where
  /-- A call of the store fails without effect. -/
  | failed (call : StoreCall) {w' : World} (h : w'.store = w.store) (e : StoreError) :
      Handled w (.store call) (w', some (.error e))
  /-- The store serves a call, or breaks down over it. -/
  | served (call : StoreCall) {w' : World} (h : w'.store = call.serve w.now w.store) :
      Handled w (.store call) (w', (call.answer? w.now w.store).map .ok)
  | sent (sender : Nat) (notification : Notification) {w' : World} (h : w'.store = w.store)
      (answer : Option (Except SendError Unit × Span)) :
      Handled w (.send sender notification) (w', answer)
  | clock : Handled w .clock (w, some w.now)
  | mint {w' : World} (h : w'.store = w.store) (id : Uuid) : Handled w .mint (w', some id)
  | measure (m : Measurement) {w' : World} (h : w'.store = w.store) :
      Handled w (.measure m) (w', some ())
  | metrics : Handled w .metrics (w, some w.metrics)

theorem handled (w : World) (r : Request) : w.Handled r (w.handle r) := by
  cases r with
  | store call =>
      simp only [handle]
      split
      · exact .failed call (by rfl) _
      · exact .served call (by rfl)
  | send sender notification =>
      simp only [handle]
      split <;> exact .sent sender notification (by rfl) _
  | clock => exact .clock
  | mint => exact .mint (by rfl) _
  | measure m => exact .measure m (by rfl)
  | metrics => exact .metrics

/-- A request leaves the store, or is a call that the store serves. -/
theorem handle_store_cases (w : World) (r : Request) :
    (w.handle r).1.store = w.store ∨
      ∃ call : StoreCall, (w.handle r).1.store = call.serve w.now w.store := by
  have h := w.handled r
  generalize w.handle r = handled at h
  cases h with
  | failed call h e => exact .inl h
  | served call h => exact .inr ⟨call, h⟩
  | sent sender notification h answer => exact .inl h
  | clock => exact .inl rfl
  | mint h id => exact .inl h
  | measure m h => exact .inl h
  | metrics => exact .inl rfl

/-- Time does not go back over a request. -/
theorem now_le_handle (w : World) (r : Request) : w.now.le (w.handle r).1.now = true := by
  cases r with
  | store call =>
      simp only [handle]
      split <;> exact Instant.le_refl w.now
  | send sender notification =>
      simp only [handle]
      split
      · rename_i hshift
        exact Instant.le_of_shift? hshift (Int.natCast_nonneg _)
      · exact Instant.le_refl w.now
  | _ => exact Instant.le_refl w.now

/-! ### Running -/

variable {α β : Type}

/-- A program that ends is followed by what comes after it. -/
theorem run_bind_some {p : Program α} {w w' : World} {a : α} (h : w.run p = (w', some a))
    (f : α → Program β) : w.run (p.bind f) = w'.run (f a) := by
  induction p generalizing w with
  | done b =>
      obtain ⟨rfl, hb⟩ := Prod.mk.inj h
      rw [Program.done_bind, Option.some.inj hb]
  | crash => exact nomatch (Prod.mk.inj h).2
  | ask r next ih =>
      simp only [Program.ask_bind, run] at h ⊢
      generalize w.handle r = handled at h ⊢
      obtain ⟨w₁, answer⟩ := handled
      cases answer with
      | none => exact nomatch (Prod.mk.inj h).2
      | some answer => exact ih answer h

/-- A program that crashes is followed by nothing. -/
theorem run_bind_none {p : Program α} {w : World} (h : (w.run p).2 = none)
    (f : α → Program β) : (w.run (p.bind f)).2 = none := by
  induction p generalizing w with
  | done b => exact nomatch h
  | crash => rfl
  | ask r next ih =>
      simp only [Program.ask_bind, run] at h ⊢
      generalize w.handle r = handled at h ⊢
      obtain ⟨w₁, answer⟩ := handled
      cases answer with
      | none => rfl
      | some answer => exact ih answer h

/-- What is made of a value in the end has no effect. -/
theorem fst_run_map (p : Program α) (f : α → β) (w : World) :
    (w.run (p.bind fun a => .done (f a))).1 = (w.run p).1 := by
  induction p generalizing w with
  | done a => rfl
  | crash => rfl
  | ask r next ih =>
      simp only [Program.ask_bind, run]
      generalize w.handle r = handled
      obtain ⟨w₁, answer⟩ := handled
      cases answer with
      | none => rfl
      | some answer => exact ih answer w₁

@[simp] theorem run_done (a : α) (w : World) : w.run (.done a) = (w, some a) := rfl

@[simp] theorem run_crash (w : World) : w.run (.crash : Program α) = (w, none) := rfl

@[simp] theorem run_clock (f : (Request.Answer .clock) → Program β) (w : World) :
    w.run ((Program.request .clock).bind f) = w.run (f w.now) := rfl

@[simp] theorem run_measure (m : Measurement) (f : Unit → Program β) (w : World) :
    w.run ((Program.measure m).bind f) =
      World.run (f ()) { w with metrics := m.record w.metrics } := rfl

/-- A value that is there, and what follows. -/
@[simp] theorem run_orCrash_some (a : α) (f : α → Program β) (w : World) :
    w.run ((Program.orCrash (some a)).bind f) = w.run (f a) := rfl

@[simp] theorem run_orCrash_none (f : α → Program β) (w : World) :
    w.run ((Program.orCrash none).bind f) = (w, none) := rfl

/-- Where no call is to fail, the store serves each. -/
theorem handle_store {w : World} (hf : w.faults = .empty) (call : StoreCall) :
    w.handle (.store call) =
      ({ w with store := call.serve w.now w.store },
        (call.answer? w.now w.store).map Except.ok) := by
  obtain ⟨store, metrics, now, minted, replies, faults, sent⟩ := w
  subst hf
  rfl

/-- A call that the store serves, and what follows. -/
theorem run_call {w : World} (hf : w.faults = .empty) {call : StoreCall} {a : call.Result}
    (ha : call.answer? w.now w.store = some a) (f : Except StoreError call.Result → Program β) :
    w.run ((Program.call call).bind f) =
      World.run (f (.ok a)) { w with store := call.serve w.now w.store } := by
  show World.run (.ask (.store call) f) w = _
  rw [run, handle_store hf, ha]
  rfl

/-- A call that only asks, and what follows. -/
theorem run_read {w : World} (hf : w.faults = .empty) {call : StoreCall}
    (hs : call.serve w.now w.store = w.store) {a : call.Result}
    (ha : call.answer? w.now w.store = some a) (f : Except StoreError call.Result → Program β) :
    w.run ((Program.call call).bind f) = w.run (f (.ok a)) := by
  rw [run_call hf ha, hs]

theorem fst_takeNext {κ γ : Type} [DecidableEq κ] (key : κ) (t : Table κ (List γ)) :
    (takeNext key t).1 = (t.get? key).bind List.head? := by
  rw [takeNext]
  split
  · rename_i h
    rw [h, Option.bind_some, List.head?_cons]
  · rename_i h
    cases hget : t.get? key with
    | none => rfl
    | some list =>
        cases list with
        | nil => rfl
        | cons a rest => exact absurd hget (h a rest)

/-- What is taken for a key leaves the others. -/
theorem get?_takeNext {κ γ : Type} [DecidableEq κ] {key other : κ} (h : other ≠ key)
    (t : Table κ (List γ)) : (takeNext key t).2.get? other = t.get? other := by
  rw [takeNext]
  split
  · rw [Table.get?_set, if_neg h]
  · rfl

/-- What the next call of a name fails with. -/
def nextFault? (w : World) (name : String) : Option StoreError := (takeNext name w.faults).1.join

/-- The world after a call of a name, as far as failures to come are concerned. -/
def afterCall (w : World) (name : String) : World :=
  { w with faults := (takeNext name w.faults).2 }

/-- A call leaves the failures of others to come. -/
theorem nextFault?_afterCall {name other : String} (h : other ≠ name) (w : World) :
    (w.afterCall name).nextFault? other = w.nextFault? other := by
  rw [nextFault?, nextFault?, fst_takeNext, fst_takeNext, afterCall, get?_takeNext h]

/-- A call that is to fail, and what follows. -/
theorem run_call_failed {w : World} {call : StoreCall} {e : StoreError}
    (h : w.nextFault? call.name = some e) (f : Except StoreError call.Result → Program β) :
    w.run ((Program.call call).bind f) = (w.afterCall call.name).run (f (.error e)) := by
  have hfault : (takeNext call.name w.faults).1 = some (some e) := Option.join_eq_some_iff.mp h
  show World.run (.ask (.store call) f) w = _
  simp only [run, handle, hfault, afterCall]

/-- A call that is not to fail, and what follows. -/
theorem run_call_served {w : World} {call : StoreCall} (h : w.nextFault? call.name = none)
    {a : call.Result} (ha : call.answer? w.now w.store = some a)
    (f : Except StoreError call.Result → Program β) :
    w.run ((Program.call call).bind f) =
      World.run (f (.ok a)) { w.afterCall call.name with store := call.serve w.now w.store } := by
  show World.run (.ask (.store call) f) w = _
  rw [nextFault?] at h
  simp only [run, handle, afterCall]
  cases hfault : (takeNext call.name w.faults).1 with
  | none => simp only [ha, Option.map_some]
  | some fault =>
      cases fault with
      | none => simp only [ha, Option.map_some]
      | some e =>
          rw [hfault] at h
          cases h

/-- What a sender answers next. -/
def nextReply (w : World) (sender : Nat) : Reply := (takeNext sender w.replies).1.getD .success

/-- The world after a sender has taken a message and its time. -/
def afterSend (w : World) (sender : Nat) (notification : Notification) (now : Instant) : World :=
  { w with
    replies := (takeNext sender w.replies).2
    now
    sent := ⟨sender, notification,
      ((takeNext sender w.replies).1.getD .success).result.isOk⟩ :: w.sent }

/-- A call of a sender, and what follows. -/
theorem run_send {w : World} {sender : Nat} {notification : Notification} {now : Instant}
    (h : w.now.shift? ((takeNext sender w.replies).1.getD .success).took.nanos = some now)
    (f : Except SendError Unit × Span → Program β) :
    w.run ((Program.request (.send sender notification)).bind f) =
      (w.afterSend sender notification now).run
        (f (((takeNext sender w.replies).1.getD .success).result,
          ((takeNext sender w.replies).1.getD .success).took)) := by
  show World.run (.ask (.send sender notification) f) w = _
  simp only [run, handle, h, afterSend]

/-- The time ends while a sender is at it. -/
theorem run_send_none {w : World} {sender : Nat} {notification : Notification}
    (h : w.now.shift? ((takeNext sender w.replies).1.getD .success).took.nanos = none)
    (f : Except SendError Unit × Span → Program β) :
    (w.run ((Program.request (.send sender notification)).bind f)).2 = none := by
  show (World.run (.ask (.send sender notification) f) w).2 = none
  simp only [run, handle, h]

end World

/-! ### A small deployment -/

namespace Sample

/-- An identifier with a number. -/
def id (n : Nat) : Uuid := ⟨BitVec.ofNat 128 n⟩

/-- A message about an outage. -/
def payload : Payload :=
  { kind := .initial
    event :=
      { id := id 0
        title := "Outage"
        eventType := .incident
        status := .investigating
        severity := none
        message := ""
        services := []
        groups := []
        startedAt := none
        scheduledStartAt := none
        scheduledEndAt := none
        createdAt := .epoch }
    changes := none
    resolution := none
    eventUrl := none
    generatedAt := .epoch }

/-- A channel that gets messages. -/
def channel : Channel :=
  { id := id 1
    userId := id 2
    channelType := .telegram
    target := "1"
    enabled := true
    verified := true
    subscribeAllServices := true
    serviceIds := IdSet.ofList []
    ownerEmail := none
    createdAt := .epoch
    updatedAt := .epoch }

/-- A message for the channel. -/
def item (maxAttempts : Int32) : NewItem := .ofPayload (id 3) (id 0) (id 1) payload maxAttempts

/-- Workers with the built-in templates that send to Telegram. -/
def team (_ : Nat) : Worker := ⟨.standard, ⟨[.telegram]⟩, .standard, 10⟩

/-- A channel, and nothing to send. -/
def world : World := { World.start .epoch with store := Store.empty.insertChannel channel }

/-- An event that subscribers hear about. -/
def event : Event :=
  { id := id 0
    title := "Outage"
    eventType := .incident
    status := .investigating
    severity := none
    description := ""
    notifySubscribers := true
    startedAt := none
    scheduledStartAt := none
    scheduledEndAt := none
    resolvedAt := none
    createdAt := .epoch
    updatedAt := .epoch }

/-- An announcer that gives every message five attempts. -/
def announcer : Announcer := ⟨5, none⟩

end Sample

end Courier
