import Courier.Proofs.Time.Instant
import Courier.Proofs.World

/-!
# Proofs — Course

How a program runs when time passes as it likes.  Before each request the clock may be set to any
time that is not earlier; `Program.Ensures` says that on each such course the program gets all its
answers, and ends in a world and with a value that meet a post-condition.

* `Ensures.bind`, and one rule for each kind of request.
* `Program.Looks`: a program that only looks.
* `Ensures.run`: what is ensured holds of the run in which the clock stands still.
-/

namespace Courier

namespace World

/-- The world later: time passed, and nothing else happened that the store, the senders or the
identifiers would show. -/
structure Later (w w' : World) : Prop where
  store : w'.store = w.store
  minted : w'.minted = w.minted
  replies : w'.replies = w.replies
  faults : w'.faults = w.faults
  sent : w'.sent = w.sent
  now : w.now.le w'.now = true

namespace Later

variable {w w' w'' : World}

theorem refl (w : World) : w.Later w := ⟨rfl, rfl, rfl, rfl, rfl, Instant.le_refl w.now⟩

/-- What is later than a later world is later. -/
theorem trans (h : w.Later w') (h' : w'.Later w'') : w.Later w'' :=
  ⟨h'.store.trans h.store, h'.minted.trans h.minted, h'.replies.trans h.replies,
    h'.faults.trans h.faults, h'.sent.trans h.sent, Instant.le_trans h.now h'.now⟩

/-- To wait is no more than time that passes. -/
theorem wait {now : Instant} (h : w.now.le now = true) : w.Later { w with now } :=
  ⟨rfl, rfl, rfl, rfl, rfl, h⟩

/-- Something was counted. -/
theorem counted (w : World) (m : Measurement) : w.Later { w with metrics := m.record w.metrics } :=
  ⟨rfl, rfl, rfl, rfl, rfl, Instant.le_refl w.now⟩

end Later

end World

namespace Program

variable {α β : Type} {P : World → α → Prop} {Q : World → β → Prop}

/-- On each course of time, the program ends in a world and with a value that meet the
post-condition. -/
def Ensures {α : Type} (Q : World → α → Prop) : Program α → World → Prop
  | .done a, w => Q w a
  | .crash, _ => False
  | .ask r next, w => ∀ now, w.now.le now = true → ∃ w' answer,
      World.handle { w with now } r = (w', some answer) ∧ Ensures Q (next answer) w'

namespace Ensures

variable {w : World}

/-- What one program ensures is what the next may rely on. -/
theorem bind {p : Program α} {f : α → Program β} (h : p.Ensures P w)
    (hf : ∀ w' a, P w' a → (f a).Ensures Q w') : (p.bind f).Ensures Q w := by
  induction p generalizing w with
  | done a => exact hf w a h
  | crash => exact h.elim
  | ask r next ih =>
      intro now hnow
      obtain ⟨w', answer, hhandle, hnext⟩ := h now hnow
      exact ⟨w', answer, hhandle, ih answer hnext⟩

/-- A program that ensures more ensures less. -/
theorem mono {Q : World → α → Prop} {p : Program α} (h : p.Ensures P w)
    (hq : ∀ w' a, P w' a → Q w' a) : p.Ensures Q w := by
  rw [← bind_done p]
  exact h.bind hq

/-- What is ensured holds of the run in which the clock stands still. -/
theorem run {p : Program α} (h : p.Ensures P w) :
    ∃ w' a, w.run p = (w', some a) ∧ P w' a := by
  induction p generalizing w with
  | done a => exact ⟨w, a, rfl, h⟩
  | crash => exact h.elim
  | ask r next ih =>
      obtain ⟨w', answer, hhandle, hnext⟩ := h w.now (Instant.le_refl w.now)
      obtain ⟨w'', a, hrun, ha⟩ := ih answer hnext
      refine ⟨w'', a, ?_, ha⟩
      rw [World.run, hhandle]
      exact hrun

/-! ### Requests -/

/-- A call of a store that does not fail. -/
theorem call (hf : w.faults = .empty) {c : StoreCall}
    {f : Except StoreError c.Result → Program β}
    (h : ∀ w', w.Later w' → ∃ a, c.answer? w'.now w'.store = some a ∧
      (f (.ok a)).Ensures Q { w' with store := c.serve w'.now w'.store }) :
    ((Program.call c).bind f).Ensures Q w := by
  intro now hnow
  obtain ⟨a, ha, hnext⟩ := h _ (.wait hnow)
  refine ⟨_, .ok a, ?_, hnext⟩
  rw [World.handle_store (w := { w with now }) hf c, ha]
  rfl

/-- A call that only asks. -/
theorem read (hf : w.faults = .empty) {c : StoreCall} (hs : ∀ now s, c.serve now s = s)
    {f : Except StoreError c.Result → Program β}
    (h : ∀ w', w.Later w' → ∃ a, c.answer? w'.now w'.store = some a ∧ (f (.ok a)).Ensures Q w') :
    ((Program.call c).bind f).Ensures Q w := by
  refine Ensures.call hf fun w' hw' => ?_
  obtain ⟨a, ha, hnext⟩ := h w' hw'
  rw [hs]
  exact ⟨a, ha, hnext⟩

/-- The clock tells the time of a later world. -/
theorem clock {f : Instant → Program β} (h : ∀ w', w.Later w' → (f w'.now).Ensures Q w') :
    ((request .clock).bind f).Ensures Q w :=
  fun _ hnow => ⟨_, _, rfl, h _ (.wait hnow)⟩

/-- A minted identifier has the number of those minted before. -/
theorem mint {f : Uuid → Program β}
    (h : ∀ w', w.Later w' → (f (World.mintedId w.minted)).Ensures Q
      { w' with minted := w.minted + 1 }) : ((request .mint).bind f).Ensures Q w :=
  fun _ hnow => ⟨_, _, rfl, h _ (.wait hnow)⟩

/-- A measurement changes nothing that counts here. -/
theorem measure {m : Measurement} {f : Unit → Program β}
    (h : ∀ w', w.Later w' → (f ()).Ensures Q w') : ((Program.measure m).bind f).Ensures Q w :=
  fun _ hnow => ⟨_, _, rfl, h _ ((World.Later.wait hnow).trans (.counted _ m))⟩

/-- A sender that takes what it gets. -/
theorem send (hr : w.replies = .empty) {place : Nat} {n : Notification}
    {f : Except SendError Unit × Span → Program β}
    (h : ∀ w', w.Later w' → (f (.ok (), ⟨0⟩)).Ensures Q
      { w' with sent := ⟨place, n, true⟩ :: w.sent }) :
    ((request (.send place n)).bind f).Ensures Q w := by
  intro now hnow
  refine ⟨_, _, ?_, h _ (.wait hnow)⟩
  obtain ⟨store, metrics, start, minted, replies, faults, sent⟩ := w
  subst hr
  have hshift : now.shift? Reply.success.took.nanos = some now := now.shift?_zero
  simp only [World.handle, World.takeNext, Table.get?, Table.empty, Table.find?, Option.getD_none,
    hshift]
  rfl

end Ensures

/-! ### Programs that only look -/

/-- The program only looks, and comes to a value that meets the post-condition. -/
def Looks (P : α → Prop) (p : Program α) : Prop :=
  ∀ w : World, w.faults = .empty → p.Ensures (fun w' a => w.Later w' ∧ P a) w

namespace Looks

variable {Q : β → Prop}

theorem done {b : β} (h : Q b) : (Program.done b).Looks Q := fun w _ => ⟨.refl w, h⟩

/-- A call that only looks up answers without fail. -/
theorem read {c : StoreCall} (hs : ∀ now s, c.serve now s = s)
    (ha : ∀ now s, (c.answer? now s).isSome = true)
    {f : Except StoreError c.Result → Program β} (hf : ∀ a, (f (.ok a)).Looks Q) :
    ((Program.call c).bind f).Looks Q := by
  intro w hw
  refine Ensures.read hw hs fun w' hlater => ?_
  obtain ⟨a, ha⟩ := Option.isSome_iff_exists.mp (ha w'.now w'.store)
  refine ⟨a, ha, (hf a w' (hlater.faults.trans hw)).mono fun w'' b ⟨hlater', hb⟩ => ?_⟩
  exact ⟨hlater.trans hlater', hb⟩

theorem clock {f : Instant → Program β} (hf : ∀ now, (f now).Looks Q) :
    ((request .clock).bind f).Looks Q := by
  intro w hw
  refine Ensures.clock fun w' hlater => ?_
  exact (hf w'.now w' (hlater.faults.trans hw)).mono fun w'' b ⟨hlater', hb⟩ =>
    ⟨hlater.trans hlater', hb⟩

end Looks

end Program

end Courier
