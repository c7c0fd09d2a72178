import Courier.Proofs.Announcement.Handler
import Courier.Proofs.Crew.Lined

/-!
# Proofs — Office — Machine

Workers that take turns, and handlers that fill the queue for them.  Every request of a worker or of
a handler is one step, and handlers may be at it side by side.

* `Call`: a handler that was called, with what it has queued so far.
* `Office.step`: one turn.  `Office.Run` holds of the offices that turns lead to in which time does
  not go back, workers take turns, and no row goes back to wait.
* `Office.serve_cases`, `Announcer.Asks.effect`: all that a turn of a handler can do.
* `Office.replay`: the office after a list of turns, each of which is checked.
-/

namespace Courier

/-- Nothing is left to ask. -/
def Program.isOver {α : Type} : Program α → Bool
  | .ask _ _ => false
  | _ => true

/-- What a request brings to the queue. -/
def Request.queues : (r : Request) → Option r.Answer → List Uuid
  | .store (.enqueueBatch items), some (.ok _) => items.map (·.id)
  | _, _ => []

/-- A handler that was called. -/
structure Call where
  occasion : Occasion
  /-- What is left of the handler. -/
  job : Program Nat
  /-- What it has queued. -/
  ids : List Uuid
  /-- Whether the call at a place was over when this one was made. -/
  after : Nat → Bool

/-- The call after an answer.  A handler that gets no answer has crashed. -/
def Call.hear (c : Call) (r : Request) (next : r.Answer → Program Nat) (answer : Option r.Answer) :
    Call :=
  { c with job := answer.elim .crash next, ids := c.ids ++ r.queues answer }

/-- What happens in an office. -/
inductive Turn where
  | work (m : Move)
  /-- A handler is called. -/
  | call (occasion : Occasion)
  /-- The handler that was called at a place makes its next request. -/
  | serve (i : Nat)

/-- Workers and handlers. -/
structure Office where
  crew : Crew
  /-- The calls of handlers, the first at the head. -/
  calls : List Call

namespace Office

/-- Nobody was called yet. -/
def opening (w : World) : Office := ⟨.gather w, []⟩

/-- Another world for the same workers. -/
def withWorld (o : Office) (w : World) : Crew := { o.crew with world := w }

/-- A call begins: the program of its occasion, with nothing done of it yet. -/
def call (a : Announcer) (o : Office) (occasion : Occasion) : Office :=
  { o with
    calls := o.calls ++
      [⟨occasion, occasion.program a, [], fun i => o.calls[i]?.any (·.job.isOver)⟩] }

/-- The office after a request of a handler that was handled. -/
def hear (o : Office) (i : Nat) (c : Call) (r : Request) (next : r.Answer → Program Nat)
    (handled : World × Option r.Answer) : Office :=
  ⟨o.withWorld handled.1, o.calls.set i (c.hear r next handled.2)⟩

/-- The call in a place takes a step, if it is not over. -/
def serve (o : Office) (i : Nat) : Office :=
  match o.calls[i]? with
  | none => o
  | some c =>
    match c.job with
    | .ask r next => o.hear i c r next (o.crew.world.handle r)
    | _ => o

/-- The office after a turn. -/
def step (team : Nat → Worker) (a : Announcer) (o : Office) : Turn → Office
  | .work m => { o with crew := o.crew.step team m }
  | .call occasion => o.call a occasion
  | .serve i => o.serve i

/-- A batch begins when nobody has one, and what comes into the queue is queued by handlers, under
new identifiers. -/
def Admits (o : Office) : Turn → Prop
  | .work (.begin _) => ∀ n, (o.crew.desks n).job = none
  | .work (.enqueue _) => False
  | .serve i => ∀ c items next, o.calls[i]? = some c →
      c.job = .ask (.store (.enqueueBatch items)) next → o.crew.world.store.Fresh items
  | _ => True

/-- Time does not go back, and no row goes back to wait: none is tried again, requeued or
recovered. -/
structure Onward (o o' : Office) : Prop where
  clock : o.crew.world.now.le o'.crew.world.now = true
  rows : o.crew.world.store.Onward o'.crew.world.store

/-- The offices that turns lead to. -/
inductive Run (team : Nat → Worker) (a : Announcer) (w : World) : Office → Prop where
  | start : Run team a w (.opening w)
  | step {o : Office} (h : Run team a w o) (t : Turn) (ht : o.Admits t)
      (ho : o.Onward (o.step team a t)) : Run team a w (o.step team a t)

/-- A handler makes a request, or has none to make. -/
theorem serve_cases (o : Office) (i : Nat) :
    (∃ c r next, o.calls[i]? = some c ∧ c.job = .ask r next ∧
        o.serve i = o.hear i c r next (o.crew.world.handle r)) ∨
      o.serve i = o := by
  cases hc : o.calls[i]? with
  | none => exact .inr (by rw [serve, hc])
  | some c =>
      cases hj : c.job with
      | ask r next => exact .inl ⟨c, r, next, rfl, hj, by simp only [serve, hc, hj]⟩
      | done n => exact .inr (by simp only [serve, hc, hj])
      | crash => exact .inr (by simp only [serve, hc, hj])

end Office

/-- **All that a request of a handler can do to the queue** is to append items. -/
theorem Announcer.Asks.effect {r : Request} (h : Announcer.Asks r) {w : World}
    {handled : World × Option r.Answer} (hr : w.Handled r handled) :
    handled.1.store.items = w.store.items ∧ r.queues handled.2 = [] ∨
      ∃ items, r = .store (.enqueueBatch items) ∧ r.queues handled.2 = items.map (·.id) ∧
        handled.1.store = w.store.enqueueBatch w.now items := by
  cases h with
  | enqueueBatch items =>
      cases hr with
      | failed _ hw e => exact .inl ⟨by rw [hw], rfl⟩
      | served _ hw => exact .inr ⟨items, rfl, rfl, hw⟩
  | clock =>
      cases hr
      exact .inl ⟨rfl, rfl⟩
  | mint =>
      cases hr with
      | mint hw => exact .inl ⟨by rw [hw], rfl⟩
  | _ =>
      cases hr with
      | failed _ hw e => exact .inl ⟨by rw [hw], rfl⟩
      | served _ hw => exact .inl ⟨by rw [hw]; rfl, rfl⟩

/-! ### Lists of turns -/

namespace Office

/-- Whether a turn may be taken where nobody but the first worker has a batch. -/
def admits? (o : Office) : Turn → Bool
  | .work (.begin n) => decide (n = 0) && (o.crew.desks 0).job.isNone
  | .work (.proceed n) => decide (n = 0)
  | .work _ => false
  | .call _ => true
  | .serve i =>
    match o.calls[i]? with
    | none => true
    | some c =>
      match c.job with
      | .ask (.store (.enqueueBatch items)) _ =>
        decide ((items.map (·.id)).Nodup ∧ ∀ item ∈ items, item.id ∉ o.crew.world.store.ids)
      | _ => true

/-- Whether time did not go back, and no row went back to wait. -/
def onward? (o o' : Office) : Bool :=
  o.crew.world.now.le o'.crew.world.now &&
    decide (∀ row ∈ o.crew.world.store.items, row.status ≠ .pending →
      ∀ row' ∈ o'.crew.world.store.items, row'.id = row.id → row'.status ≠ .pending)

/-- The office after turns, if each of them may be taken. -/
def replay (team : Nat → Worker) (a : Announcer) (o : Office) : List Turn → Option Office
  | [] => some o
  | t :: rest =>
    if o.admits? t && o.onward? (o.step team a t) then replay team a (o.step team a t) rest
    else none

/-- Nobody but the first worker has begun anything. -/
def Single (o : Office) : Prop := ∀ n, n ≠ 0 → o.crew.desks n = .free

variable {team : Nat → Worker} {a : Announcer} {o o' : Office} {t : Turn}

/-- The check that a turn leads on is sound. -/
theorem onward_of_onward? (h : o.onward? o' = true) : o.Onward o' := by
  obtain ⟨hclock, hrows⟩ := Bool.and_eq_true_iff.mp h
  refine ⟨hclock, fun {id row row'} hrow hs hrow' => ?_⟩
  refine of_decide_eq_true hrows row (Store.mem_of_getItem? hrow) hs row'
    (Store.mem_of_getItem? hrow') ?_
  rw [Store.id_of_getItem? hrow, Store.id_of_getItem? hrow']

/-- The check that a turn is admitted is sound, where there is one worker. -/
theorem Single.admits (hs : o.Single) (h : o.admits? t = true) : o.Admits t := by
  cases t with
  | call occasion => trivial
  | serve i =>
      intro c items next hc hj
      simp only [admits?, hc, hj, decide_eq_true_eq] at h
      exact h
  | work m =>
      cases m with
      | begin n =>
          obtain ⟨-, hnone⟩ := Bool.and_eq_true_iff.mp h
          intro k
          by_cases hk : k = 0
          · exact hk ▸ Option.isNone_iff_eq_none.mp hnone
          · rw [hs k hk]
            rfl
      | enqueue items => exact nomatch h
      | _ => trivial

/-- A turn that is admitted leaves one worker at work. -/
theorem Single.step (hs : o.Single) (h : o.admits? t = true) : (o.step team a t).Single := by
  intro k hk
  cases t with
  | call occasion => exact hs k hk
  | serve i =>
      show (o.serve i).crew.desks k = .free
      rcases o.serve_cases i with ⟨c, r, next, -, -, he⟩ | he <;> rw [he] <;> exact hs k hk
  | work m =>
      cases m with
      | begin n =>
          obtain ⟨hn, -⟩ := Bool.and_eq_true_iff.mp h
          show (o.crew.begin team n).desks k = .free
          rcases o.crew.begin_cases team n with ⟨-, he⟩ | he
          · rw [he, of_decide_eq_true hn]
            exact (Function.update_of_ne hk _ _).trans (hs k hk)
          · rw [he]
            exact hs k hk
      | proceed n =>
          show (o.crew.proceed n).desks k = .free
          rcases o.crew.proceed_cases n with ⟨r, next, -, he⟩ | he
          all_goals
            rw [he, of_decide_eq_true h]
            exact (Function.update_of_ne hk _ _).trans (hs k hk)
      | _ => exact hs k hk

/-- A replay is a run. -/
theorem Run.replay {w : World} {turns : List Turn} (h : Run team a w o) (hs : o.Single)
    (hr : o.replay team a turns = some o') : Run team a w o' := by
  induction turns generalizing o with
  | nil => exact Option.some.inj hr ▸ h
  | cons t rest ih =>
      rw [Office.replay] at hr
      split at hr
      · rename_i hok
        obtain ⟨hadmits, honward⟩ := Bool.and_eq_true_iff.mp hok
        exact ih (.step h t (hs.admits hadmits) (onward_of_onward? honward)) (hs.step hadmits) hr
      · exact nomatch hr

end Office

end Courier
