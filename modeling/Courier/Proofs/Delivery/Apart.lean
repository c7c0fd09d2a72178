import Courier.Proofs.Crew.Machine

/-!
# Proofs — Delivery — Apart

A worker that is at an item neither sees nor touches the rows of others.

* `World.beside`: other rows changed, and more claims counted.
* `processItem_beside`: to process an item and to change the rows of others, in either order, comes
  to the same.
* `World.reports`: whose end a run reports to the store, in order.  `processAll_reports`: one report
  for each item.
-/

namespace Courier

/-! ### What a run asks -/

namespace World

variable {α β : Type}

/-- The requests of a run, in order. -/
def asks : Program α → World → List Request
  | .done _, _ => []
  | .crash, _ => []
  | .ask r next, w =>
    r :: match w.handle r with
      | (w, some answer) => asks (next answer) w
      | (_, none) => []

/-- The items whose end a run reports, in order. -/
def reports (w : World) (p : Program α) : List Uuid := (asks p w).filterMap Request.report?

@[simp] theorem reports_done (w : World) (a : α) : w.reports (.done a) = [] := rfl

/-- A request that is answered reports what it reports, before what the rest of the run does. -/
theorem reports_ask {w w' : World} {r : Request} {next : r.Answer → Program α}
    {answer : r.Answer} (h : w.handle r = (w', some answer)) :
    w.reports (.ask r next) = r.report?.toList ++ w'.reports (next answer) := by
  rw [reports, asks, h]
  cases hr : r.report? with
  | none => exact List.filterMap_cons_none hr
  | some id => exact List.filterMap_cons_some hr

/-- A run that goes on with another reports what both report, in turn. -/
theorem reports_bind {p : Program α} {w w' : World} {a : α} (h : w.run p = (w', some a))
    (f : α → Program β) : w.reports (p.bind f) = w.reports p ++ w'.reports (f a) := by
  induction p generalizing w with
  | done b =>
      obtain ⟨rfl, hb⟩ := Prod.mk.inj h
      rw [Program.done_bind, Option.some.inj hb, reports_done, List.nil_append]
  | crash => cases (Prod.mk.inj h).2
  | ask r next ih =>
      rw [run] at h
      cases hr : w.handle r with
      | mk w₁ answer =>
          rw [hr] at h
          cases answer with
          | none => cases (Prod.mk.inj h).2
          | some answer =>
              rw [Program.ask_bind, reports_ask hr, reports_ask hr, ih answer h, List.append_assoc]

end World

/-! ### A worker at an item -/

/-- The batch is claimed and counted. -/
def Stage.Begun : Stage → Prop
  | start => False
  | claimed _ => False
  | _ => True

namespace Permits

variable {worker : Worker} {t : Stage} {r : Request}

/-- Where the clock is read for another attempt, the stage keeps that. -/
theorem next_clock {item : QueueItem} {setback : Setback} (hi : t.item? = some item)
    (hs : t.setback? = some setback) (now : Instant) :
    t.next .clock now = .timed item t.todo.tail setback now := by
  simp only [Stage.next, Stage.time, hi, hs]

/-- A worker that has begun an item stays at one. -/
theorem begun (h : Permits worker t r) (ht : t.Begun) (answer : r.Answer) :
    (t.next r answer).Begun := by
  cases h with
  | wait hi hs hl =>
      rw [next_clock hi hs]
      trivial
  | claim => exact ht.elim
  | _ => trivial

/-- What is reported and what is then to be processed is what was to be processed. -/
theorem report_append_todo (h : Permits worker t r) (ht : t.Begun) (answer : r.Answer) :
    r.report?.toList ++ (t.next r answer).todo.map (·.id) = t.todo.map (·.id) := by
  cases h with
  | claim => exact ht.elim
  | fail h =>
      rw [Stage.todo_of_item? h.item?]
      rfl
  | wait hi hs hl => exact congrArg (List.map (·.id)) (t.todo_time answer)
  | _ => rfl

end Permits

section

variable {α : Type} {worker : Worker} {Q : Stage → α → Prop} {p : Program α} {t : Stage}

/-- A run that ends has reported the items that were to be processed and no longer are. -/
theorem Program.Follows.reports {w w' : World} {a : α} (h : p.Follows worker.rules Q t)
    (ht : t.Begun) (hrun : w.run p = (w', some a)) :
    ∃ t', Q t' a ∧ w.reports p ++ t'.todo.map (·.id) = t.todo.map (·.id) := by
  induction p generalizing w t with
  | done b =>
      obtain ⟨-, hb⟩ := Prod.mk.inj hrun
      exact ⟨t, Option.some.inj hb ▸ h, rfl⟩
  | crash => cases (Prod.mk.inj hrun).2
  | ask r next ih =>
      rw [World.run] at hrun
      cases hr : w.handle r with
      | mk w₁ answer =>
          rw [hr] at hrun
          cases answer with
          | none => cases (Prod.mk.inj hrun).2
          | some answer =>
              obtain ⟨hp, hnext⟩ := h
              obtain ⟨t', hq, he⟩ := ih answer (hnext answer) (hp.begun ht answer) hrun
              refine ⟨t', hq, ?_⟩
              rw [World.reports_ask hr, List.append_assoc, he]
              exact hp.report_append_todo ht answer

end

/-! ### Rows of others -/

/-- The rows of all but one item changed, and their identifiers kept. -/
structure SparesRow (id : Uuid) (g : QueueItem → QueueItem) : Prop where
  keepsId : KeepsId g
  spares : ∀ row, row.id = id → g row = row

/-- Every row changed. -/
def Store.mapRows (g : QueueItem → QueueItem) (s : Store) : Store :=
  { s with items := s.items.map g }

namespace SparesRow

variable {id : Uuid} {g : QueueItem → QueueItem}

theorem isIn_eq (hg : SparesRow id g) (status : QueueStatus) (row : QueueItem) :
    (g row).isIn id status = row.isIn id status := by
  by_cases h : row.id = id
  · rw [hg.spares row h]
  · have hne : (g row).id ≠ id := fun he => h ((hg.keepsId row).symm.trans he)
    simp [QueueItem.isIn, h, hne]

/-- To change the row at hand and rows of others, in either order, comes to the same. -/
theorem change_mapRows (hg : SparesRow id g) {f : QueueItem → QueueItem} (hf : KeepsId f)
    (status : QueueStatus) (s : Store) :
    (s.mapRows g).change id status f = (s.change id status f).mapRows g := by
  have hitems : ∀ items : List QueueItem, changeFirst (·.isIn id status) f (items.map g) =
      (changeFirst (·.isIn id status) f items).map g := by
    intro items
    induction items with
    | nil => rfl
    | cons row rest ih =>
        rw [List.map_cons, changeFirst, changeFirst, hg.isIn_eq]
        by_cases h : row.isIn id status = true
        · have hid := (isIn_iff.mp h).1
          rw [if_pos h, if_pos h, List.map_cons, hg.spares row hid,
            hg.spares (f row) ((hf row).trans hid)]
        · rw [if_neg h, if_neg h, List.map_cons, ih]
  exact congrArg (fun items => { s with items }) (hitems s.items)

/-- The row at hand is found, whatever becomes of the rows of others. -/
theorem findIn?_mapRows (hg : SparesRow id g) (status : QueueStatus) (s : Store) :
    (s.mapRows g).findIn? id status = s.findIn? id status := by
  show (s.items.map g).find? _ = _
  rw [List.find?_map]
  have hsame : (fun row : QueueItem => row.isIn id status) ∘ g = (·.isIn id status) :=
    funext (hg.isIn_eq status)
  rw [hsame]
  cases h : s.items.find? (·.isIn id status) with
  | none => exact h.symm
  | some row =>
      have hid := (isIn_iff.mp (List.find?_some h)).1
      rw [Option.map_some, hg.spares row hid]
      exact h.symm

theorem canRetry_mapRows (hg : SparesRow id g) (s : Store) :
    (s.mapRows g).canRetry id = s.canRetry id := by
  rw [Store.canRetry, Store.canRetry, hg.findIn?_mapRows]

end SparesRow

/-- Other rows, and more claims counted. -/
def World.beside (g : QueueItem → QueueItem) (n : Nat) (w : World) : World :=
  { w with store := w.store.mapRows g, metrics := w.metrics.recordFetched n }

/-- A request for which it does not matter what other rows there are, and which leaves them. -/
def Request.Spares (g : QueueItem → QueueItem) (n : Nat) (r : Request) : Prop :=
  ∀ w : World, (w.beside g n).handle r = ((w.handle r).1.beside g n, (w.handle r).2)

section

variable {g : QueueItem → QueueItem} {n : Nat}

/-- A call that neither sees nor touches the rows of others. -/
theorem spares_call {call : StoreCall}
    (hserve : ∀ now s, call.serve now (s.mapRows g) = (call.serve now s).mapRows g)
    (hanswer : ∀ now s, call.answer? now (s.mapRows g) = call.answer? now s) :
    (Request.store call).Spares g n := by
  intro w
  simp only [World.handle, World.beside, hserve, hanswer]
  cases (World.takeNext call.name w.faults).1 with
  | none => rfl
  | some fault => cases fault <;> rfl

/-- To call a sender neither sees nor touches rows. -/
theorem spares_send (sender : Nat) (notification : Notification) :
    (Request.send sender notification).Spares g n := by
  intro w
  simp only [World.handle, World.beside]
  cases w.now.shift? ((World.takeNext sender w.replies).1.getD .success).took.nanos <;> rfl

/-- What a worker asks that is at an item spares the rows of others. -/
theorem Permits.spares {worker : Worker} {t : Stage} {r : Request} {id : Uuid}
    (h : Permits worker t r) (ht : t.Begun) (hid : ∀ k ∈ t.todo.map (·.id), k = id)
    (hg : SparesRow id g) : r.Spares g n := by
  cases h with
  | claim => exact ht.elim
  | fetched items => exact ht.elim
  | look item rest => exact spares_call (fun _ _ => rfl) fun _ _ => rfl
  | send item rest hv he hm hs => exact spares_send _ _
  | sendTime item rest channel result took => exact fun w => rfl
  | succeed item rest channel =>
      obtain rfl := hid item.id List.mem_cons_self
      exact spares_call (fun now s => hg.change_mapRows (Store.keepsId_succeed now) _ s)
        fun _ _ => rfl
  | @fail _ item reason h =>
      obtain rfl := hid item.id (Stage.todo_of_item? h.item? ▸ List.mem_cons_self)
      exact spares_call (fun now s => hg.change_mapRows (Store.keepsId_fail now reason) _ s)
        fun _ _ => rfl
  | wait hi hs hl => exact fun w => rfl
  | @putBack item rest setback now at_ wait hl hw ht =>
      obtain rfl := hid item.id List.mem_cons_self
      refine spares_call (fun t s => hg.change_mapRows (Store.keepsId_putBack t _ at_) _ s)
        fun _ s => ?_
      simp only [StoreCall.answer?, hg.canRetry_mapRows]
  | outcome rest label o => exact fun w => rfl

end

section

variable {α : Type} {worker : Worker} {Q : Stage → α → Prop} {p : Program α} {t : Stage}
  {id : Uuid} {g : QueueItem → QueueItem}

/-- A program that is at one item runs beside others as it does alone. -/
theorem Program.Follows.run_beside (h : p.Follows worker.rules Q t) (ht : t.Begun)
    (hid : ∀ k ∈ t.todo.map (·.id), k = id) (hg : SparesRow id g) (n : Nat) (w : World) :
    (w.beside g n).run p = ((w.run p).1.beside g n, (w.run p).2) := by
  induction p generalizing w t with
  | done a => rfl
  | crash => rfl
  | ask r next ih =>
      obtain ⟨hp, hnext⟩ := h
      rw [World.run, World.run, hp.spares ht hid hg w]
      cases w.handle r with
      | mk w₁ answer =>
          cases answer with
          | none => rfl
          | some answer =>
              refine ih answer (hnext answer) (hp.begun ht answer) (fun k hk => hid k ?_) w₁
              rw [← hp.report_append_todo ht answer]
              exact List.mem_append_right _ hk

end

namespace Worker

variable {worker : Worker} {item : QueueItem} {w w' : World}

/-- **To process an item and to change the rows of others comes to the same in either order.** -/
theorem processItem_beside (worker : Worker) {g : QueueItem → QueueItem}
    (hg : SparesRow item.id g) (n : Nat) (w : World) :
    (w.beside g n).run (worker.processItem item) =
      ((w.run (worker.processItem item)).1.beside g n,
        (w.run (worker.processItem item)).2) := by
  refine (processItem_follows item []).run_beside trivial (fun k hk => ?_) hg n w
  exact List.mem_singleton.mp hk

/-- A batch reports each of its items once, in order. -/
theorem processAll_reports {items : List QueueItem}
    (h : w.run (worker.processAll items) = (w', some ())) :
    w.reports (worker.processAll items) = items.map (·.id) := by
  obtain ⟨t, ht, he⟩ := (processAll_follows items).reports trivial h
  rw [ht] at he
  exact (List.append_nil _).symm.trans he

end Worker

end Courier
