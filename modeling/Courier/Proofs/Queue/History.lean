import Mathlib.Data.List.Forall2
import Courier.Proofs.Queue.Attempts
import Courier.Proofs.Queue.Rows
import Courier.Proofs.Store.Edit
import Courier.Store.Call

/-!
# Proofs — Queue — History

What becomes of the rows of a queue.  A row comes with an origin (`QueueItem.origin`), and goes from
status to status on the ways that `QueueStatus.Leads` lists.

* `Operation.Alters`: the steps of a row, each with the operation that it belongs to;
  `Operation.alters_apply`: an operation leaves the rows at their places and takes no other step.
* `Operation.Changes`: what all of these steps leave alone.
* `rows_keep_place_and_origin`: so do any number of operations, in any order, at any times and with
  any arguments, also where they name the wrong row or none.
-/

namespace Courier

/-- From which status an item gets to which. -/
inductive QueueStatus.Leads : QueueStatus → QueueStatus → Prop where
  | claim : Leads .pending .processing
  | release : Leads .processing .pending
  | succeed : Leads .processing .sent
  | fail : Leads .processing .failed
  | requeue : Leads .failed .pending

namespace QueueItem

/-- What the item came with, and when. -/
def origin (row : QueueItem) : NewItem × Instant :=
  (⟨row.id, row.eventId, row.channelId, row.kind, row.payload, row.maxAttempts⟩, row.createdAt)

/-- The time of delivery is there exactly if the item is `sent`. -/
def Stamped (row : QueueItem) : Prop := row.sentAt.isSome = true ↔ row.status = .sent

end QueueItem

/-- The items that the rows of the queue were made from. -/
def Store.brought (s : Store) : List NewItem := s.items.map (·.origin.1)

/-- A row's identifier is among what it was brought with. -/
theorem Store.ids_eq_map_brought (s : Store) : s.ids = s.brought.map (·.id) := by
  rw [brought, List.map_map]
  rfl

/-- `f` leaves origins alone. -/
def KeepsOrigin (f : QueueItem → QueueItem) : Prop := ∀ row, (f row).origin = row.origin

theorem QueueItem.id_of_origin {row row' : QueueItem} (h : row'.origin = row.origin) :
    row'.id = row.id :=
  congrArg (·.1.id) h

theorem QueueItem.channelId_of_origin {row row' : QueueItem} (h : row'.origin = row.origin) :
    row'.channelId = row.channelId :=
  congrArg (·.1.channelId) h

theorem QueueItem.payload_of_origin {row row' : QueueItem} (h : row'.origin = row.origin) :
    row'.payload = row.payload :=
  congrArg (·.1.payload) h

namespace Store

/-- Putting a row back frees it, and counts the attempt and keeps its error where one can be
counted. -/
theorem putBack_eq (now : Instant) (error : String) (nextAttemptAt : Instant) (row : QueueItem) :
    putBack now error nextAttemptAt row = { row with status := .pending } ∨
      ∃ attempts, nextAttempt? row.attempts = some attempts ∧
        putBack now error nextAttemptAt row =
          { row with
            status := .pending, attempts, lastError := some error, nextAttemptAt,
            updatedAt := now } := by
  rw [putBack, QueueItem.retry?]
  cases h : nextAttempt? row.attempts with
  | none => exact .inl rfl
  | some attempts => exact .inr ⟨attempts, rfl, rfl⟩

theorem keepsOrigin_succeed (now : Instant) : KeepsOrigin (·.succeed now) := fun _ => rfl

theorem keepsOrigin_fail (now : Instant) (error : String) : KeepsOrigin (·.fail now error) :=
  fun _ => rfl

theorem keepsOrigin_requeue (now : Instant) : KeepsOrigin (·.requeue now) := fun _ => rfl

theorem keepsOrigin_putBack (now : Instant) (error : String) (nextAttemptAt : Instant) :
    KeepsOrigin (putBack now error nextAttemptAt) := by
  intro row
  rcases putBack_eq now error nextAttemptAt row with h | ⟨attempts, -, h⟩ <;> rw [h] <;> rfl

end Store

/-! ### One operation -/

/-- What is done to a store. -/
inductive Operation where
  | call (call : StoreCall)
  | edit (edit : Edit)
  | makeDue (id : Uuid)
  | backdate (id : Uuid) (updatedAt : Instant)

namespace Operation

/-- The store after an operation. -/
def apply (now : Instant) (s : Store) : Operation → Store
  | call c => c.serve now s
  | edit e => e.apply now s
  | makeDue id => s.makeDue now id
  | backdate id updatedAt => s.backdate id updatedAt

/-- The items that an operation brings. -/
def news : Operation → List NewItem
  | call (.enqueue item) => [item]
  | call (.enqueueBatch items) => items
  | _ => []

/-- A call or an edit: a time in a row is not set by hand. -/
def Plain : Operation → Prop
  | makeDue _ => False
  | backdate _ _ => False
  | _ => True

/-- The operation puts the item back for another attempt. -/
def Retries (id : Uuid) (op : Operation) : Prop :=
  ∃ error nextAttemptAt, op = .call (.markForRetry id error nextAttemptAt)

/-- The operation lets the item start anew. -/
def Requeues (id : Uuid) (op : Operation) : Prop := op = .call (.requeue id)

/-- What an operation may do to a row. -/
structure Changes (op : Operation) (row row' : QueueItem) : Prop where
  origin : row'.origin = row.origin
  status : row'.status = row.status ∨ row.status.Leads row'.status
  /-- Nothing happens to an item that is `sent`. -/
  sent : row.status = .sent → row' = row
  stamped : row.Stamped → row'.Stamped
  attempts : row'.attempts = row.attempts ∨
    op.Retries row.id ∧ row'.attempts.toInt = row.attempts.toInt + 1 ∨
    op.Requeues row.id ∧ row'.attempts = 0

namespace Changes

variable {op : Operation} {row : QueueItem} {now : Instant}

theorem refl (op : Operation) (row : QueueItem) : op.Changes row row :=
  ⟨rfl, .inl rfl, fun _ => rfl, id, .inl rfl⟩

/-- A step to another status, other than `sent`, that leaves the count of attempts alone. -/
theorem move {row' : QueueItem} (ho : row'.origin = row.origin)
    (hl : row.status.Leads row'.status) (hs : row'.status ≠ .sent) (ht : row'.sentAt = row.sentAt)
    (ha : row'.attempts = row.attempts ∨
      op.Retries row.id ∧ row'.attempts.toInt = row.attempts.toInt + 1 ∨
      op.Requeues row.id ∧ row'.attempts = 0) : op.Changes row row' := by
  have hne : row.status ≠ .sent := by
    intro hsent
    rw [hsent] at hl
    cases hl
  refine ⟨ho, .inr hl, fun hsent => absurd hsent hne, fun hst => ?_, ha⟩
  rw [QueueItem.Stamped] at hst ⊢
  rw [ht, hst]
  exact ⟨fun h => absurd h hne, fun h => absurd h hs⟩

/-- A claim moves a row along an edge of the life cycle. -/
theorem claim (h : row.status = .pending) : op.Changes row (row.claim now) :=
  move rfl (by rw [h]; exact .claim) nofun rfl (.inl rfl)

theorem succeed (h : row.status = .processing) : op.Changes row (row.succeed now) where
  origin := rfl
  status := .inr (by rw [h]; exact .succeed)
  sent := fun hs => nomatch h.symm.trans hs
  stamped := fun _ => by simp [QueueItem.Stamped, QueueItem.succeed]
  attempts := .inl rfl

theorem fail (h : row.status = .processing) (error : String) :
    op.Changes row (row.fail now error) :=
  move rfl (by rw [h]; exact .fail) nofun rfl (.inl rfl)

theorem recover (h : row.status = .processing) : op.Changes row (row.recover now) :=
  move rfl (by rw [h]; exact .release) nofun rfl (.inl rfl)

theorem requeue (h : row.status = .failed) :
    (call (.requeue row.id)).Changes row (row.requeue now) :=
  move rfl (by rw [h]; exact .requeue) nofun rfl (.inr (.inr ⟨rfl, rfl⟩))

/-- The count goes on by one, or stands where it ends. -/
theorem putBack (h : row.status = .processing) (error : String) (nextAttemptAt : Instant) :
    (call (.markForRetry row.id error nextAttemptAt)).Changes row
      (Store.putBack now error nextAttemptAt row) := by
  have ho := Store.keepsOrigin_putBack now error nextAttemptAt row
  rcases Store.putBack_eq now error nextAttemptAt row with he | ⟨attempts, ha, he⟩ <;>
    rw [he] at ho ⊢
  · exact move ho (by rw [h]; exact .release) nofun rfl (.inl rfl)
  · exact move ho (by rw [h]; exact .release) nofun rfl
      (.inr (.inl ⟨⟨error, nextAttemptAt, rfl⟩, toInt_nextAttempt ha⟩))

/-- A time of an item that is not `sent` is moved. -/
theorem retime {row' : QueueItem} (ho : row'.origin = row.origin) (hs : row'.status = row.status)
    (ht : row'.sentAt = row.sentAt) (ha : row'.attempts = row.attempts)
    (hne : row.status ≠ .sent) : op.Changes row row' :=
  ⟨ho, .inl hs, fun h => absurd h hne, fun h => by rwa [QueueItem.Stamped, ht, hs], .inl ha⟩

end Changes

/-! ### All rows -/

/-- What becomes of a row in an operation at a time: it stays, or takes the step that the operation
is for, from the status that the step starts from. -/
inductive Alters (now : Instant) : Operation → QueueItem → QueueItem → Prop where
  | leave {op : Operation} (row : QueueItem) : Alters now op row row
  | claim {limit : UInt32} {row : QueueItem} (h : row.isDue now = true) :
      Alters now (.call (.claimDue limit)) row (row.claim now)
  | succeed {row : QueueItem} (h : row.status = .processing) :
      Alters now (.call (.markSent row.id)) row (row.succeed now)
  | fail {row : QueueItem} (h : row.status = .processing) (error : String) :
      Alters now (.call (.markFailed row.id error)) row (row.fail now error)
  | putBack {row : QueueItem} (h : row.status = .processing) (error : String)
      (nextAttemptAt : Instant) :
      Alters now (.call (.markForRetry row.id error nextAttemptAt)) row
        (Store.putBack now error nextAttemptAt row)
  | requeue {row : QueueItem} (h : row.status = .failed) :
      Alters now (.call (.requeue row.id)) row (row.requeue now)
  | recover {olderThan : Instant} {row : QueueItem} (h : row.isStale olderThan = true) :
      Alters now (.call (.recoverStale olderThan)) row (row.recover now)
  | makeDue {row : QueueItem} (h : row.status = .pending) :
      Alters now (.makeDue row.id) row { row with nextAttemptAt := now }
  | backdate {row : QueueItem} (h : row.status = .processing) (updatedAt : Instant) :
      Alters now (.backdate row.id updatedAt) row { row with updatedAt }

/-- If the change of the row found is allowed, the rows change row by row as allowed. -/
theorem forall₂_changeFirst {R : QueueItem → QueueItem → Prop} (hr : ∀ row, R row row)
    {id : Uuid} {status : QueueStatus} {f : QueueItem → QueueItem}
    (hf : ∀ row, row.id = id → row.status = status → R row (f row)) (items : List QueueItem) :
    List.Forall₂ R items (changeFirst (·.isIn id status) f items) := by
  induction items with
  | nil => exact .nil
  | cons row rest ih =>
      by_cases h : row.isIn id status = true
      · rw [changeFirst, if_pos h]
        exact .cons (hf row (isIn_iff.mp h).1 (isIn_iff.mp h).2)
          (List.forall₂_same.mpr fun other _ => hr other)
      · rw [changeFirst, if_neg h]
        exact .cons (hr row) ih

theorem forall₂_map {R : QueueItem → QueueItem → Prop} {f : QueueItem → QueueItem}
    {items : List QueueItem} (hf : ∀ row ∈ items, R row (f row)) :
    List.Forall₂ R items (items.map f) :=
  List.forall₂_map_right_iff.mpr (List.forall₂_same.mpr hf)

/-- A claim changes rows that were due, at whatever places. -/
theorem forall₂_claimDue (now : Instant) (limit : UInt32) (s : Store) :
    List.Forall₂ (Alters now (.call (.claimDue limit))) s.items
      (s.claimDue now limit).items := by
  refine List.forall₂_iff_get.mpr ⟨by simp [Store.claimDue], fun i hi hi' => ?_⟩
  simp only [Store.claimDue, List.get_eq_getElem, List.getElem_map, List.getElem_zipIdx,
    Nat.zero_add]
  split
  · rename_i hplace
    obtain ⟨entry, hentry, rfl⟩ := List.mem_map.mp hplace
    obtain ⟨hrow, hdue⟩ := Store.mem_claimable hentry
    rw [List.getElem?_eq_getElem hi] at hrow
    rw [Option.some.inj hrow]
    exact .claim hdue
  · exact .leave _

/-- **An operation takes each row at its place**, as `Alters` says, and appends the rows that it
brings. -/
theorem alters_apply (op : Operation) (now : Instant) (s : Store) :
    ∃ rows, (op.apply now s).items = rows ++ op.news.map (·.enter now) ∧
      List.Forall₂ (op.Alters now) s.items rows := by
  have hleave : ∀ row, op.Alters now row row := .leave
  have hsame : List.Forall₂ (op.Alters now) s.items s.items :=
    List.forall₂_same.mpr fun row _ => .leave row
  have hkept : ∀ {rows : List QueueItem}, (op.apply now s).items = rows → op.news = [] →
      List.Forall₂ (op.Alters now) s.items rows →
      ∃ rows, (op.apply now s).items = rows ++ op.news.map (·.enter now) ∧
        List.Forall₂ (op.Alters now) s.items rows := by
    intro rows happly hnews hrows
    exact ⟨rows, by rw [happly, hnews, List.map_nil, List.append_nil], hrows⟩
  cases op with
  | edit e => exact hkept (e.items_apply now s) rfl hsame
  | makeDue id =>
      exact hkept rfl rfl (forall₂_changeFirst hleave (fun _ hid hs => hid ▸ .makeDue hs) _)
  | backdate id updatedAt =>
      exact hkept rfl rfl
        (forall₂_changeFirst hleave (fun _ hid hs => hid ▸ .backdate hs updatedAt) _)
  | call c =>
      cases c with
      | enqueue item => exact ⟨_, rfl, hsame⟩
      | enqueueBatch items => exact ⟨_, rfl, hsame⟩
      | claimDue limit => exact hkept rfl rfl (forall₂_claimDue now limit s)
      | markSent id =>
          exact hkept rfl rfl (forall₂_changeFirst hleave (fun _ hid hs => hid ▸ .succeed hs) _)
      | markFailed id error =>
          exact hkept rfl rfl
            (forall₂_changeFirst hleave (fun _ hid hs => hid ▸ .fail hs error) _)
      | markForRetry id error nextAttemptAt =>
          exact hkept rfl rfl
            (forall₂_changeFirst hleave (fun _ hid hs => hid ▸ .putBack hs error nextAttemptAt) _)
      | requeue id =>
          exact hkept rfl rfl (forall₂_changeFirst hleave (fun _ hid hs => hid ▸ .requeue hs) _)
      | recoverStale olderThan =>
          refine hkept rfl rfl (forall₂_map fun row _ => ?_)
          cases h : row.isStale olderThan with
          | true => exact .recover h
          | false => exact .leave _
      | _ => exact hkept rfl rfl hsame

/-- A row that waits is claimed when it is due, or stays as it is. -/
theorem Alters.of_pending {op : Operation} {now : Instant} {row row' : QueueItem}
    (h : op.Alters now row row') (hop : op.Plain) (hs : row.status = .pending) :
    row' = row ∨ row.isDue now = true := by
  cases h with
  | leave => exact .inl rfl
  | claim hdue => exact .inr hdue
  | makeDue => exact hop.elim
  | backdate => exact hop.elim
  | recover hstale => cases hs.symm.trans (QueueItem.isStale_iff.mp hstale).1
  | succeed h => cases hs.symm.trans h
  | fail h => cases hs.symm.trans h
  | putBack h => cases hs.symm.trans h
  | requeue h => cases hs.symm.trans h

/-- What an operation alters in a row is a change the life cycle allows. -/
theorem Alters.changes {op : Operation} {now : Instant} {row row' : QueueItem}
    (h : op.Alters now row row') : op.Changes row row' := by
  cases h with
  | leave => exact .refl op row
  | claim h => exact .claim (Store.pending_of_isDue h)
  | succeed h => exact .succeed h
  | fail h error => exact .fail h error
  | putBack h error nextAttemptAt => exact .putBack h error nextAttemptAt
  | requeue h => exact .requeue h
  | recover h => exact .recover (QueueItem.isStale_iff.mp h).1
  | makeDue h => exact .retime rfl rfl rfl rfl (h ▸ nofun)
  | backdate h updatedAt => exact .retime rfl rfl rfl rfl (h ▸ nofun)

/-- Related lists of rows find related rows. -/
theorem exists_find?_of_forall₂ {R : QueueItem → QueueItem → Prop}
    (hid : ∀ {row row'}, R row row' → row'.id = row.id) {items rows : List QueueItem}
    (h : List.Forall₂ R items rows) {k : Uuid} {row : QueueItem}
    (hrow : items.find? (fun item => item.id = k) = some row) :
    ∃ row', rows.find? (fun item => item.id = k) = some row' ∧ R row row' := by
  induction h with
  | nil => cases hrow
  | @cons first first' rest rest' hfirst _ ih =>
      by_cases hk : first.id = k
      · rw [List.find?_cons_of_pos (by simpa using hk)] at hrow
        rw [List.find?_cons_of_pos (by simpa using (hid hfirst).trans hk)]
        exact ⟨first', rfl, Option.some.inj hrow ▸ hfirst⟩
      · rw [List.find?_cons_of_neg (by simpa using hk)] at hrow
        rw [List.find?_cons_of_neg (by simpa [hid hfirst] using hk)]
        exact ih hrow

/-- An operation takes the row of an identifier as `Alters` says. -/
theorem exists_getItem?_apply {s : Store} {k : Uuid} {row : QueueItem}
    (h : s.getItem? k = some row) (op : Operation) (now : Instant) :
    ∃ row', (op.apply now s).getItem? k = some row' ∧ op.Alters now row row' := by
  obtain ⟨rows, hitems, hrows⟩ := op.alters_apply now s
  obtain ⟨row', hrow', halters⟩ := exists_find?_of_forall₂
    (fun halters => QueueItem.id_of_origin halters.changes.origin) hrows h
  refine ⟨row', ?_, halters⟩
  rw [Store.getItem?, hitems, List.find?_append, hrow', Option.some_or]

/-- **An operation leaves each row at its place**, changed at most as `Changes` says, and appends
the rows that it brings. -/
theorem items_apply (op : Operation) (now : Instant) (s : Store) :
    ∃ rows, (op.apply now s).items = rows ++ op.news.map (·.enter now) ∧
      List.Forall₂ op.Changes s.items rows := by
  obtain ⟨rows, hitems, hrows⟩ := op.alters_apply now s
  exact ⟨rows, hitems, hrows.imp fun _ _ h => h.changes⟩

/-- An operation leaves what the rows were made from, and appends what it brings. -/
theorem brought_apply_eq (op : Operation) (now : Instant) (s : Store) :
    (op.apply now s).brought = s.brought ++ op.news := by
  obtain ⟨rows, hitems, hrows⟩ := op.items_apply now s
  have horigins : List.Forall₂ Eq (s.items.map (·.origin.1)) (rows.map (·.origin.1)) :=
    List.forall₂_map_left_iff.mpr (List.forall₂_map_right_iff.mpr
      (hrows.imp fun _ _ hc => (congrArg Prod.fst hc.origin).symm))
  rw [List.forall₂_eq_eq_eq] at horigins
  rw [Store.brought, hitems, List.map_append, ← horigins, List.map_map]
  exact congrArg _ (List.map_id _)

/-- An operation leaves the identifiers, and appends those that it brings. -/
theorem ids_apply_eq (op : Operation) (now : Instant) (s : Store) :
    (op.apply now s).ids = s.ids ++ op.news.map (·.id) := by
  rw [Store.ids_eq_map_brought, Store.ids_eq_map_brought, brought_apply_eq, List.map_append]

/-- A row after an operation was there before with its origin, or was brought. -/
theorem mem_items_apply {op : Operation} {now : Instant} {s : Store} {row' : QueueItem}
    (h : row' ∈ (op.apply now s).items) :
    (∃ row ∈ s.items, op.Changes row row') ∨ ∃ item ∈ op.news, row' = item.enter now := by
  obtain ⟨rows, hitems, hrows⟩ := op.items_apply now s
  rw [hitems, List.mem_append] at h
  rcases h with h | h
  · obtain ⟨i, hi', rfl⟩ := List.getElem_of_mem h
    have hi : i < s.items.length := hrows.length_eq ▸ hi'
    exact .inl ⟨_, List.getElem_mem hi, hrows.get hi hi'⟩
  · obtain ⟨item, hitem, rfl⟩ := List.mem_map.mp h
    exact .inr ⟨item, hitem, rfl⟩

end Operation

/-! ### Any number of operations -/

/-- The store after operations, each at its time. -/
def Store.after (s : Store) (ops : List (Instant × Operation)) : Store :=
  ops.foldl (fun s op => op.2.apply op.1 s) s

/-- What a row may come to. -/
structure QueueItem.Becomes (row row' : QueueItem) : Prop where
  origin : row'.origin = row.origin
  sent : row.status = .sent → row' = row

namespace QueueItem.Becomes

/-- A row has become itself. -/
theorem refl (row : QueueItem) : row.Becomes row := ⟨rfl, fun _ => rfl⟩

theorem trans {a b c : QueueItem} (h : a.Becomes b) (h' : b.Becomes c) : a.Becomes c := by
  refine ⟨h'.origin.trans h.origin, fun hs => ?_⟩
  have hb := h.sent hs
  exact (h'.sent (hb.symm ▸ hs)).trans hb

end QueueItem.Becomes

namespace Store

/-- Each row of `s` stands in `t` where it stood, and is what it may have come to. -/
def Extends (s t : Store) : Prop :=
  ∀ (i : Nat) (row : QueueItem), s.items[i]? = some row →
    ∃ row', t.items[i]? = some row' ∧ row.Becomes row'

theorem Extends.refl (s : Store) : s.Extends s := fun _ row h => ⟨row, h, .refl row⟩

theorem Extends.trans {s t u : Store} (h : s.Extends t) (h' : t.Extends u) : s.Extends u := by
  intro i row hrow
  obtain ⟨row', hrow', hb⟩ := h i row hrow
  obtain ⟨row'', hrow'', hb'⟩ := h' i row' hrow'
  exact ⟨row'', hrow'', hb.trans hb'⟩

/-- An operation keeps every row, in its place and with its origin. -/
theorem extends_apply (op : Operation) (now : Instant) (s : Store) :
    s.Extends (op.apply now s) := by
  intro i row hrow
  obtain ⟨rows, hitems, hrows⟩ := op.items_apply now s
  obtain ⟨hi, rfl⟩ := List.getElem?_eq_some_iff.mp hrow
  have hi' : i < rows.length := hrows.length_eq ▸ hi
  have hchange := hrows.get hi hi'
  refine ⟨rows[i], ?_, hchange.origin, hchange.sent⟩
  rw [hitems, List.getElem?_append_left hi', List.getElem?_eq_getElem hi']

/-- So does a history. -/
theorem extends_after (s : Store) (ops : List (Instant × Operation)) : s.Extends (s.after ops) := by
  induction ops generalizing s with
  | nil => exact .refl s
  | cons op rest ih => exact (extends_apply op.2 op.1 s).trans (ih _)

/-- An operation keeps every sent row stamped. -/
theorem stamped_apply (op : Operation) (now : Instant) {s : Store}
    (h : ∀ row ∈ s.items, row.Stamped) : ∀ row ∈ (op.apply now s).items, row.Stamped := by
  intro row hrow
  rcases Operation.mem_items_apply hrow with ⟨before, hbefore, hchange⟩ | ⟨item, -, rfl⟩
  · exact hchange.stamped (h before hbefore)
  · simp [QueueItem.Stamped, NewItem.enter]

/-- So does a history. -/
theorem stamped_after (ops : List (Instant × Operation)) {s : Store}
    (h : ∀ row ∈ s.items, row.Stamped) : ∀ row ∈ (s.after ops).items, row.Stamped := by
  induction ops generalizing s with
  | nil => exact h
  | cons op rest ih => exact ih (stamped_apply op.2 op.1 h)

end Store

/-- **No operation removes a row, moves it or touches its origin.**  In a queue that operations have
made out of an empty one, each operation changes the rows only as `Operation.Changes` says and appends
what it brings; whatever is done later, each row stays at its place with its origin, and for good once
it is `sent`; and exactly the rows that are `sent` have a time of delivery. -/
theorem rows_keep_place_and_origin (earlier later : List (Instant × Operation)) (now : Instant)
    (op : Operation) :
    let s := Store.empty.after earlier
    (∃ rows, (op.apply now s).items = rows ++ op.news.map (·.enter now) ∧
        List.Forall₂ op.Changes s.items rows) ∧
      s.Extends (s.after later) ∧ ∀ row ∈ s.items, row.Stamped :=
  ⟨op.items_apply now _, Store.extends_after _ later,
    Store.stamped_after earlier (List.forall_mem_nil _)⟩

end Courier
