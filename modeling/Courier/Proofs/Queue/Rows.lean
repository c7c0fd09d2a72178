import Mathlib.Data.List.Nodup
import Courier.Proofs.Order
import Courier.Store

/-!
# Proofs — Queue — Rows

The queue read as a map from identifiers to rows.  `Store.getItem?` is the look-up, `Store.ids` the
keys; where the keys are distinct (`Store.Distinct`) each step of the queue is said in one equation
that gives the look-up after it by the look-up before.

* `getItem?_change`: a step from one status changes the row of its identifier, if it stands in that
  status, and no other row.  `markSent`, `markFailed`, `markForRetry` and `requeue` are such steps.
* `getItem?_claimDue`: a claim changes exactly the rows that it hands out (`mem_claimed`).
* `getItem?_recoverStale`, `getItem?_enqueueBatch`: the two steps that name no single row.
-/

namespace Courier

/-- The change that `f` makes to the rows that stand in `status` under `id`. -/
def QueueItem.changeIn (id : Uuid) (status : QueueStatus) (f : QueueItem → QueueItem)
    (row : QueueItem) : QueueItem :=
  if row.isIn id status then f row else row

/-- `f` leaves identifiers alone. -/
def KeepsId (f : QueueItem → QueueItem) : Prop := ∀ row, (f row).id = row.id

section

variable {id : Uuid} {status : QueueStatus} {row : QueueItem} {f : QueueItem → QueueItem}

theorem isIn_iff : row.isIn id status = true ↔ row.id = id ∧ row.status = status := by
  simp [QueueItem.isIn]

theorem QueueItem.isDue_iff {now : Instant} :
    row.isDue now = true ↔ row.status = .pending ∧ row.nextAttemptAt.le now = true := by
  simp [QueueItem.isDue]

theorem QueueItem.isStale_iff {olderThan : Instant} :
    row.isStale olderThan = true ↔
      row.status = .processing ∧ row.updatedAt.lt olderThan = true := by
  simp [QueueItem.isStale]

theorem changeIn_of_isIn (h : row.isIn id status = true) :
    QueueItem.changeIn id status f row = f row :=
  if_pos h

theorem changeIn_of_not_isIn (h : ¬row.isIn id status = true) :
    QueueItem.changeIn id status f row = row :=
  if_neg h

theorem KeepsId.changeIn (hf : KeepsId f) (id : Uuid) (status : QueueStatus) :
    KeepsId (QueueItem.changeIn id status f) := by
  intro row
  by_cases h : row.isIn id status = true
  · rw [changeIn_of_isIn h]
    exact hf row
  · rw [changeIn_of_not_isIn h]

end

/-! ### One row of a list -/

/-- A change that keeps identifiers keeps the list of them. -/
theorem map_id_map {f : QueueItem → QueueItem} (hf : KeepsId f) (items : List QueueItem) :
    (items.map f).map (·.id) = items.map (·.id) := by
  rw [List.map_map]
  exact List.map_congr_left fun row _ => hf row

/-- Searching after such a change finds the changed row. -/
theorem find?_map_of_keepsId {f : QueueItem → QueueItem} (hf : KeepsId f) (items : List QueueItem)
    (k : Uuid) :
    (items.map f).find? (fun row => row.id = k) = (items.find? fun row => row.id = k).map f := by
  rw [List.find?_map]
  have h : ((fun row : QueueItem => decide (row.id = k)) ∘ f) = fun row => decide (row.id = k) := by
    funext row
    simp [hf row]
  rw [h]

/-- Where identifiers are distinct, the first row of an identifier and a status is the only one. -/
theorem changeFirst_eq_map {items : List QueueItem} (hd : (items.map (·.id)).Nodup) (id : Uuid)
    (status : QueueStatus) (f : QueueItem → QueueItem) :
    changeFirst (·.isIn id status) f items = items.map (QueueItem.changeIn id status f) := by
  induction items with
  | nil => rfl
  | cons row rest ih =>
      obtain ⟨hrow, hrest⟩ := List.nodup_cons.mp hd
      by_cases h : row.isIn id status = true
      · -- the step stops here, and the map finds no other row of the identifier
        have hne : ∀ other ∈ rest, QueueItem.changeIn id status f other = other := by
          intro other ho
          have hid : other.id ≠ id := fun e =>
            hrow (List.mem_map.mpr ⟨other, ho, e.trans (isIn_iff.mp h).1.symm⟩)
          exact changeIn_of_not_isIn fun hin => hid (isIn_iff.mp hin).1
        rw [changeFirst, if_pos h, List.map_cons, List.map_congr_left hne, List.map_id',
          changeIn_of_isIn h]
      · rw [changeFirst, if_neg h, List.map_cons, ih hrest, changeIn_of_not_isIn h]

theorem map_id_changeFirst {f : QueueItem → QueueItem} (hf : KeepsId f) (p : QueueItem → Bool)
    (items : List QueueItem) :
    (changeFirst p f items).map (·.id) = items.map (·.id) := by
  induction items with
  | nil => rfl
  | cons row rest ih =>
      by_cases h : p row = true
      · rw [changeFirst, if_pos h, List.map_cons, List.map_cons, hf row]
      · rw [changeFirst, if_neg h, List.map_cons, List.map_cons, ih]

/-- The first element that is picked out is changed at its place. -/
theorem changeFirst_append_cons {α : Type} {p : α → Bool} {f : α → α} {pre post : List α} {a : α}
    (hpre : ∀ b ∈ pre, ¬p b = true) (ha : p a = true) :
    changeFirst p f (pre ++ a :: post) = pre ++ f a :: post := by
  induction pre with
  | nil => exact if_pos ha
  | cons b rest ih =>
      rw [List.cons_append, changeFirst, if_neg (hpre b List.mem_cons_self),
        ih fun c hc => hpre c (List.mem_cons_of_mem b hc), List.cons_append]

namespace Store

/-- The identifiers in the queue, in its order. -/
def ids (s : Store) : List Uuid := s.items.map (·.id)

/-- No two items have one identifier. -/
def Distinct (s : Store) : Prop := s.ids.Nodup

/-! ### Looking up -/

theorem id_of_getItem? {s : Store} {k : Uuid} {row : QueueItem} (h : s.getItem? k = some row) :
    row.id = k := by
  simpa using List.find?_some h

theorem mem_of_getItem? {s : Store} {k : Uuid} {row : QueueItem} (h : s.getItem? k = some row) :
    row ∈ s.items :=
  List.mem_of_find?_eq_some h

/-- The look-up reads nothing but the queue. -/
theorem getItem?_of_items {s s' : Store} (h : s'.items = s.items) (k : Uuid) :
    s'.getItem? k = s.getItem? k := by
  rw [getItem?, getItem?, h]

theorem Distinct.of_items {s s' : Store} (hd : s.Distinct) (h : s'.items = s.items) :
    s'.Distinct := by
  rw [Distinct, ids, h]
  exact hd

/-- A look-up fails exactly for the identifiers no row has. -/
theorem getItem?_eq_none_iff {s : Store} {k : Uuid} : s.getItem? k = none ↔ k ∉ s.ids := by
  simp [getItem?, ids, List.find?_eq_none]

/-- In a list of distinct identifiers, a row is found under its own. -/
theorem find?_of_mem {items : List QueueItem} (hd : (items.map (·.id)).Nodup) {row : QueueItem}
    (h : row ∈ items) : items.find? (fun other => other.id = row.id) = some row := by
  induction items with
  | nil => cases h
  | cons other rest ih =>
      obtain ⟨hne, hrest⟩ := List.nodup_cons.mp hd
      by_cases he : other.id = row.id
      · rcases List.mem_cons.mp h with rfl | hin
        · simp
        · exact absurd (List.mem_map.mpr ⟨row, hin, he.symm⟩) hne
      · have hin : row ∈ rest := by
          rcases List.mem_cons.mp h with rfl | hin
          · exact absurd rfl he
          · exact hin
        rw [List.find?_cons, decide_eq_false he]
        exact ih hrest hin

/-- Where identifiers are distinct, a row is found under its own. -/
theorem Distinct.getItem?_of_mem {s : Store} (hd : s.Distinct) {row : QueueItem}
    (h : row ∈ s.items) : s.getItem? row.id = some row :=
  find?_of_mem hd h

theorem Distinct.getItem?_iff {s : Store} (hd : s.Distinct) {k : Uuid} {row : QueueItem} :
    s.getItem? k = some row ↔ row ∈ s.items ∧ row.id = k :=
  ⟨fun h => ⟨mem_of_getItem? h, id_of_getItem? h⟩, fun ⟨h, e⟩ => e ▸ hd.getItem?_of_mem h⟩

/-- A step from a status finds the row of the identifier, if it stands in the status. -/
theorem Distinct.findIn?_eq {s : Store} (hd : s.Distinct) (id : Uuid) (status : QueueStatus) :
    s.findIn? id status = (s.getItem? id).filter fun row => row.status = status := by
  cases h : s.getItem? id with
  | none =>
      rw [Option.filter_none, findIn?, List.find?_eq_none]
      intro row hr hin
      exact getItem?_eq_none_iff.mp h ((isIn_iff.mp hin).1 ▸ List.mem_map_of_mem hr)
  | some row =>
      have hid := id_of_getItem? h
      by_cases hs : row.status = status
      · rw [Option.filter_some, if_pos (by simpa using hs)]
        cases hf : s.findIn? id status with
        | none =>
            have hin := List.find?_eq_none.mp hf row (mem_of_getItem? h)
            exact absurd (isIn_iff.mpr ⟨hid, hs⟩) hin
        | some other =>
            have ho := isIn_iff.mp (List.find?_some hf)
            have := hd.getItem?_iff.mpr ⟨List.mem_of_find?_eq_some hf, ho.1⟩
            exact this.symm.trans h
      · rw [Option.filter_some, if_neg (by simpa using hs), findIn?, List.find?_eq_none]
        intro other ho hin
        have := hd.getItem?_iff.mpr ⟨ho, (isIn_iff.mp hin).1⟩
        rw [h] at this
        exact hs (Option.some.inj this ▸ (isIn_iff.mp hin).2)

/-! ### Steps from one status -/

/-- The store with `f` applied to the row that stands in `status` under `id`. -/
def change (id : Uuid) (status : QueueStatus) (f : QueueItem → QueueItem) (s : Store) : Store :=
  { s with items := changeFirst (·.isIn id status) f s.items }

/-- After a change to one row, a look-up finds that row changed and every other as it was. -/
theorem getItem?_change {s : Store} (hd : s.Distinct) {f : QueueItem → QueueItem} (hf : KeepsId f)
    (id : Uuid) (status : QueueStatus) (k : Uuid) :
    (s.change id status f).getItem? k = (s.getItem? k).map (QueueItem.changeIn id status f) := by
  show (changeFirst _ f s.items).find? _ = _
  rw [changeFirst_eq_map hd, find?_map_of_keepsId (hf.changeIn id status)]
  rfl

/-- A row under another identifier stays as it is. -/
theorem getItem?_change_of_ne {s : Store} (hd : s.Distinct) {f : QueueItem → QueueItem}
    (hf : KeepsId f) {id k : Uuid} (hk : k ≠ id) (status : QueueStatus) :
    (s.change id status f).getItem? k = s.getItem? k := by
  rw [getItem?_change hd hf]
  cases h : s.getItem? k with
  | none => rfl
  | some row =>
      have hid := id_of_getItem? h
      rw [Option.map_some, changeIn_of_not_isIn fun hin => hk (hid ▸ (isIn_iff.mp hin).1)]

/-- A row in another status stays as it is. -/
theorem getItem?_change_of_status {s : Store} (hd : s.Distinct) {f : QueueItem → QueueItem}
    (hf : KeepsId f) {id k : Uuid} {status : QueueStatus} {row : QueueItem}
    (h : s.getItem? k = some row) (hs : row.status ≠ status) :
    (s.change id status f).getItem? k = some row := by
  rw [getItem?_change hd hf, h, Option.map_some,
    changeIn_of_not_isIn fun hin => hs (isIn_iff.mp hin).2]

theorem ids_change {f : QueueItem → QueueItem} (hf : KeepsId f) (s : Store) (id : Uuid)
    (status : QueueStatus) : (s.change id status f).ids = s.ids :=
  map_id_changeFirst hf _ _

theorem Distinct.change {s : Store} (hd : s.Distinct) {f : QueueItem → QueueItem} (hf : KeepsId f)
    (id : Uuid) (status : QueueStatus) : (s.change id status f).Distinct := by
  rw [Distinct, ids_change hf]
  exact hd

/-- Nothing happens where no row stands in the status under the identifier. -/
theorem change_of_findIn?_eq_none {s : Store} {id : Uuid} {status : QueueStatus}
    (f : QueueItem → QueueItem) (h : s.findIn? id status = none) : s.change id status f = s := by
  have hitems : changeFirst (·.isIn id status) f s.items = s.items := by
    have hno := List.find?_eq_none.mp h
    generalize s.items = items at hno
    induction items with
    | nil => rfl
    | cons row rest ih =>
        rw [changeFirst, if_neg (hno row List.mem_cons_self),
          ih fun other ho => hno other (List.mem_cons_of_mem _ ho)]
  show { s with items := _ } = s
  rw [hitems]

/-- A requeue is a change of a failed row. -/
theorem requeue_eq_change (now : Instant) (id : Uuid) (s : Store) :
    s.requeue now id = s.change id .failed (·.requeue now) := rfl

theorem keepsId_succeed (now : Instant) : KeepsId (·.succeed now) := fun _ => rfl

theorem keepsId_fail (now : Instant) (error : String) : KeepsId (·.fail now error) := fun _ => rfl

theorem keepsId_requeue (now : Instant) : KeepsId (·.requeue now) := fun _ => rfl

/-- The row that `markForRetry` leaves: back in the queue, counted where the count goes on. -/
def putBack (now : Instant) (error : String) (nextAttemptAt : Instant) (row : QueueItem) :
    QueueItem :=
  (row.retry? now error nextAttemptAt).getD { row with status := .pending }

theorem keepsId_putBack (now : Instant) (error : String) (nextAttemptAt : Instant) :
    KeepsId (putBack now error nextAttemptAt) := by
  intro row
  rw [putBack, QueueItem.retry?]
  cases nextAttempt? row.attempts <;> rfl

theorem putBack_status (now : Instant) (error : String) (nextAttemptAt : Instant)
    (row : QueueItem) : (putBack now error nextAttemptAt row).status = .pending := by
  rw [putBack, QueueItem.retry?]
  cases nextAttempt? row.attempts <;> rfl

/-! ### Claims -/

/-- What a claim takes is in the store and due. -/
theorem mem_claimable {now : Instant} {limit : UInt32} {s : Store} {entry : QueueItem × Nat}
    (h : entry ∈ s.claimable now limit) :
    s.items[entry.2]? = some entry.1 ∧ entry.1.isDue now = true := by
  have hdue := (sortBy_perm _ _).mem_iff.mp (List.mem_of_mem_take h)
  obtain ⟨hin, hd⟩ := List.mem_filter.mp hdue
  exact ⟨List.mk_mem_zipIdx_iff_getElem?.mp hin, hd⟩

/-- The due rows without their places, in the order of the queue. -/
theorem map_fst_filter_isDue (s : Store) (now : Instant) :
    (s.items.zipIdx.filter fun entry => entry.1.isDue now).map (·.1) =
      s.items.filter (·.isDue now) :=
  map_fst_filter_zipIdx _ _

/-- A claim that may take as many as are due takes them all. -/
theorem claimed_perm {now : Instant} {limit : UInt32} {s : Store}
    (h : s.items.countP (·.isDue now) ≤ limit.toNat) :
    (s.claimed now limit).Perm ((s.items.filter (·.isDue now)).map (·.claim now)) := by
  have hrows : ((s.due now).map (·.1)).Perm (s.items.filter (·.isDue now)) := by
    rw [← s.map_fst_filter_isDue now]
    exact (sortBy_perm _ _).map _
  have hlength : (s.due now).length ≤ limit.toNat := by
    rw [← List.length_map (f := (·.1)), hrows.length_eq, ← List.countP_eq_length_filter]
    exact h
  have hclaimed : s.claimed now limit = ((s.due now).map (·.1)).map (·.claim now) := by
    rw [claimed, claimable, List.take_of_length_le hlength, List.map_map]
    rfl
  rw [hclaimed]
  exact hrows.map _

/-- What a claim hands out: rows that were pending and due, as the claim leaves them. -/
theorem exists_row_of_mem_claimed {now : Instant} {limit : UInt32} {s : Store} {x : QueueItem}
    (h : x ∈ s.claimed now limit) : ∃ row ∈ s.items, row.isDue now = true ∧ x = row.claim now := by
  obtain ⟨entry, he, rfl⟩ := List.mem_map.mp h
  obtain ⟨hin, hdue⟩ := mem_claimable he
  exact ⟨entry.1, List.mem_of_getElem? hin, hdue, rfl⟩

/-- Where identifiers are distinct, these rows are found under the identifiers handed out. -/
theorem mem_claimed {now : Instant} {limit : UInt32} {s : Store} (hd : s.Distinct) {x : QueueItem}
    (h : x ∈ s.claimed now limit) :
    ∃ row, s.getItem? x.id = some row ∧ row.isDue now = true ∧ x = row.claim now := by
  obtain ⟨row, hrow, hdue, rfl⟩ := exists_row_of_mem_claimed h
  exact ⟨row, hd.getItem?_of_mem hrow, hdue, rfl⟩

/-- Where identifiers are distinct, a claim takes no row twice. -/
theorem nodup_claimable {now : Instant} {limit : UInt32} {s : Store} (hd : s.Distinct) :
    ((s.claimable now limit).map (·.1.id)).Nodup := by
  -- the due rows are some of all, in another order, and a claim takes the first of them
  have hall : (s.items.zipIdx.map (·.1.id)).Nodup := by
    have h : s.items.zipIdx.map (·.1.id) = (s.items.zipIdx.map (·.1)).map (·.id) := by
      rw [List.map_map]
      rfl
    rw [h, List.zipIdx_map_fst]
    exact hd
  have hdue : ((s.due now).map (·.1.id)).Nodup :=
    (((sortBy_perm _ _).map _).nodup_iff).mpr (hall.sublist (List.filter_sublist.map _))
  exact hdue.sublist ((List.take_sublist _ _).map _)

/-- No item is handed out twice by one claim. -/
theorem nodup_claimed {now : Instant} {limit : UInt32} {s : Store} (hd : s.Distinct) :
    ((s.claimed now limit).map (·.id)).Nodup := by
  rw [claimed, List.map_map]
  exact nodup_claimable hd

/-- The places that a claim takes are those of the identifiers that it hands out. -/
theorem mem_places_iff {now : Instant} {limit : UInt32} {s : Store} (hd : s.Distinct) {i : Nat}
    {row : QueueItem} (h : s.items[i]? = some row) :
    i ∈ (s.claimable now limit).map (·.2) ↔ row.id ∈ (s.claimed now limit).map (·.id) := by
  constructor
  · intro hi
    obtain ⟨entry, he, rfl⟩ := List.mem_map.mp hi
    have hrow : entry.1 = row := Option.some.inj ((mem_claimable he).1.symm.trans h)
    rw [claimed, List.map_map]
    exact List.mem_map.mpr ⟨entry, he, by simp [← hrow, QueueItem.claim]⟩
  · intro hi
    rw [claimed, List.map_map] at hi
    obtain ⟨entry, he, hid⟩ := List.mem_map.mp hi
    obtain ⟨hentry, -⟩ := mem_claimable he
    -- both places carry one identifier, and so are one place
    have hkeys : s.ids[entry.2]? = s.ids[i]? := by
      rw [ids, List.getElem?_map, List.getElem?_map, hentry, h]
      exact congrArg some hid
    obtain ⟨hlt, -⟩ := List.getElem?_eq_some_iff.mp hentry
    have hplace : entry.2 = i :=
      (List.getElem?_inj (by rwa [ids, List.length_map]) hd).mp hkeys
    exact hplace ▸ List.mem_map_of_mem he

/-- The change that a claim makes to a row. -/
def claimRow (now : Instant) (taken : List Uuid) (row : QueueItem) : QueueItem :=
  if row.id ∈ taken then row.claim now else row

theorem keepsId_claimRow (now : Instant) (taken : List Uuid) : KeepsId (claimRow now taken) := by
  intro row
  by_cases h : row.id ∈ taken
  · rw [claimRow, if_pos h, QueueItem.claim]
  · rw [claimRow, if_neg h]

/-- A claim marks the rows it takes and leaves the others as they are. -/
theorem items_claimDue {s : Store} (hd : s.Distinct) (now : Instant) (limit : UInt32) :
    (s.claimDue now limit).items =
      s.items.map (claimRow now ((s.claimed now limit).map (·.id))) := by
  refine List.ext_getElem? fun i => ?_
  show (s.items.zipIdx.map _)[i]? = _
  rw [List.getElem?_map, List.getElem?_map, List.getElem?_zipIdx]
  cases h : s.items[i]? with
  | none => rfl
  | some row =>
      simp only [Option.map_some, Nat.zero_add, mem_places_iff hd h, claimRow]

/-- A look-up after a claim finds the row marked, if it was taken. -/
theorem getItem?_claimDue {s : Store} (hd : s.Distinct) (now : Instant) (limit : UInt32)
    (k : Uuid) :
    (s.claimDue now limit).getItem? k =
      (s.getItem? k).map (claimRow now ((s.claimed now limit).map (·.id))) := by
  rw [getItem?, items_claimDue hd, find?_map_of_keepsId (keepsId_claimRow _ _), getItem?]

/-- What a claim hands out is the row that it leaves. -/
theorem getItem?_claimDue_of_mem {s : Store} (hd : s.Distinct) {now : Instant} {limit : UInt32}
    {x : QueueItem} (h : x ∈ s.claimed now limit) :
    (s.claimDue now limit).getItem? x.id = some x := by
  obtain ⟨row, hrow, -, hx⟩ := mem_claimed hd h
  have hid : row.id ∈ (s.claimed now limit).map (·.id) := by
    rw [id_of_getItem? hrow]
    exact List.mem_map_of_mem h
  rw [getItem?_claimDue hd, hrow, Option.map_some, claimRow, if_pos hid, hx]

theorem pending_of_isDue {now : Instant} {row : QueueItem} (h : row.isDue now = true) :
    row.status = .pending :=
  (QueueItem.isDue_iff.mp h).1

/-- A row that is not pending is not handed out. -/
theorem not_claimed {s : Store} (hd : s.Distinct) {now : Instant} {limit : UInt32} {k : Uuid}
    {row : QueueItem} (h : s.getItem? k = some row) (hs : row.status ≠ .pending) :
    k ∉ (s.claimed now limit).map (·.id) := by
  intro hk
  obtain ⟨x, hx, rfl⟩ := List.mem_map.mp hk
  obtain ⟨other, ho, hdue, -⟩ := mem_claimed hd hx
  rw [h] at ho
  exact hs (Option.some.inj ho ▸ pending_of_isDue hdue)

/-- A claim leaves a row that is not pending. -/
theorem getItem?_claimDue_of_status {s : Store} (hd : s.Distinct) {now : Instant}
    {limit : UInt32} {k : Uuid} {row : QueueItem} (h : s.getItem? k = some row)
    (hs : row.status ≠ .pending) : (s.claimDue now limit).getItem? k = some row := by
  rw [getItem?_claimDue hd, h, Option.map_some, claimRow,
    if_neg (id_of_getItem? h ▸ not_claimed hd h hs)]

theorem ids_claimDue {s : Store} (hd : s.Distinct) (now : Instant) (limit : UInt32) :
    (s.claimDue now limit).ids = s.ids := by
  rw [ids, items_claimDue hd, map_id_map (keepsId_claimRow _ _), ids]

theorem Distinct.claimDue {s : Store} (hd : s.Distinct) (now : Instant) (limit : UInt32) :
    (s.claimDue now limit).Distinct := by
  rw [Distinct, ids_claimDue hd]
  exact hd

/-! ### Recoveries and arrivals -/

/-- The change that a recovery makes to a row. -/
def recoverRow (now olderThan : Instant) (row : QueueItem) : QueueItem :=
  if row.isStale olderThan then row.recover now else row

theorem keepsId_recoverRow (now olderThan : Instant) : KeepsId (recoverRow now olderThan) := by
  intro row
  by_cases h : row.isStale olderThan = true
  · rw [recoverRow, if_pos h, QueueItem.recover]
  · rw [recoverRow, if_neg h]

/-- A look-up after a recovery finds the row freed, if it was stale. -/
theorem getItem?_recoverStale (s : Store) (now olderThan : Instant) (k : Uuid) :
    (s.recoverStale now olderThan).getItem? k = (s.getItem? k).map (recoverRow now olderThan) :=
  find?_map_of_keepsId (keepsId_recoverRow now olderThan) s.items k

theorem ids_recoverStale (s : Store) (now olderThan : Instant) :
    (s.recoverStale now olderThan).ids = s.ids :=
  map_id_map (keepsId_recoverRow now olderThan) s.items

theorem ids_enqueueBatch (s : Store) (now : Instant) (items : List NewItem) :
    (s.enqueueBatch now items).ids = s.ids ++ items.map (·.id) := by
  simp [ids, enqueueBatch, NewItem.enter]

/-- New items have new identifiers, and no two of them the same. -/
def Fresh (items : List NewItem) (s : Store) : Prop :=
  (items.map (·.id)).Nodup ∧ ∀ item ∈ items, item.id ∉ s.ids

theorem Distinct.enqueueBatch {s : Store} (hd : s.Distinct) {items : List NewItem}
    (hf : s.Fresh items) (now : Instant) : (s.enqueueBatch now items).Distinct := by
  rw [Distinct, ids_enqueueBatch, List.nodup_append]
  refine ⟨hd, hf.1, fun a ha b hb e => ?_⟩
  obtain ⟨item, hi, rfl⟩ := List.mem_map.mp hb
  exact hf.2 item hi (e ▸ ha)

/-- A look-up after an enqueue finds an old row first, then what was entered. -/
theorem getItem?_enqueueBatch (s : Store) (now : Instant) (items : List NewItem) (k : Uuid) :
    (s.enqueueBatch now items).getItem? k =
      (s.getItem? k).or ((items.find? fun item => item.id = k).map (·.enter now)) := by
  show (s.items ++ items.map (·.enter now)).find? _ = _
  rw [List.find?_append, List.find?_map]
  rfl

/-- What is in the queue stays in it as it is. -/
theorem getItem?_enqueueBatch_of_some {s : Store} {k : Uuid} {row : QueueItem}
    (h : s.getItem? k = some row) (now : Instant) (items : List NewItem) :
    (s.enqueueBatch now items).getItem? k = some row := by
  rw [getItem?_enqueueBatch, h, Option.some_or]

end Store

end Courier
