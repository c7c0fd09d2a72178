import Courier.Delivery
import Courier.Proofs.Queue.Due
import Courier.Proofs.Queue.History
import Courier.Proofs.World

/-!
# Proofs — Queue — Listing

What is to be seen of a queue from outside: lists of the items in a status, counts of the items in
each, and gauges that show the counts.

* `Store.brought_after`: the queue has a row for each item that was ever brought, in that order.
* `ListsNewest`, `Store.lists_newest`: a list has the last changed of the items in a status.
* `QueueStats.Tallies`, `QueueStats.tallies_ofItems`: the counts are those of the rows.
* `World.run_refreshDepths`: the gauges show the counts.
* `queue_seen_from_outside`: all of this in every state that the queue may come to.
-/

namespace Courier

/-! ### Arrivals -/

/-- The items that operations bring, in turn. -/
def arrivals (ops : List (Instant × Operation)) : List NewItem := ops.flatMap (·.2.news)

/-- Rows come for items and never go. -/
theorem Store.brought_after (ops : List (Instant × Operation)) (s : Store) :
    (s.after ops).brought = s.brought ++ arrivals ops := by
  induction ops generalizing s with
  | nil => exact (List.append_nil _).symm
  | cons op rest ih =>
      show ((op.2.apply op.1 s).after rest).brought = _
      rw [ih, op.2.brought_apply_eq, List.append_assoc]
      rfl

/-! ### Lists -/

/-- The row at the place `i` was changed after the one at `j`, or at the same time and came
first. -/
def Newer (rows : List QueueItem) (i j : Nat) : Prop :=
  ∃ a b, rows[i]? = some a ∧ rows[j]? = some b ∧
    (b.updatedAt.lt a.updatedAt = true ∨ a.updatedAt = b.updatedAt ∧ i < j)

/-- What a list of up to `limit` rows in a status shows of a queue, and from which places in
turn. -/
structure ListsNewest (status : QueueStatus) (limit : Nat) (rows : List QueueItem)
    (places : List Nat) (listed : List QueueItem) : Prop where
  length : listed.length = min limit (rows.countP fun row => row.status = status)
  shown : listed.map some = places.map (rows[·]?)
  inStatus : ∀ row ∈ listed, row.status = status
  order : places.Pairwise (Newer rows)
  /-- What stands in the status and is left out was changed before all that is shown. -/
  behind : ∀ {i row}, rows[i]? = some row → row.status = status → i ∉ places →
    ∀ j ∈ places, Newer rows j i

namespace Store

variable {s : Store} {status : QueueStatus} {x y : QueueItem × Nat}

/-- The rows in a status with their places, in the order in which they are listed. -/
def standing (s : Store) (status : QueueStatus) : List (QueueItem × Nat) :=
  sortBy (fun a b => a.1.newerThan b.1) (s.items.zipIdx.filter fun entry => entry.1.status = status)

/-- The entries listed under a status are the rows that have it, with their places. -/
theorem mem_standing :
    x ∈ s.standing status ↔ s.items[x.2]? = some x.1 ∧ x.1.status = status := by
  rw [standing, (sortBy_perm _ _).mem_iff, List.mem_filter, List.mk_mem_zipIdx_iff_getElem?,
    decide_eq_true_iff]

/-- Read without places, they are those rows sorted with the newest first. -/
theorem map_fst_standing (s : Store) (status : QueueStatus) :
    (s.standing status).map (·.1) =
      sortBy QueueItem.newerThan (s.items.filter fun item => item.status = status) := by
  rw [standing, ← map_fst_filter_zipIdx _ s.items]
  refine map_sortBy (fun a b => ?_) _
  rfl

/-- Sorting loses no row: as many are listed as have the status. -/
theorem length_standing (s : Store) (status : QueueStatus) :
    (s.standing status).length = s.items.countP fun item => item.status = status := by
  rw [← List.length_map Prod.fst, map_fst_standing, (sortBy_perm _ _).length_eq,
    List.countP_eq_length_filter]

/-- No two rows of the same time change places. -/
theorem pairwise_standing (s : Store) (status : QueueStatus) :
    (s.standing status).Pairwise fun x y => Newer s.items x.2 y.2 := by
  have hsorted : (s.standing status).Pairwise fun x y =>
      x.1.newerThan y.1 = true ∧ (y.1.newerThan x.1 = true → x.2 < y.2) := by
    refine pairwise_sortBy (fun a b => ?_) (fun {a b c} hab hbc => ?_)
      ((pairwise_zipIdx s.items 0).filter _)
    · exact Instant.le_total b.1.updatedAt a.1.updatedAt
    · exact Instant.le_trans hbc hab
  refine hsorted.imp_of_mem fun {x y} hx hy hxy => ?_
  refine ⟨x.1, y.1, (mem_standing.mp hx).1, (mem_standing.mp hy).1, ?_⟩
  rcases Instant.lt_or_eq_of_le hxy.1 with hlt | heq
  · exact .inl hlt
  · refine .inr ⟨heq.symm, hxy.2 ?_⟩
    rw [QueueItem.newerThan, heq]
    exact Instant.le_refl _

theorem listItems_eq (s : Store) (status : QueueStatus) (limit : UInt32) :
    s.listItems status limit = ((s.standing status).take limit.toNat).map (·.1) := by
  rw [listItems, ← map_fst_standing, List.map_take]

/-- The list of a status shows its newest rows, up to the limit. -/
theorem lists_newest (s : Store) (status : QueueStatus) (limit : UInt32) :
    ListsNewest status limit.toNat s.items (((s.standing status).take limit.toNat).map (·.2))
      (s.listItems status limit) := by
  have hstanding : ∀ x ∈ (s.standing status).take limit.toNat,
      s.items[x.2]? = some x.1 ∧ x.1.status = status :=
    fun x hx => mem_standing.mp (List.mem_of_mem_take hx)
  have hnewer := s.pairwise_standing status
  rw [listItems_eq]
  constructor
  · rw [List.length_map, List.length_take, length_standing]
  · rw [List.map_map, List.map_map]
    exact List.map_congr_left fun x hx => (hstanding x hx).1.symm
  · intro row hrow
    obtain ⟨x, hx, rfl⟩ := List.mem_map.mp hrow
    exact (hstanding x hx).2
  · exact List.pairwise_map.mpr (hnewer.sublist (List.take_sublist _ _))
  · intro i row hrow hstatus hi j hj
    obtain ⟨x, hx, rfl⟩ := List.mem_map.mp hj
    have hin : (row, i) ∈ s.standing status := mem_standing.mpr ⟨hrow, hstatus⟩
    have hleft : (row, i) ∉ (s.standing status).take limit.toNat :=
      fun h => hi (List.mem_map_of_mem h)
    exact rel_of_mem_take hnewer hx hin hleft

end Store

/-! ### Counts -/

namespace QueueStats

/-- The counts of rows: in each status as many as stand in it, and as many in all as there are.
They are what comes of counting the rows one after the other. -/
structure Tallies (stats : QueueStats) (rows : List QueueItem) : Prop where
  counts : ∀ status, (stats.get status).toInt = rows.countP fun row => row.status = status
  total : stats.pending.toInt + stats.processing.toInt + stats.sent.toInt + stats.failed.toInt =
    rows.length
  added : rows.foldlM (fun stats row => stats.add? row.status 1) zero = some stats

variable {rows : List QueueItem}

/-- Each count of the statistics is that of the rows with the status. -/
theorem get_ofItems (rows : List QueueItem) (status : QueueStatus) :
    (ofItems rows).get status = countOf rows status := by
  cases status <;> rfl

/-- A count of fewer than 2^63 rows is exact. -/
theorem toInt_countOf (h : rows.length < 2 ^ 63) (status : QueueStatus) :
    (countOf rows status).toInt = rows.countP fun row => row.status = status := by
  have hle : (rows.countP fun row => row.status = status) ≤ rows.length := List.countP_le_length
  rw [countOf, Int64.toInt_ofInt_of_le (by omega) (by omega)]

/-- Each row stands in one status. -/
theorem sum_countP (rows : List QueueItem) :
    (rows.countP fun row => row.status = .pending) +
          (rows.countP fun row => row.status = .processing) +
        (rows.countP fun row => row.status = .sent) +
      (rows.countP fun row => row.status = .failed) = rows.length := by
  induction rows with
  | nil => rfl
  | cons row rest ih =>
      simp only [List.countP_cons, List.length_cons]
      cases row.status <;> simp <;> omega

theorem get_set (s : QueueStats) (status other : QueueStatus) (count : Int64) :
    (s.set status count).get other = if other = status then count else s.get other := by
  cases status <;> cases other <;> rfl

/-- Statistics with the same count for every status are the same. -/
theorem ext_get {s t : QueueStats} (h : ∀ status, s.get status = t.get status) : s = t := by
  obtain ⟨pending, processing, sent, failed⟩ := s
  obtain ⟨pending', processing', sent', failed'⟩ := t
  obtain rfl : pending = pending' := h .pending
  obtain rfl : processing = processing' := h .processing
  obtain rfl : sent = sent' := h .sent
  obtain rfl : failed = failed' := h .failed
  rfl

/-- One more row is added to the count of its status and to no other. -/
theorem add?_ofItems (row : QueueItem) (h : (rows ++ [row]).length < 2 ^ 63) :
    (ofItems rows).add? row.status 1 = some (ofItems (rows ++ [row])) := by
  have hrows : rows.length + 1 < 2 ^ 63 := by simpa using h
  have hcount := toInt_countOf (Nat.lt_of_succ_lt hrows) row.status
  have hle : (rows.countP fun other => other.status = row.status) ≤ rows.length :=
    List.countP_le_length
  have hsum : sum? (countOf rows row.status) 1 = some (countOf (rows ++ [row]) row.status) := by
    have hmax : Int64.maxValue.toInt = 2 ^ 63 - 1 := rfl
    have hmin : Int64.minValue.toInt = -2 ^ 63 := rfl
    rw [sum?, hcount, Int64.toInt_one, if_pos ⟨by omega, by omega⟩, countOf, List.countP_append]
    simp
  rw [add?, get_ofItems, hsum, Option.map_some]
  refine congrArg some (ext_get fun status => ?_)
  rw [get_set, get_ofItems, get_ofItems]
  split
  · next heq => rw [heq]
  · next hne =>
    rw [countOf, countOf, List.countP_append, List.countP_singleton]
    simp [Ne.symm hne]

/-- The counts come about row by row. -/
theorem foldlM_add? {counted : List QueueItem} (h : (counted ++ rows).length < 2 ^ 63) :
    rows.foldlM (fun stats row => stats.add? row.status 1) (ofItems counted) =
      some (ofItems (counted ++ rows)) := by
  induction rows generalizing counted with
  | nil => exact congrArg (some ∘ ofItems) (List.append_nil counted).symm
  | cons row rest ih =>
      rw [List.append_cons] at h ⊢
      have hrow : (counted ++ [row]).length < 2 ^ 63 := by
        rw [List.length_append] at h
        omega
      rw [List.foldlM_cons, add?_ofItems row hrow]
      exact ih h

/-- Below the bound of the counters, the statistics tally the rows. -/
theorem tallies_ofItems (h : rows.length < 2 ^ 63) : (ofItems rows).Tallies rows := by
  have hcounts : ∀ status,
      ((ofItems rows).get status).toInt = rows.countP fun row => row.status = status := by
    intro status
    rw [get_ofItems, toInt_countOf h]
  refine ⟨hcounts, ?_, @foldlM_add? rows [] h⟩
  have hsum := sum_countP rows
  have hpending := hcounts .pending
  have hprocessing := hcounts .processing
  have hsent := hcounts .sent
  have hfailed := hcounts .failed
  simp only [get] at hpending hprocessing hsent hfailed
  omega

end QueueStats

/-! ### Gauges -/

theorem Metrics.depth_setDepth (m : Metrics) (status other : QueueStatus) (depth : Int64) :
    (m.setDepth status depth).depth other = if other = status then depth else m.depth other := by
  rw [Metrics.depth, setDepth, Table.get?_set]
  split <;> rfl

/-- After the gauges are set, each shows the count of its status. -/
theorem Metrics.depth_setDepths (m : Metrics) (stats : QueueStats) (status : QueueStatus) :
    (m.setDepths stats).depth status = stats.get status := by
  simp only [setDepths, QueueStatus.all, List.foldl_cons, List.foldl_nil, depth_setDepth]
  cases status <;> rfl

/-- Gauges that are brought up to date show the counts, whatever they showed before. -/
theorem World.run_refreshDepths {w : World} (h : w.nextFault? "queue_stats" = none) :
    ∃ w', w.run refreshDepths = (w', some (.ok ())) ∧ w'.store = w.store ∧
      ∀ status, w'.metrics.depth status = w.store.stats.get status := by
  have hanswer : StoreCall.queueStats.answer? w.now w.store = some w.store.stats := rfl
  simp only [refreshDepths, Program.bind_eq_bind]
  rw [run_call_served h hanswer]
  exact ⟨_, rfl, rfl, fun status => Metrics.depth_setDepths _ _ status⟩

/-! ### The whole -/

/-- **What is seen of a queue from outside agrees with it in every state.**  The queue has a row for
each item that was ever brought and in that order.  A list has the last changed of the items in a
status, as many as there are up to its limit.  Unless there are more rows than a vector holds, the
counts are exact and add up to all that was brought; and the gauges, once brought up to date, show
the counts. -/
theorem queue_seen_from_outside (ops : List (Instant × Operation)) (status : QueueStatus)
    (limit : UInt32) :
    let s := Store.empty.after ops
    s.brought = arrivals ops ∧
      (∃ places, ListsNewest status limit.toNat s.items places (s.listItems status limit)) ∧
      ((arrivals ops).length < 2 ^ 63 →
        s.stats.Tallies s.items ∧ s.items.length = (arrivals ops).length) ∧
      ∀ w : World, w.store = s → w.nextFault? "queue_stats" = none →
        ∃ w', w.run refreshDepths = (w', some (.ok ())) ∧ w'.store = s ∧
          ∀ status, w'.metrics.depth status = s.stats.get status := by
  intro s
  have hbrought : s.brought = arrivals ops := Store.brought_after ops .empty
  have hlength : s.items.length = (arrivals ops).length := by
    rw [← hbrought, Store.brought, List.length_map]
  refine ⟨hbrought, ⟨_, s.lists_newest status limit⟩, fun h => ⟨?_, hlength⟩, fun w hw hfault => ?_⟩
  · exact QueueStats.tallies_ofItems (hlength ▸ h)
  · rw [← hw]
    exact World.run_refreshDepths hfault

namespace Sample

/-- Three items that come at one time, and a claim of one of them. -/
def comings : List (Instant × Operation) :=
  [(.epoch, .call (.enqueueBatch [{ item 5 with id := id 6 }, { item 5 with id := id 7 }])),
    (.epoch, .call (.enqueue { item 5 with id := id 8 })), (.epoch, .call (.claimDue 1))]

/-- A world in which they have come. -/
def visited : World := { World.start .epoch with store := Store.empty.after comings }

end Sample

/-- Of the two that wait a list of one has the one that came first, and the gauges show that two
wait. -/
theorem first_of_two_is_listed :
    let s := Store.empty.after Sample.comings
    (s.listItems .pending 1).map (·.id) = [Sample.id 7] ∧
      (∃ places, ListsNewest .pending 1 s.items places (s.listItems .pending 1)) ∧
      s.stats = ⟨2, 1, 0, 0⟩ ∧ s.stats.Tallies s.items ∧
      ∃ w, Sample.visited.run refreshDepths = (w, some (.ok ())) ∧
        w.metrics.depth .pending = 2 := by
  intro s
  obtain ⟨-, hlist, hcounts, hgauges⟩ := queue_seen_from_outside Sample.comings .pending 1
  obtain ⟨w, hrun, -, hdepth⟩ := hgauges Sample.visited rfl rfl
  have hstats : s.stats = ⟨2, 1, 0, 0⟩ := by decide +kernel
  refine ⟨by decide +kernel, hlist, hstats, (hcounts (by decide)).1, w, hrun, ?_⟩
  rw [hdepth]
  exact congrArg QueueStats.pending hstats

end Courier
