import Courier.Proofs.Crew.Reach
import Courier.Proofs.Delivery.Tally

/-!
# Proofs — Crew — Tally

What workers count over one set of metrics.  An item is counted as fetched together with its batch,
and its outcome is counted when its processing ends; in between the two counts differ by it.

* `Sound`: moves of so many workers, none of which crashes, while the count of fetched items is small.
* `Crew.Tallied`: the items fetched are the outcomes and the items that are unfinished, and each
  worker's batch is where its stage says.  `Tallied.step`: each such move preserves it.
* `fetched_eq_outcomes_add_unfinished`: so the two counts reconcile, at each moment of each run.
-/

namespace Courier

/-- The metrics count as many outcomes as fetched items. -/
def Metrics.Balanced (m : Metrics) : Prop := m.totalOutcomes = m.fetched.toNat

/-- A move crashes none of the workers, and what was counted as fetched before it is below 2^53. -/
def Sound (team : Nat → Worker) (size : Nat) (c : Crew) (m : Move) : Prop :=
  c.world.metrics.fetched.toNat < 2 ^ 53 ∧ Unbroken team size c m

/-- What is left of a batch has as many unfinished items as its stage says; where none is, there are
none. -/
def Desk.Owes (w : Worker) (d : Desk) : Prop :=
  match d.job with
  | none => d.stage.unfinished = 0
  | some p => w.Left d.stage.unfinished p

namespace Crew

variable {team : Nat → Worker} {size : Nat} {c d : Crew} {n : Nat}

/-- The items of all workers that are counted as fetched and whose processing is not over. -/
def unfinished (size : Nat) (c : Crew) : Nat :=
  ∑ n ∈ Finset.range size, (c.desks n).stage.unfinished

/-- The two counts differ by the unfinished items, and each worker is where its stage says. -/
structure Tallied (team : Nat → Worker) (size : Nat) (c : Crew) : Prop where
  kept : c.Kept team
  left : ∀ {n p}, (c.desks n).job = some p → (team n).Left (c.desks n).stage.unfinished p
  within : c.Within size
  balance : c.world.metrics.fetched.toNat = c.world.metrics.totalOutcomes + c.unfinished size

/-- Workers that have not begun owe nothing. -/
theorem tallied_gather {w : World} (h : w.metrics.Balanced) : (gather w).Tallied team size where
  kept := kept_gather team w
  left := fun hp => nomatch hp
  within := fun _ _ => rfl
  balance := by
    have hnone : (gather w).unfinished size = 0 := Finset.sum_const_zero
    rw [hnone, Nat.add_zero]
    exact h.symm

/-- Where a worker has no request to make, it has no unfinished item. -/
theorem Tallied.unfinished_eq_zero (h : c.Tallied team size)
    (hn : ∀ r next, (c.desks n).job ≠ some (.ask r next)) :
    (c.desks n).stage.unfinished = 0 := by
  cases hj : (c.desks n).job with
  | none =>
      rw [(h.kept n).idle hj]
      rfl
  | some p => exact (h.left hj).eq_zero fun r next hp => hn r next (hp ▸ hj)

/-- What is left of a batch has the unfinished items of its desk. -/
theorem Tallied.owes (h : c.Tallied team size) (n : Nat) : (c.desks n).Owes (team n) := by
  rw [Desk.Owes]
  cases hj : (c.desks n).job with
  | none => exact h.unfinished_eq_zero fun r next he => nomatch hj.symm.trans he
  | some p => exact h.left hj

/-- A worker counts so many items as fetched and so many outcomes, which come to be unfinished and are
finished. -/
theorem Tallied.of_counts (h : c.Tallied team size) {m : Move} (hm : m.worker? = some n)
    (hn : n < size) (fetched outcomes : Nat)
    (hf : (c.step team m).world.metrics.fetched.toNat = c.world.metrics.fetched.toNat + fetched)
    (ho : (c.step team m).world.metrics.totalOutcomes = c.world.metrics.totalOutcomes + outcomes)
    (hu : ((c.step team m).desks n).stage.unfinished + outcomes =
      (c.desks n).stage.unfinished + fetched)
    (hleft : ∀ {p}, ((c.step team m).desks n).job = some p →
      (team n).Left ((c.step team m).desks n).stage.unfinished p) :
    (c.step team m).Tallied team size where
  kept := h.kept.step m
  left := by
    intro k p hp
    by_cases hk : m.worker? = some k
    · obtain rfl := Option.some.inj (hm.symm.trans hk)
      exact hleft hp
    · rw [desks_step_of_ne hk] at hp ⊢
      exact h.left hp
  within := h.within.step fun k hk => Option.some.inj (hm.symm.trans hk) ▸ hn
  balance := by
    have hsum : (c.step team m).unfinished size + (c.desks n).stage.unfinished =
        c.unfinished size + ((c.step team m).desks n).stage.unfinished :=
      sum_desks_step (fun d => d.stage.unfinished) hm hn
    have hold := h.balance
    omega

/-- A worker that begins owes nothing. -/
theorem Tallied.begin (h : c.Tallied team size) (hn : n < size) :
    (c.step team (.begin n)).Tallied team size := by
  rcases c.begin_cases team n with ⟨hj, -⟩ | he
  · have hstage := stage_begin team c n
    have hmetrics := congrArg (·.metrics) (world_begin team c n)
    refine h.of_counts rfl hn 0 0 (congrArg (·.fetched.toNat) hmetrics)
      (congrArg (·.totalOutcomes) hmetrics) (congrArg (·.unfinished + 0) hstage) fun {p} hp => ?_
    replace hp : ((c.begin team n).desks n).job = some p := hp
    show (team n).Left ((c.begin team n).desks n).stage.unfinished p
    rw [hstage, (h.kept n).idle hj]
    rw [desk_begin team hj] at hp
    rw [← Option.some.inj hp]
    exact .claiming
  · show (c.begin team n).Tallied team size
    rw [he]
    exact h

/-- A worker makes a request, or puts its batch away. -/
theorem Tallied.proceed (h : c.Tallied team size) (hm : Sound team size c (.proceed n)) :
    (c.step team (.proceed n)).Tallied team size := by
  obtain ⟨hsmall, hworker⟩ := hm
  obtain ⟨hn, hc⟩ := hworker n rfl
  rcases proceed_inv hc with ⟨r, next, a, hj, ha, hworld, hjob, hstage⟩ | ⟨hno, hworld, hjob, hstage⟩
  · have hleft := h.left hj
    have hunfinished := Permits.unfinished ((h.kept n).follows hj).1 a
    -- what is counted at once is small as well, so that the count does not wrap around
    have hf : (c.proceed n).world.metrics.fetched.toNat =
        c.world.metrics.fetched.toNat + r.fetched := by
      have hlt : r.fetched < UInt64.size := Nat.lt_trans hleft.fetched_lt (by decide)
      have hsum : c.world.metrics.fetched.toNat + r.fetched < 2 ^ 64 :=
        Nat.lt_trans (Nat.add_lt_add hsmall hleft.fetched_lt) (by decide)
      rw [hworld, World.fetched_handle, UInt64.toNat_add, UInt64.toNat_ofNat_of_lt' hlt]
      exact Nat.mod_eq_of_lt hsum
    have ho : (c.proceed n).world.metrics.totalOutcomes =
        c.world.metrics.totalOutcomes + r.outcomes := by
      rw [hworld]
      exact c.world.totalOutcomes_handle r
    refine h.of_counts rfl hn r.fetched r.outcomes hf ho (hstage ▸ hunfinished) fun {p} hp => ?_
    obtain rfl : next a = p := Option.some.inj (hjob.symm.trans hp)
    show (team n).Left ((c.proceed n).desks n).stage.unfinished (next a)
    rw [hstage]
    exact hleft.answer (c.world.handled r) ha hunfinished fun he => hc (hjob.trans (congrArg some he))
  · have hzero : ((c.proceed n).desks n).stage.unfinished = (c.desks n).stage.unfinished := by
      rw [hstage, h.unfinished_eq_zero hno]
      rfl
    exact h.of_counts rfl hn 0 0 (congrArg (·.metrics.fetched.toNat) hworld)
      (congrArg (·.metrics.totalOutcomes) hworld) hzero fun hp => nomatch hjob.symm.trans hp

/-- Every sound move keeps the tally. -/
theorem Tallied.step (h : c.Tallied team size) {m : Move} (hm : Sound team size c m) :
    (c.step team m).Tallied team size := by
  cases m with
  | begin n => exact h.begin (hm.2 n rfl).1
  | proceed n => exact h.proceed hm
  | _ => exact ⟨h.kept.step _, h.left, h.within, h.balance⟩

/-- None of the workers is at a batch. -/
def AtRest (size : Nat) (c : Crew) : Prop :=
  ∀ n < size, (c.desks n).job = none ∨ ∃ result, (c.desks n).job = some (.done result)

/-- When all workers are at rest, no item is unfinished. -/
theorem Tallied.unfinished_of_atRest (h : c.Tallied team size) (hc : c.AtRest size) :
    c.unfinished size = 0 := by
  refine Finset.sum_eq_zero fun n hn => h.unfinished_eq_zero fun r next hj => ?_
  rcases hc n (Finset.mem_range.mp hn) with hnone | ⟨result, hdone⟩
  · exact nomatch hnone.symm.trans hj
  · exact nomatch Option.some.inj (hdone.symm.trans hj)

/-- The worker is about to claim, and will be answered. -/
def Claims (team : Nat → Worker) (c : Crew) (n : Nat) (answer : Except StoreError (List QueueItem)) :
    Prop :=
  (c.desks n).job = some (team n).processBatch ∧
    (c.world.handle (.store (.claimDue (team n).batchSize))).2 = some answer

/-- A claim that fails or finds nothing ends the batch, and nothing is counted. -/
theorem Claims.counts_nothing {answer : Except StoreError (List QueueItem)}
    (h : c.Claims team n answer) (hno : answer = .ok [] ∨ ∃ e, answer = .error e) :
    (c.step team (.proceed n)).world.metrics = c.world.metrics ∧
      ∃ result, ((c.step team (.proceed n)).desks n).job = some (.done result) := by
  obtain ⟨hj, ha⟩ := h
  have hask : (c.desks n).job = some (.ask (.store (.claimDue (team n).batchSize)) _) := hj
  show (c.proceed n).world.metrics = _ ∧ ∃ result, ((c.proceed n).desks n).job = _
  rw [proceed_of_ask hask]
  refine ⟨World.metrics_handle _ _, ?_⟩
  rw [desk_hear, ha]
  rcases hno with rfl | ⟨e, rfl⟩
  · exact ⟨_, rfl⟩
  · exact ⟨_, rfl⟩

end Crew

/-- **At each moment the items fetched are the outcomes and the items whose processing is not over.**
However the batches of the workers interleave, whatever the senders answer and whichever calls of the
store fail, the items that are counted as fetched are as many as the outcomes and those items that
are at hand or to come in a batch, which are told from what is left of each batch.  So the counts agree
when nobody is at a batch; and a batch whose claim fails or finds nothing is over, with nothing
counted. -/
theorem fetched_eq_outcomes_add_unfinished {team : Nat → Worker} {size : Nat} {w : World} {c : Crew}
    (hw : w.metrics.Balanced) (h : Crew.Reaches team (Sound team size) (.gather w) c) :
    (c.world.metrics.fetched.toNat = c.world.metrics.totalOutcomes + c.unfinished size ∧
        ∀ n, (c.desks n).Owes (team n)) ∧
      (c.AtRest size → c.world.metrics.fetched.toNat = c.world.metrics.totalOutcomes) ∧
      ∀ {n answer}, c.Claims team n answer → (answer = .ok [] ∨ ∃ e, answer = .error e) →
        (c.step team (.proceed n)).world.metrics = c.world.metrics ∧
          ∃ result, ((c.step team (.proceed n)).desks n).job = some (.done result) := by
  have ht : c.Tallied team size :=
    h.preserves (Crew.tallied_gather hw) fun hm he => he.step hm
  refine ⟨⟨ht.balance, ht.owes⟩, fun hc => ?_, fun hl hno => hl.counts_nothing hno⟩
  rw [ht.balance, ht.unfinished_of_atRest hc, Nat.add_zero]

namespace Sample

theorem reaches_busy {k : Nat} (hk : k ≤ 7) :
    Crew.Reaches team (Sound team 2) (.gather world) (busy k) := by
  have hsmall : ∀ j < 7, (busy j).world.metrics.fetched.toNat < 2 ^ 53 := by decide
  refine .proceeds (.move (.move (.refl _) (.enqueue [item 5]) ⟨by decide, unbroken_of_outside rfl⟩)
    (.begin 0) ⟨by decide, unbroken_loaded (by decide)⟩) 0 k fun j hj => ?_
  exact ⟨hsmall j (by omega), unbroken_busy (by decide) (by omega)⟩

/-- A worker begins a batch and there is nothing in the queue. -/
def searching : Crew := (Crew.gather world).step team (.begin 0)

theorem reaches_searching : Crew.Reaches team (Sound team 2) (.gather world) searching :=
  (Crew.Reaches.refl _).move (.begin 0) ⟨by decide, fun n hn => by
    obtain rfl := Option.some.inj hn
    exact ⟨by decide, fun h => nomatch h⟩⟩

end Sample

/-- A message on its way is unfinished, and none is when its batch is over; where nothing is in the queue,
a batch ends with nothing counted. -/
theorem one_message_unfinished :
    (Sample.busy 2).unfinished 2 = 1 ∧ (Sample.busy 7).world.metrics.totalOutcomes = 1 ∧
      (Sample.searching.step Sample.team (.proceed 0)).world.metrics =
        Sample.searching.world.metrics := by
  have hw : Sample.world.metrics.Balanced := rfl
  have h := (fetched_eq_outcomes_add_unfinished hw (Sample.reaches_busy (k := 2) (by decide))).1.1
  have h' := (fetched_eq_outcomes_add_unfinished hw (Sample.reaches_busy (k := 7) (by decide))).2.1
  have hrest : (Sample.busy 7).AtRest 2 := by
    intro n hn
    interval_cases n
    · exact .inr ⟨.ok 1, rfl⟩
    · exact .inl rfl
  have hclaims : Sample.searching.Claims Sample.team 0 (.ok []) := ⟨rfl, rfl⟩
  have hnone :=
    (fetched_eq_outcomes_add_unfinished hw Sample.reaches_searching).2.2 hclaims (.inl rfl)
  exact ⟨(Nat.zero_add _).symm.trans h.symm, (h' hrest).symm, hnone.1⟩

end Courier
