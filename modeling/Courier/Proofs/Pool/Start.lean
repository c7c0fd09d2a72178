import Courier.Pool
import Courier.Proofs.Queue.Recovery
import Courier.Proofs.Settings

/-!
# Proofs — Pool — Start

What the start of a pool does to claims that others left behind.

* `Settings.Abandoned`: a claim that is older than the settings say.
* `Settings.StartsRight`: the start of a pool ends, and gives back the abandoned claims and no
  others before any worker runs.
* `Settings.claimSeconds`: the age that is gone by instead.  A setting of more seconds than can be
  subtracted from a time is none, and ten minutes stand in for it (`staleAge_pool`).
* `run_recover`, `run_recover_off`: one recovery, with the time that lies as far back as the cutoff,
  or without one, where it crashes.
* `start_gives_back_abandoned_iff`: the start is right exactly where that time is on the calendar,
  and the ten minutes, if they stand in, cover every claim.
* `start_crashes_or_takes_young_claim`: settings without a fault under which it is not.
-/

namespace Courier

namespace Settings

/-- The longest age in seconds that can be subtracted from a time. -/
def longestClaimSeconds : Nat := 9223372036854775

/-- The age in seconds that claims are recovered from. -/
def claimSeconds (s : Settings) : Nat :=
  if s.staleClaimSeconds.toNat ≤ longestClaimSeconds then s.staleClaimSeconds.toNat else 600

/-- A worker has had the item for longer than the settings say: since before a time that lies so far
back.  Where no time does, nobody has had it for as long. -/
def Abandoned (s : Settings) (now : Instant) (row : QueueItem) : Prop :=
  ∃ cutoff, now.shift? (-((Span.ofSeconds s.staleClaimSeconds.toNat).nanos : Int)) = some cutoff ∧
    row.Stale cutoff

/-- The age that is gone by is the one set, or ten minutes. -/
theorem staleAge_pool (s : Settings) : s.pool.staleAge = .ofSeconds s.claimSeconds := by
  have hiff : s.pool.staleClaimAfter.nanos ≤ PoolSettings.longestAge.nanos ↔
      s.staleClaimSeconds.toNat ≤ longestClaimSeconds := by
    show s.staleClaimSeconds.toNat * 1000000000 ≤ 9223372036854775807 * 1000000 ↔
      s.staleClaimSeconds.toNat ≤ 9223372036854775
    omega
  rw [PoolSettings.staleAge, claimSeconds]
  by_cases h : s.staleClaimSeconds.toNat ≤ longestClaimSeconds
  · rw [if_pos (hiff.mpr h), if_pos h]
    rfl
  · rw [if_neg (mt hiff.mp h), if_neg h]

/-- No claim is older than the years are long. -/
theorem not_abandoned_of_lt {s : Settings} (h : longestClaimSeconds < s.staleClaimSeconds.toNat)
    (now : Instant) (row : QueueItem) : ¬s.Abandoned now row := by
  rintro ⟨cutoff, hcutoff, -⟩
  have hnanos : (Span.ofSeconds s.staleClaimSeconds.toNat).nanos =
      s.staleClaimSeconds.toNat * 1000000000 := rfl
  rw [longestClaimSeconds] at h
  rw [hnanos, Instant.shift?_eq_none_of_le (by omega)] at hcutoff
  cases hcutoff

/-- Where the setting is gone by, the claims before the cutoff are the abandoned ones. -/
theorem abandoned_iff {s : Settings} {now cutoff : Instant} {row : QueueItem}
    (h : s.staleClaimSeconds.toNat ≤ longestClaimSeconds)
    (hc : now.shift? (-((Span.ofSeconds s.claimSeconds).nanos : Int)) = some cutoff) :
    s.Abandoned now row ↔ row.Stale cutoff := by
  rw [claimSeconds, if_pos h] at hc
  rw [Abandoned, hc]
  simp only [Option.some.injEq, exists_eq_left']

end Settings

/-- The claims that a recovery counts are those from before its time. -/
theorem Store.staleCount_eq (olderThan : Instant) (s : Store) :
    s.staleCount olderThan = s.items.countP fun row => row.Stale olderThan :=
  congrArg (fun p => s.items.countP p) (funext fun row => (row.decide_stale olderThan).symm)

section

variable {s : PoolSettings} {w : World} {cutoff : Instant}

/-- A recovery that the store serves. -/
theorem run_recover (hc : w.now.shift? (-s.staleAge.nanos) = some cutoff)
    (hf : w.nextFault? "recover_stale" = none) :
    w.run (recover s) =
      ({ w.afterCall "recover_stale" with store := w.store.recoverStale w.now cutoff },
        some (.ok (w.store.items.countP fun row => row.Stale cutoff))) := by
  have hserved : w.nextFault? (StoreCall.recoverStale cutoff).name = none := hf
  simp only [recover, Program.bind_eq_bind]
  rw [World.run_clock, hc, World.run_orCrash_some, ← Program.bind_done (Program.call _),
    World.run_call_served hserved rfl, Store.staleCount_eq]
  rfl

/-- A recovery that fails changes nothing. -/
theorem run_recover_failed (hc : w.now.shift? (-s.staleAge.nanos) = some cutoff) {e : StoreError}
    (hf : w.nextFault? "recover_stale" = some e) :
    w.run (recover s) = (w.afterCall "recover_stale", some (.error e)) := by
  have hfailed : w.nextFault? (StoreCall.recoverStale cutoff).name = some e := hf
  simp only [recover, Program.bind_eq_bind]
  rw [World.run_clock, hc, World.run_orCrash_some, ← Program.bind_done (Program.call _),
    World.run_call_failed hfailed]
  rfl

/-- A recovery whose cutoff is off the calendar crashes, before it asks the store. -/
theorem run_recover_off (hc : w.now.shift? (-s.staleAge.nanos) = none) :
    w.run (recover s) = (w, none) := by
  simp only [recover, Program.bind_eq_bind]
  rw [World.run_clock, hc, World.run_orCrash_none]

end

/-! ### What is given back -/

/-- The rows in a state are pending, and nothing else has changed. -/
structure Store.Recovered (s : Store) (now : Instant) (Old : QueueItem → Prop) (s' : Store) :
    Prop where
  rows : List.Forall₂ (fun row row' =>
    (Old row → row' = { row with status := .pending, updatedAt := now }) ∧
      (¬Old row → row' = row)) s.items s'.items
  beside : s' = { s with items := s'.items }

/-- The store gives the claims from before a time back. -/
theorem Store.recovered_recoverStale (s : Store) (now cutoff : Instant) :
    s.Recovered now (·.Stale cutoff) (s.recoverStale now cutoff) :=
  ⟨s.forall₂_recoverStale now cutoff, rfl⟩

/-- What is given back depends on the state of the rows of the store alone. -/
theorem Store.Recovered.congr {s s' : Store} {now : Instant} {Old Old' : QueueItem → Prop}
    (h : s.Recovered now Old s') (hiff : ∀ row ∈ s.items, Old row ↔ Old' row) :
    s.Recovered now Old' s' := by
  refine ⟨List.forall₂_iff_get.mpr ⟨h.rows.length_eq, fun i hi hi' => ?_⟩, h.beside⟩
  rw [← hiff _ (List.get_mem s.items ⟨i, hi⟩)]
  exact h.rows.get hi hi'

/-- A row in the hands of a worker tells whether it was given back. -/
theorem Store.Recovered.iff {s s' : Store} {now : Instant} {Old Old' : QueueItem → Prop}
    (h : s.Recovered now Old s') (h' : s.Recovered now Old' s') {row : QueueItem}
    (hrow : row ∈ s.items) (hs : row.status = .processing) : Old row ↔ Old' row := by
  obtain ⟨i, hi, rfl⟩ := List.getElem_of_mem hrow
  have hi' : i < s'.items.length := h.rows.length_eq ▸ hi
  have hstatus (P : QueueItem → Prop) (hP : s.Recovered now P s') :
      P s.items[i] ↔ s'.items[i].status = .pending := by
    obtain ⟨hold, hyoung⟩ := hP.rows.get hi hi'
    constructor
    · intro hp
      have hrow' : s'.items[i] = _ := hold hp
      rw [hrow']
    · intro hp
      by_contra hn
      have hrow' : s'.items[i] = s.items[i] := hyoung hn
      rw [hrow', hs] at hp
      cases hp
  rw [hstatus Old h, hstatus Old' h']

/-- The start of a pool ends, with the abandoned claims back in the queue and nothing else changed,
before any worker runs. -/
def Settings.StartsRight (s : Settings) (w : World) : Prop :=
  ∃ w' n, w.run (recover s.pool) = (w', some (.ok n)) ∧
    w.store.Recovered w.now (s.Abandoned w.now) w'.store ∧
    ∀ worker length, Pool.runPhase s.pool worker length w =
      (Pool.runFor s.pool worker length w', some ⟨.ok (), true⟩)

/-- What a start that crashes leaves is what it found. -/
theorem runPhase_of_off {s : PoolSettings} {w : World} (hc : w.now.shift? (-s.staleAge.nanos) = none)
    (worker : Worker) (length : Nat) : Pool.runPhase s worker length w = (w, none) := by
  rw [Pool.runPhase, run_recover_off hc]

/-- The start is right exactly if there is a cutoff, and none of the claims before it is younger than
the setting says. -/
theorem Settings.startsRight_iff {s : Settings} {w : World}
    (hf : w.nextFault? "recover_stale" = none) :
    s.StartsRight w ↔
      ∃ cutoff, w.now.shift? (-((Span.ofSeconds s.claimSeconds).nanos : Int)) = some cutoff ∧
        (s.staleClaimSeconds.toNat ≤ longestClaimSeconds ∨
          ∀ row ∈ w.store.items, ¬row.Stale cutoff) := by
  constructor
  · rintro ⟨w', n, hrun, hrecovered, -⟩
    cases hc : w.now.shift? (-((Span.ofSeconds s.claimSeconds).nanos : Int)) with
    | none =>
        rw [← s.staleAge_pool] at hc
        rw [run_recover_off hc] at hrun
        cases hrun
    | some cutoff =>
        have hlength := Nat.lt_or_ge longestClaimSeconds s.staleClaimSeconds.toNat
        refine ⟨cutoff, rfl, hlength.symm.imp_right fun hlong row hrow hstale => ?_⟩
        rw [← s.staleAge_pool] at hc
        rw [run_recover hc hf] at hrun
        obtain ⟨rfl, -⟩ := Prod.mk.inj hrun
        have hold := hrecovered.iff (w.store.recovered_recoverStale w.now cutoff) hrow hstale.1
        exact not_abandoned_of_lt hlong w.now row (hold.mpr hstale)
  · rintro ⟨cutoff, hc, hcovered⟩
    have hiff : ∀ row ∈ w.store.items, row.Stale cutoff ↔ s.Abandoned w.now row := by
      intro row hrow
      by_cases hlong : s.staleClaimSeconds.toNat ≤ longestClaimSeconds
      · exact (abandoned_iff hlong hc).symm
      · have hyoung := hcovered.resolve_left hlong row hrow
        exact iff_of_false hyoung (not_abandoned_of_lt (Nat.lt_of_not_le hlong) w.now row)
    rw [← s.staleAge_pool] at hc
    refine ⟨_, _, run_recover hc hf, (w.store.recovered_recoverStale w.now cutoff).congr hiff, ?_⟩
    intro worker length
    rw [Pool.runPhase, run_recover hc hf]

/-- **The start of a pool ends and gives back exactly the claims that are older than the settings
allow if and only if** the time that lies so far back is on the calendar and, where the age is beyond
the longest, no claim is older than the ten minutes that stand in for it.  Off the calendar the start
crashes, and changes nothing.  Otherwise the claims from before the cutoff go back before any worker
runs, all of them and no others, and if the store fails the recovery, the start says so and changes
nothing. -/
theorem start_gives_back_abandoned_iff (settings : Settings) (w : World) :
    (w.nextFault? "recover_stale" = none → (settings.StartsRight w ↔
      ∃ cutoff, w.now.shift? (-((Span.ofSeconds settings.claimSeconds).nanos : Int)) = some cutoff ∧
        (settings.staleClaimSeconds.toNat ≤ Settings.longestClaimSeconds ∨
          ∀ row ∈ w.store.items, ¬row.Stale cutoff))) ∧
    (w.now.shift? (-((Span.ofSeconds settings.claimSeconds).nanos : Int)) = none →
      ∀ worker length, Pool.runPhase settings.pool worker length w = (w, none)) ∧
    ∀ cutoff, w.now.shift? (-((Span.ofSeconds settings.claimSeconds).nanos : Int)) = some cutoff →
      (∀ e, w.nextFault? "recover_stale" = some e →
        ∃ w', w.run (recover settings.pool) = (w', some (.error e)) ∧ w'.store = w.store) ∧
      (w.nextFault? "recover_stale" = none →
        ∃ w', w.run (recover settings.pool) =
            (w', some (.ok (w.store.items.countP fun row => row.Stale cutoff))) ∧
          w.store.Recovered w.now (·.Stale cutoff) w'.store ∧
          ∀ worker length, Pool.runPhase settings.pool worker length w =
            (Pool.runFor settings.pool worker length w', some ⟨.ok (), true⟩)) := by
  refine ⟨Settings.startsRight_iff, fun hc => ?_, fun cutoff hc => ?_⟩
  · rw [← settings.staleAge_pool] at hc
    exact runPhase_of_off hc
  · rw [← settings.staleAge_pool] at hc
    refine ⟨fun e hf => ⟨_, run_recover_failed hc hf, rfl⟩, fun hf => ?_⟩
    refine ⟨_, run_recover hc hf, w.store.recovered_recoverStale w.now cutoff, ?_⟩
    intro worker length
    rw [Pool.runPhase, run_recover hc hf]

namespace Sample

/-- A message that a worker claimed ten minutes and a second ago. -/
def deserted : World :=
  { world with
    store := { world.store with items := [((item 5).enter .epoch).claim .epoch] }
    now := ⟨601, 0, by decide⟩ }

/-- Settings under which hardly any claim is given up: after `n` seconds. -/
def patient (n : UInt64) : Settings := { Settings.standard with staleClaimSeconds := n }

end Sample

/-- Under the settings of a deployment that sets nothing the start is right, and the message goes
back. -/
theorem deserted_claim_recovered :
    Settings.standard.StartsRight Sample.deserted ∧
      ∃ w', Sample.deserted.run (recover Settings.standard.pool) = (w', some (.ok 1)) ∧
        Sample.deserted.store.Recovered Sample.deserted.now (·.Stale ⟨1, 0, by decide⟩)
          w'.store := by
  have hc : Sample.deserted.now.shift?
      (-((Span.ofSeconds Settings.standard.claimSeconds).nanos : Int)) =
        some ⟨1, 0, by decide⟩ := by decide +kernel
  obtain ⟨hright, -, hexact⟩ := start_gives_back_abandoned_iff .standard Sample.deserted
  obtain ⟨w', hrun, hrecovered, -⟩ := (hexact _ hc).2 rfl
  exact ⟨(hright rfl).mpr ⟨_, hc, .inl (by decide)⟩, w', hrun, hrecovered⟩

/-- Two settings without a fault under which a start is not right.  With 10^13 seconds there is no
time that lies so far back, and it crashes.  With 2^64 - 1 ten minutes stand in for them, and a claim
that is 601 seconds old is taken from its worker. -/
theorem start_crashes_or_takes_young_claim :
    (Sample.patient 10000000000000).check = .ok (Sample.patient 10000000000000) ∧
      (Sample.patient 18446744073709551615).check = .ok (Sample.patient 18446744073709551615) ∧
      Sample.deserted.store.items.map (fun row => (row.status, row.updatedAt.second)) =
        [(.processing, 0)] ∧
      Sample.deserted.now.second = 601 ∧
      (∀ worker length, Pool.runPhase (Sample.patient 10000000000000).pool worker length
        Sample.deserted = (Sample.deserted, none)) ∧
      ¬(Sample.patient 10000000000000).StartsRight Sample.deserted ∧
      (Sample.deserted.run (recover (Sample.patient 18446744073709551615).pool)).1.store.items.map
        (·.status) = [.pending] ∧
      ¬(Sample.patient 18446744073709551615).StartsRight Sample.deserted := by
  have hoff : Sample.deserted.now.shift?
      (-((Span.ofSeconds (Sample.patient 10000000000000).claimSeconds).nanos : Int)) = none := by
    decide +kernel
  have hstand : Sample.deserted.now.shift?
      (-((Span.ofSeconds (Sample.patient 18446744073709551615).claimSeconds).nanos : Int)) =
        some ⟨1, 0, by decide⟩ := by decide +kernel
  refine ⟨by decide +kernel, by decide +kernel, by decide +kernel, rfl, ?_, fun hright => ?_,
    by decide +kernel, fun hright => ?_⟩
  · rw [← Settings.staleAge_pool] at hoff
    exact runPhase_of_off hoff
  · obtain ⟨cutoff, hc, -⟩ := (Settings.startsRight_iff rfl).mp hright
    rw [hoff] at hc
    cases hc
  · obtain ⟨cutoff, hc, hcovered⟩ := (Settings.startsRight_iff rfl).mp hright
    cases hstand.symm.trans hc
    have hyoung := hcovered.resolve_left (by decide)
    exact hyoung _ List.mem_cons_self (by decide +kernel)

end Courier
