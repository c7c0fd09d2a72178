import Mathlib.Data.List.Nodup
import Courier.Proofs.Queue.History

/-!
# Proofs — Store — Subscribers

Who is told about an event.  Identifiers are only appended, and only those that are not there yet.

* `mem_extend`, `prefix_extend`, `nodup_extend`: what appending to a list comes to;
  `extend_of_subset`: nothing happens when all are there.
* `Operation.subscribers_apply`: an operation appends to one list, or leaves all of them alone.
* `Store.Grows`: what this leaves of any later moment.
-/

namespace Courier

namespace Store

variable {known ids : List Uuid}

theorem extend_nil (known : List Uuid) : extend known [] = known := rfl

theorem extend_cons_of_mem {id : Uuid} (h : id ∈ known) (ids : List Uuid) :
    extend known (id :: ids) = extend known ids := by
  rw [extend, List.foldl_cons, if_pos h, ← extend]

theorem extend_cons_of_not_mem {id : Uuid} (h : id ∉ known) (ids : List Uuid) :
    extend known (id :: ids) = extend (known ++ [id]) ids := by
  rw [extend, List.foldl_cons, if_neg h, ← extend]

/-- What was known stays, in its place. -/
theorem prefix_extend (known ids : List Uuid) : known <+: extend known ids := by
  induction ids generalizing known with
  | nil => exact List.prefix_refl known
  | cons id rest ih =>
      by_cases h : id ∈ known
      · rw [extend_cons_of_mem h]
        exact ih known
      · rw [extend_cons_of_not_mem h]
        exact (List.prefix_append known [id]).trans (ih _)

/-- Nothing is known afterwards but what was known before and what was added. -/
theorem mem_extend {x : Uuid} : x ∈ extend known ids ↔ x ∈ known ∨ x ∈ ids := by
  induction ids generalizing known with
  | nil => simp [extend_nil]
  | cons id rest ih =>
      by_cases h : id ∈ known
      · rw [extend_cons_of_mem h, ih, List.mem_cons]
        refine or_congr_right' fun hx => (or_iff_right fun (he : x = id) => ?_).symm
        exact hx (he.symm ▸ h)
      · rw [extend_cons_of_not_mem h, ih, List.mem_append, List.mem_singleton, List.mem_cons,
          or_assoc]

/-- No identifier is listed twice. -/
theorem nodup_extend (h : known.Nodup) (ids : List Uuid) : (extend known ids).Nodup := by
  induction ids generalizing known with
  | nil => exact h
  | cons id rest ih =>
      by_cases hid : id ∈ known
      · rw [extend_cons_of_mem hid]
        exact ih h
      · rw [extend_cons_of_not_mem hid]
        refine ih (List.nodup_append.mpr ⟨h, List.nodup_singleton id, fun a ha b hb hab => ?_⟩)
        exact hid (List.eq_of_mem_singleton hb ▸ hab ▸ ha)

/-- Adding what is known already changes nothing. -/
theorem extend_of_subset (h : ∀ id ∈ ids, id ∈ known) : extend known ids = known := by
  induction ids with
  | nil => rfl
  | cons id rest ih =>
      rw [extend_cons_of_mem (h id List.mem_cons_self)]
      exact ih fun other hother => h other (List.mem_cons_of_mem id hother)

/-- What follows are the identifiers that are not there yet, each once. -/
theorem exists_extend_eq (known ids : List Uuid) :
    ∃ new, extend known ids = known ++ new ∧ new.Nodup ∧
      ∀ id, id ∈ new ↔ id ∈ ids ∧ id ∉ known := by
  induction ids generalizing known with
  | nil => exact ⟨[], (List.append_nil known).symm, List.nodup_nil, by simp⟩
  | cons id rest ih =>
      by_cases h : id ∈ known
      · obtain ⟨new, hnew, hnodup, hmem⟩ := ih known
        refine ⟨new, (extend_cons_of_mem h rest).trans hnew, hnodup, fun other => ?_⟩
        rw [hmem, List.mem_cons]
        refine and_congr_left fun hother => (or_iff_right fun (he : other = id) => ?_).symm
        exact hother (he.symm ▸ h)
      · obtain ⟨new, hnew, hnodup, hmem⟩ := ih (known ++ [id])
        have hid : id ∉ new := fun hin => ((hmem id).mp hin).2 (by simp)
        refine ⟨id :: new, ?_, List.nodup_cons.mpr ⟨hid, hnodup⟩, fun other => ?_⟩
        · rw [extend_cons_of_not_mem h, hnew, List.append_assoc, List.singleton_append]
        · by_cases he : other = id
          · simp [he, h]
          · simp [hmem, he]

/-- Without repetitions among them, the identifiers that are not there yet follow in their order. -/
theorem extend_eq_append (h : ids.Nodup) :
    extend known ids = known ++ ids.filter fun id => id ∉ known := by
  induction ids generalizing known with
  | nil => exact (List.append_nil known).symm
  | cons id rest ih =>
      obtain ⟨hid, hrest⟩ := List.nodup_cons.mp h
      by_cases hknown : id ∈ known
      · rw [extend_cons_of_mem hknown, ih hrest, List.filter_cons_of_neg (by simpa using hknown)]
      · have hsame : (rest.filter fun other => other ∉ known ++ [id]) =
            rest.filter fun other => other ∉ known := by
          refine List.filter_congr fun other hother => ?_
          have hne : other ≠ id := fun he => hid (he ▸ hother)
          simp [hne]
        rw [extend_cons_of_not_mem hknown, ih hrest, hsame, List.append_assoc,
          List.filter_cons_of_pos (by simpa using hknown), List.singleton_append]

/-! ### The lists of a store -/

variable {s : Store}

/-- Adding subscribers to one event changes the list of that event only. -/
theorem eventSubscribers_addEventSubscribers (s : Store) (eventId : Uuid) (ids : List Uuid)
    (other : Uuid) :
    (s.addEventSubscribers eventId ids).eventSubscribers other =
      if other = eventId then extend (s.eventSubscribers eventId) ids
      else s.eventSubscribers other := by
  simp only [eventSubscribers, addEventSubscribers, Table.get?_change]
  split <;> rfl

/-- In `s'` identifiers were added to the list of an event, and all else is as in `s`. -/
structure Enlists (s : Store) (eventId : Uuid) (ids : List Uuid) (s' : Store) : Prop where
  rest : s' = { s with subscribers := s'.subscribers }
  lists : ∀ other, s'.eventSubscribers other =
    if other = eventId then extend (s.eventSubscribers eventId) ids else s.eventSubscribers other

namespace Enlists

theorem nothing (s : Store) (eventId : Uuid) : s.Enlists eventId [] s where
  rest := rfl
  lists := by
    intro other
    split
    · rename_i h
      rw [h, extend_nil]
    · rfl

theorem add (s : Store) (eventId : Uuid) (ids : List Uuid) :
    s.Enlists eventId ids (s.addEventSubscribers eventId ids) :=
  ⟨rfl, s.eventSubscribers_addEventSubscribers eventId ids⟩

variable {s' : Store} {eventId : Uuid}

/-- Enlisting subscribers leaves the queue alone. -/
theorem items (h : s.Enlists eventId ids s') : s'.items = s.items := by rw [h.rest]

/-- It leaves the channels alone. -/
theorem getChannel? (h : s.Enlists eventId ids s') (id : Uuid) :
    s'.getChannel? id = s.getChannel? id := by
  rw [h.rest]
  rfl

end Enlists

/-- The event has a list, and the identifiers are in it. -/
def Lists (s : Store) (eventId : Uuid) (ids : List Uuid) : Prop :=
  ∃ known, s.subscribers.get? eventId = some known ∧ ∀ id ∈ ids, id ∈ known

/-- After the addition the event lists all that were added. -/
theorem lists_addEventSubscribers (s : Store) (eventId : Uuid) (ids : List Uuid) :
    (s.addEventSubscribers eventId ids).Lists eventId ids := by
  refine ⟨extend (s.eventSubscribers eventId) ids, ?_, fun id hid => mem_extend.mpr (.inr hid)⟩
  simp only [addEventSubscribers, Table.get?_change]
  rfl

theorem Lists.eventSubscribers {eventId : Uuid} {ids : List Uuid} (h : s.Lists eventId ids) :
    ∀ id ∈ ids, id ∈ s.eventSubscribers eventId := by
  obtain ⟨known, hknown, hids⟩ := h
  rw [Store.eventSubscribers, hknown]
  exact hids

/-- To add what is there changes nothing. -/
theorem Lists.addEventSubscribers {eventId : Uuid} {ids : List Uuid} (h : s.Lists eventId ids) :
    s.addEventSubscribers eventId ids = s := by
  obtain ⟨known, hknown, hids⟩ := h
  have hsame : (s.subscribers.change [] eventId fun known => extend known ids) = s.subscribers :=
    Table.change_of_get? hknown (extend_of_subset hids)
  rw [Store.addEventSubscribers, hsame]

/-- Once they are listed, none of them is new. -/
theorem Lists.newSubscribers {eventId : Uuid} {ids : List Uuid} (h : s.Lists eventId ids) :
    s.newSubscribers eventId ids = 0 := by
  rw [Store.newSubscribers, extend_of_subset h.eventSubscribers, Nat.sub_self]

/-- The list grows by the number of new subscribers. -/
theorem length_addEventSubscribers (s : Store) (eventId : Uuid) (ids : List Uuid) :
    ((s.addEventSubscribers eventId ids).eventSubscribers eventId).length =
      (s.eventSubscribers eventId).length + s.newSubscribers eventId ids := by
  rw [eventSubscribers_addEventSubscribers, if_pos rfl, newSubscribers,
    Nat.add_sub_cancel' (prefix_extend _ ids).length_le]

end Store

/-- **An operation appends to the list of one event,** or leaves all lists alone. -/
theorem Operation.subscribers_apply (op : Operation) (now : Instant) (s : Store) :
    (op.apply now s).subscribers = s.subscribers ∨
      ∃ eventId ids, op.apply now s = s.addEventSubscribers eventId ids := by
  cases op with
  | makeDue id => exact .inl rfl
  | backdate id updatedAt => exact .inl rfl
  | edit e =>
      cases e with
      | addEventSubscribers eventId ids => exact .inr ⟨eventId, ids, rfl⟩
      | _ => exact .inl rfl
  | call c =>
      cases c with
      | addEventSubscribers eventId ids => exact .inr ⟨eventId, ids, rfl⟩
      | _ => exact .inl rfl

namespace Store

/-- What the lists of `s` are in `t`: no identifier was taken out or came a second time. -/
structure Grows (s t : Store) : Prop where
  grown : ∀ eventId, s.eventSubscribers eventId <+: t.eventSubscribers eventId
  nodup : ∀ eventId, (s.eventSubscribers eventId).Nodup → (t.eventSubscribers eventId).Nodup
  lists : ∀ {eventId ids}, s.Lists eventId ids → t.Lists eventId ids

namespace Grows

variable {s t u : Store}

theorem trans (h : s.Grows t) (h' : t.Grows u) : s.Grows u :=
  ⟨fun eventId => (h.grown eventId).trans (h'.grown eventId),
    fun eventId hs => h'.nodup eventId (h.nodup eventId hs), fun hs => h'.lists (h.lists hs)⟩

theorem of_subscribers (h : t.subscribers = s.subscribers) : s.Grows t := by
  have hlists : ∀ eventId, t.eventSubscribers eventId = s.eventSubscribers eventId := by
    intro eventId
    rw [eventSubscribers, eventSubscribers, h]
  refine ⟨fun eventId => ?_, fun eventId hs => ?_, fun hs => ?_⟩
  · exact hlists eventId ▸ List.prefix_refl _
  · rwa [hlists]
  · rwa [Lists, h]

/-- Adding subscribers makes the lists grow. -/
theorem addEventSubscribers (s : Store) (eventId : Uuid) (ids : List Uuid) :
    s.Grows (s.addEventSubscribers eventId ids) := by
  refine ⟨fun other => ?_, fun other hs => ?_, fun {other wanted} hs => ?_⟩
  · rw [eventSubscribers_addEventSubscribers]
    split
    · rename_i he
      exact he ▸ prefix_extend _ ids
    · exact List.prefix_refl _
  · rw [eventSubscribers_addEventSubscribers]
    split
    · rename_i he
      exact nodup_extend (he ▸ hs) ids
    · exact hs
  · obtain ⟨known, hknown, hwanted⟩ := hs
    by_cases he : other = eventId
    · subst he
      refine ⟨extend known ids, ?_, fun id hid => mem_extend.mpr (.inl (hwanted id hid))⟩
      simp [Store.addEventSubscribers, hknown]
    · refine ⟨known, ?_, hwanted⟩
      simp [Store.addEventSubscribers, he, hknown]

/-- No operation shortens a list of subscribers. -/
theorem apply (op : Operation) (now : Instant) (s : Store) : s.Grows (op.apply now s) := by
  rcases op.subscribers_apply now s with h | ⟨eventId, ids, h⟩
  · exact .of_subscribers h
  · rw [h]
    exact .addEventSubscribers s eventId ids

/-- **No number of operations takes a subscriber out or brings one a second time.** -/
theorem after (s : Store) (ops : List (Instant × Operation)) : s.Grows (s.after ops) := by
  induction ops generalizing s with
  | nil => exact .of_subscribers rfl
  | cons op rest ih => exact (Grows.apply op.2 op.1 s).trans (ih _)

end Grows

/-- In every store that operations have made out of the empty one, no list has an identifier
twice. -/
theorem nodup_eventSubscribers_after (ops : List (Instant × Operation)) (eventId : Uuid) :
    ((Store.empty.after ops).eventSubscribers eventId).Nodup :=
  (Grows.after Store.empty ops).nodup eventId List.nodup_nil

end Store

end Courier
