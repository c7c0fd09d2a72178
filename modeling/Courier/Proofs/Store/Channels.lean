import Mathlib.Data.List.Nodup
import Courier.Proofs.Queue.History

/-!
# Proofs — Store — Channels

The channels that are kept, and those that an announcement reaches.

* `Store.Registered`: no two channels have one identifier, as it is in every store that operations
  have made (`registered_after`).
* `Store.audience`: the channels that hear about services, with the addresses of their owners.
  `findSubscribers_eq` finds these, and each of them is looked up as it is
  (`getChannel?_of_mem_audience`).
-/

namespace Courier

namespace Channel

/-- Messages about the services go to the channel. -/
def Hears (c : Channel) (serviceIds : List Uuid) : Prop :=
  (c.enabled = true ∧ c.verified = true) ∧
    (c.subscribeAllServices = true ∨ ∃ id ∈ serviceIds, id ∈ c.serviceIds.members)

instance (c : Channel) (serviceIds : List Uuid) : Decidable (c.Hears serviceIds) := by
  unfold Hears
  infer_instance

theorem decide_hears (c : Channel) (serviceIds : List Uuid) :
    decide (c.Hears serviceIds) = (c.isDeliverable && c.isSubscribedToAny serviceIds) := by
  rw [Bool.eq_iff_iff, decide_eq_true_iff]
  simp [Hears, isDeliverable, isSubscribedToAny, IdSet.contains]

end Channel

namespace Store

variable {s : Store}

/-! ### Registered channels -/

/-- No two channels have one identifier. -/
def Registered (s : Store) : Prop := (s.channels.map (·.id)).Nodup

/-- A change of channels that leaves the identifiers alone. -/
theorem Registered.changeFirst (h : s.Registered) (p : Channel → Bool) {f : Channel → Channel}
    (hf : ∀ c, (f c).id = c.id) :
    Registered { s with channels := changeFirst p f s.channels } := by
  have hids : (Courier.changeFirst p f s.channels).map (·.id) = s.channels.map (·.id) := by
    induction s.channels with
    | nil => rfl
    | cons c rest ih =>
        by_cases hp : p c = true
        · rw [Courier.changeFirst, if_pos hp, List.map_cons, List.map_cons, hf c]
        · rw [Courier.changeFirst, if_neg hp, List.map_cons, List.map_cons, ih]
  show ((Courier.changeFirst p f s.channels).map (·.id)).Nodup
  rw [hids]
  exact h

/-- Taking channels out keeps the identifiers distinct. -/
theorem Registered.filter (h : s.Registered) (p : Channel → Bool) :
    Registered { s with channels := s.channels.filter p } :=
  h.sublist (List.filter_sublist.map _)

/-- A new channel takes the place of one with its identifier. -/
theorem Registered.insertChannel (h : s.Registered) (c : Channel) :
    (s.insertChannel c).Registered := by
  show ((s.channels.filter (·.id ≠ c.id) ++ [c]).map (·.id)).Nodup
  rw [List.map_append]
  refine List.nodup_append.mpr ⟨h.filter _, List.nodup_singleton _, fun a ha b hb hab => ?_⟩
  -- what had the identifier of the new channel was taken out
  obtain ⟨other, hother, rfl⟩ := List.mem_map.mp ha
  rw [List.eq_of_mem_singleton hb] at hab
  exact of_decide_eq_true (List.mem_filter.mp hother).2 hab

/-- So every operation keeps them distinct. -/
theorem Registered.apply (h : s.Registered) (op : Operation) (now : Instant) :
    (op.apply now s).Registered := by
  cases op with
  | call c => cases c <;> exact h
  | makeDue id => exact h
  | backdate id updatedAt => exact h
  | edit e =>
      cases e with
      | insertChannel c => exact h.insertChannel c
      | removeChannel id => exact h.filter _
      | setEnabled id enabled => exact h.changeFirst _ fun _ => rfl
      | setVerified id verified => exact h.changeFirst _ fun _ => rfl
      | _ => exact h

/-- In every store that operations have made out of the empty one, the channels are registered. -/
theorem registered_after (ops : List (Instant × Operation)) :
    (Store.empty.after ops).Registered := by
  suffices h : ∀ s : Store, s.Registered → (s.after ops).Registered from h _ List.nodup_nil
  induction ops with
  | nil => exact fun s h => h
  | cons op rest ih => exact fun s h => ih _ (h.apply op.2 op.1)

/-! ### Those who hear -/

/-- A channel with the address of its owner. -/
def addressed (s : Store) (c : Channel) : Channel := { c with ownerEmail := s.ownerEmail c }

/-- The channels that hear about the services, as they are looked up. -/
def audience (s : Store) (serviceIds : List Uuid) : List Channel :=
  (s.channels.filter fun c => c.Hears serviceIds).map s.addressed

/-- The subscribers found are the audience, each as the channel has it. -/
theorem findSubscribers_eq (s : Store) (serviceIds : List Uuid) :
    s.findSubscribers serviceIds =
      (s.audience serviceIds).map fun c => ⟨c.id, c.channelType, c.target, c.ownerEmail⟩ := by
  have hfilter : (s.channels.filter fun c => c.isDeliverable && c.isSubscribedToAny serviceIds) =
      s.channels.filter fun c => c.Hears serviceIds :=
    List.filter_congr fun c _ => (c.decide_hears serviceIds).symm
  rw [findSubscribers, audience, hfilter, List.map_map]
  rfl

/-- The identifiers of the channels that hear about the services. -/
def hearers (s : Store) (serviceIds : List Uuid) : List Uuid :=
  (s.audience serviceIds).map (·.id)

/-- Their identifiers are those of the hearers, in the same order. -/
theorem map_channelId_findSubscribers (s : Store) (serviceIds : List Uuid) :
    (s.findSubscribers serviceIds).map (·.channelId) = s.hearers serviceIds := by
  rw [findSubscribers_eq, List.map_map]
  rfl

/-- No channel hears twice. -/
theorem Registered.nodup_hearers (h : s.Registered) (serviceIds : List Uuid) :
    (s.hearers serviceIds).Nodup := by
  rw [hearers, audience, List.map_map]
  exact h.filter _

/-- A registered channel is found under its identifier. -/
theorem Registered.getChannel?_of_mem (h : s.Registered) {c : Channel} (hc : c ∈ s.channels) :
    s.getChannel? c.id = some (s.addressed c) := by
  have hfind : s.channels.find? (fun other => other.id = c.id) = some c := by
    rw [Registered] at h
    generalize s.channels = channels at h hc
    induction channels with
    | nil => cases hc
    | cons other rest ih =>
        obtain ⟨hne, hrest⟩ := List.nodup_cons.mp h
        rcases List.mem_cons.mp hc with rfl | hin
        · simp
        · have hid : other.id ≠ c.id := fun e => hne (List.mem_map.mpr ⟨c, hin, e.symm⟩)
          rw [List.find?_cons, decide_eq_false hid]
          exact ih hrest hin
  rw [getChannel?, hfind]
  rfl

/-- A channel of the audience is found under its identifier, as it stands. -/
theorem Registered.getChannel?_of_mem_audience (h : s.Registered) {serviceIds : List Uuid}
    {c : Channel} (hc : c ∈ s.audience serviceIds) : s.getChannel? c.id = some c := by
  obtain ⟨kept, hkept, rfl⟩ := List.mem_map.mp hc
  exact h.getChannel?_of_mem (List.mem_filter.mp hkept).1

/-- Everyone in the audience hears the services. -/
theorem hears_of_mem_audience {serviceIds : List Uuid} {c : Channel}
    (hc : c ∈ s.audience serviceIds) : c.Hears serviceIds := by
  obtain ⟨kept, hkept, rfl⟩ := List.mem_map.mp hc
  exact of_decide_eq_true (List.mem_filter.mp hkept).2

end Store

end Courier
