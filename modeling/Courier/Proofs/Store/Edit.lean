import Courier.Store

/-!
# Proofs — Store — Edit

What is changed beside the queue: channels, addresses, the catalog, and who is told about an event.
-/

namespace Courier

/-- A change of what is kept beside the queue. -/
inductive Edit where
  | insertChannel (channel : Channel)
  | removeChannel (id : Uuid)
  | setEnabled (id : Uuid) (enabled : Bool)
  | setVerified (id : Uuid) (verified : Bool)
  | setUserEmail (user : Uuid) (email : String)
  | insertService (service : Service)
  | insertGroup (group : Group)
  | addEventSubscribers (eventId : Uuid) (ids : List Uuid)

namespace Edit

/-- The store after an edit. -/
def apply (now : Instant) (s : Store) : Edit → Store
  | insertChannel channel => s.insertChannel channel
  | removeChannel id => s.removeChannel id
  | setEnabled id enabled => s.setEnabled now id enabled
  | setVerified id verified => s.setVerified now id verified
  | setUserEmail user email => s.setUserEmail user email
  | insertService service => s.insertService service
  | insertGroup group => s.insertGroup group
  | addEventSubscribers eventId ids => s.addEventSubscribers eventId ids

/-- An edit leaves the queue alone. -/
@[simp] theorem items_apply (now : Instant) (s : Store) (e : Edit) :
    (e.apply now s).items = s.items := by
  cases e <;> rfl

end Edit

end Courier
