import Courier.Catalog
import Courier.Channel
import Courier.Order
import Courier.Queue.Stats
import Courier.Table

/-!
# Store

What is kept: the queue, the channels, the accounts' addresses, the catalog, and for each event the
channels that are told about it.

A step of the queue names the status that it starts from, so that it leaves alone an item that is
not there.  Items stay in the order in which they came and are never removed.
-/

namespace Courier

/-- The queue and all that is looked up for it. -/
structure Store where
  items : List QueueItem
  channels : List Channel
  /-- The addresses of the accounts, by user. -/
  userEmails : Table Uuid String
  services : Table Uuid Service
  groups : Table Uuid Group
  /-- The channels that are told about an event, by event. -/
  subscribers : Table Uuid (List Uuid)
  deriving DecidableEq

/-- Changes the first element that `p` picks out. -/
def changeFirst {α : Type} (p : α → Bool) (f : α → α) : List α → List α
  | [] => []
  | a :: rest => if p a then f a :: rest else a :: changeFirst p f rest

namespace QueueItem

/-- Whether `a` is due no later than `b`. -/
def dueBefore (a b : QueueItem) : Bool := a.nextAttemptAt.le b.nextAttemptAt

/-- Whether `a` was changed no earlier than `b`. -/
def newerThan (a b : QueueItem) : Bool := b.updatedAt.le a.updatedAt

/-- Whether the item has the identifier and stands in the status. -/
def isIn (id : Uuid) (status : QueueStatus) (item : QueueItem) : Bool :=
  decide (item.id = id ∧ item.status = status)

/-- The item in the hands of a worker. -/
def claim (now : Instant) (item : QueueItem) : QueueItem :=
  { item with status := .processing, updatedAt := now }

/-- The item once its message was sent. -/
def succeed (now : Instant) (item : QueueItem) : QueueItem :=
  { item with status := .sent, sentAt := some now, updatedAt := now }

/-- The item once it was given up, with the reason. -/
def fail (now : Instant) (error : String) (item : QueueItem) : QueueItem :=
  { item with status := .failed, lastError := some error, updatedAt := now }

/-- The item after a failed attempt; none where the count of attempts ends. -/
def retry? (now : Instant) (error : String) (nextAttemptAt : Instant) (item : QueueItem) :
    Option QueueItem :=
  (nextAttempt? item.attempts).map fun attempts =>
    { item with
      status := .pending, attempts, lastError := some error, nextAttemptAt, updatedAt := now }

/-- The item on its way again, as if it had not been tried. -/
def requeue (now : Instant) (item : QueueItem) : QueueItem :=
  { item with status := .pending, attempts := 0, nextAttemptAt := now, updatedAt := now }

/-- The item whose worker is gone, on its way again. -/
def recover (now : Instant) (item : QueueItem) : QueueItem :=
  { item with status := .pending, updatedAt := now }

/-- Whether a claim was made before a time. -/
def isStale (olderThan : Instant) (item : QueueItem) : Bool :=
  decide (item.status = .processing) && item.updatedAt.lt olderThan

end QueueItem

namespace Store

/-- A store that holds nothing. -/
def empty : Store := ⟨[], [], .empty, .empty, .empty, .empty⟩

/-! ## The queue -/

/-- Puts a new item at the end of the queue. -/
def enqueue (now : Instant) (item : NewItem) (s : Store) : Store :=
  { s with items := s.items ++ [item.enter now] }

/-- Puts new items at the end of the queue, in their order. -/
def enqueueBatch (now : Instant) (items : List NewItem) (s : Store) : Store :=
  { s with items := s.items ++ items.map (·.enter now) }

/-- The due items with their places, in the order in which they are claimed. -/
def due (now : Instant) (s : Store) : List (QueueItem × Nat) :=
  sortBy (fun a b => a.1.dueBefore b.1) (s.items.zipIdx.filter fun entry => entry.1.isDue now)

/-- The items that a claim takes, with their places. -/
def claimable (now : Instant) (limit : UInt32) (s : Store) : List (QueueItem × Nat) :=
  (s.due now).take limit.toNat

/-- What a worker gets that claims. -/
def claimed (now : Instant) (limit : UInt32) (s : Store) : List QueueItem :=
  (s.claimable now limit).map fun entry => entry.1.claim now

/-- The store after a claim. -/
def claimDue (now : Instant) (limit : UInt32) (s : Store) : Store :=
  -- by place, since nothing keeps two rows from having one identifier
  let places := (s.claimable now limit).map (·.2)
  { s with
    items := s.items.zipIdx.map fun (item, i) => if i ∈ places then item.claim now else item }

/-- Notes that the message of a claimed item was sent. -/
def markSent (now : Instant) (id : Uuid) (s : Store) : Store :=
  { s with items := changeFirst (·.isIn id .processing) (·.succeed now) s.items }

/-- Notes that a claimed item was given up. -/
def markFailed (now : Instant) (id : Uuid) (error : String) (s : Store) : Store :=
  { s with items := changeFirst (·.isIn id .processing) (·.fail now error) s.items }

/-- The item that a step from `status` would change. -/
def findIn? (id : Uuid) (status : QueueStatus) (s : Store) : Option QueueItem :=
  s.items.find? (·.isIn id status)

/-- Puts an item back for another attempt.  Where the count of attempts ends, the store breaks down
after it has changed the status. -/
def markForRetry (now : Instant) (id : Uuid) (error : String) (nextAttemptAt : Instant)
    (s : Store) : Store :=
  { s with
    items := changeFirst (·.isIn id .processing)
      (fun item => (item.retry? now error nextAttemptAt).getD { item with status := .pending })
      s.items }

/-- Whether the count of attempts allows one more. -/
def canRetry (id : Uuid) (s : Store) : Bool :=
  match s.findIn? id .processing with
  | some item => (nextAttempt? item.attempts).isSome
  | none => true

/-- Puts a failed item on its way again. -/
def requeue (now : Instant) (id : Uuid) (s : Store) : Store :=
  { s with items := changeFirst (·.isIn id .failed) (·.requeue now) s.items }

/-- How many claims were made before a time. -/
def staleCount (olderThan : Instant) (s : Store) : Nat :=
  s.items.countP (·.isStale olderThan)

/-- Gives the claims from before a time back to the queue. -/
def recoverStale (now olderThan : Instant) (s : Store) : Store :=
  { s with
    items := s.items.map fun item => if item.isStale olderThan then item.recover now else item }

/-- The first item with an identifier. -/
def getItem? (id : Uuid) (s : Store) : Option QueueItem :=
  s.items.find? fun item => item.id = id

/-- Items in one status, the last changed first. -/
def listItems (status : QueueStatus) (limit : UInt32) (s : Store) : List QueueItem :=
  (sortBy QueueItem.newerThan (s.items.filter fun item => item.status = status)).take limit.toNat

/-- How many items have each status. -/
def stats (s : Store) : QueueStats := QueueStats.ofItems s.items

/-- Lets the delay of a pending item end at once. -/
def makeDue (now : Instant) (id : Uuid) (s : Store) : Store :=
  { s with
    items := changeFirst (·.isIn id .pending) (fun item => { item with nextAttemptAt := now })
      s.items }

/-- Moves a claim in time. -/
def backdate (id : Uuid) (updatedAt : Instant) (s : Store) : Store :=
  { s with
    items := changeFirst (·.isIn id .processing) (fun item => { item with updatedAt }) s.items }

/-! ## Channels -/

/-- Adds a channel in place of one of the same identifier. -/
def insertChannel (channel : Channel) (s : Store) : Store :=
  { s with channels := s.channels.filter (·.id ≠ channel.id) ++ [channel] }

/-- Removes the channels with an identifier. -/
def removeChannel (id : Uuid) (s : Store) : Store :=
  { s with channels := s.channels.filter (·.id ≠ id) }

/-- Switches a channel on or off. -/
def setEnabled (now : Instant) (id : Uuid) (enabled : Bool) (s : Store) : Store :=
  { s with
    channels := changeFirst (fun c => c.id = id) (fun c => { c with enabled, updatedAt := now })
      s.channels }

/-- Notes whether a channel is verified. -/
def setVerified (now : Instant) (id : Uuid) (verified : Bool) (s : Store) : Store :=
  { s with
    channels := changeFirst (fun c => c.id = id) (fun c => { c with verified, updatedAt := now })
      s.channels }

/-- Sets the address of a user. -/
def setUserEmail (user : Uuid) (email : String) (s : Store) : Store :=
  { s with userEmails := s.userEmails.set user email }

/-- The address of the owner of a channel: the account's, or the one that the channel came with. -/
def ownerEmail (s : Store) (channel : Channel) : Option String :=
  (s.userEmails.get? channel.userId).or channel.ownerEmail

/-- A channel with the address of its owner. -/
def getChannel? (id : Uuid) (s : Store) : Option Channel :=
  (s.channels.find? fun c => c.id = id).map fun c => { c with ownerEmail := s.ownerEmail c }

/-- The deliverable channels that are told about any of the services. -/
def findSubscribers (serviceIds : List Uuid) (s : Store) : List Subscriber :=
  (s.channels.filter fun c => c.isDeliverable && c.isSubscribedToAny serviceIds).map fun c =>
    ⟨c.id, c.channelType, c.target, s.ownerEmail c⟩

/-! ## Subscribers of events -/

/-- The channels that are told about an event. -/
def eventSubscribers (eventId : Uuid) (s : Store) : List Uuid :=
  (s.subscribers.get? eventId).getD []

/-- Appends the identifiers that are not in a list yet. -/
def extend (known : List Uuid) (ids : List Uuid) : List Uuid :=
  ids.foldl (fun known id => if id ∈ known then known else known ++ [id]) known

/-- Adds channels to the subscribers of an event, none of them twice. -/
def addEventSubscribers (eventId : Uuid) (ids : List Uuid) (s : Store) : Store :=
  { s with subscribers := s.subscribers.change [] eventId fun known => extend known ids }

/-- How many identifiers a list of subscribers would gain. -/
def newSubscribers (eventId : Uuid) (ids : List Uuid) (s : Store) : Nat :=
  (extend (s.eventSubscribers eventId) ids).length - (s.eventSubscribers eventId).length

/-! ## The catalog -/

/-- Adds a service, or replaces it. -/
def insertService (service : Service) (s : Store) : Store :=
  { s with services := s.services.set service.id service }

/-- Adds a group, or replaces it. -/
def insertGroup (group : Group) (s : Store) : Store :=
  { s with groups := s.groups.set group.id group }

end Store

end Courier
