import Courier.Failure
import Courier.Store

/-!
# Store — Call

The questions and orders that the pipeline has for the store, each served as one indivisible step.
`StoreCall.Result` is what a call gives back, `StoreCall.serve` what it does.
-/

namespace Courier

/-- A call of the store. -/
inductive StoreCall where
  | enqueue (item : NewItem)
  | enqueueBatch (items : List NewItem)
  | claimDue (limit : UInt32)
  | markSent (id : Uuid)
  | markFailed (id : Uuid) (error : String)
  | markForRetry (id : Uuid) (error : String) (nextAttemptAt : Instant)
  | getChannel (id : Uuid)
  | getEventSubscribers (eventId : Uuid)
  | addEventSubscribers (eventId : Uuid) (channelIds : List Uuid)
  | findSubscribers (serviceIds : List Uuid)
  | getService (id : Uuid)
  | getGroup (id : Uuid)
  | getItem (id : Uuid)
  | listItems (status : QueueStatus) (limit : UInt32)
  | queueStats
  | requeue (id : Uuid)
  | recoverStale (olderThan : Instant)

namespace StoreCall

/-- The name of what is called. -/
def name : StoreCall → String
  | enqueue _ => "enqueue"
  | enqueueBatch _ => "enqueue_batch"
  | claimDue _ => "claim_due"
  | markSent _ => "mark_sent"
  | markFailed _ _ => "mark_failed"
  | markForRetry _ _ _ => "mark_for_retry"
  | getChannel _ => "get_channel"
  | getEventSubscribers _ => "get_event_subscribers"
  | addEventSubscribers _ _ => "add_event_subscribers"
  | findSubscribers _ => "find_subscribers"
  | getService _ => "get_service"
  | getGroup _ => "get_group"
  | getItem _ => "get_item"
  | listItems _ _ => "list_items"
  | queueStats => "queue_stats"
  | requeue _ => "requeue"
  | recoverStale _ => "recover_stale"

/-- What a call gives back. -/
abbrev Result : StoreCall → Type
  | enqueue _ => QueueItem
  | enqueueBatch _ => Nat
  | claimDue _ => List QueueItem
  | markSent _ => Unit
  | markFailed _ _ => Unit
  | markForRetry _ _ _ => Unit
  | getChannel _ => Option Channel
  | getEventSubscribers _ => List Uuid
  | addEventSubscribers _ _ => Nat
  | findSubscribers _ => List Subscriber
  | getService _ => Option Service
  | getGroup _ => Option Group
  | getItem _ => Option QueueItem
  | listItems _ _ => List QueueItem
  | queueStats => QueueStats
  | requeue _ => Bool
  | recoverStale _ => Nat

/-- The store after a call. -/
def serve (now : Instant) : StoreCall → Store → Store
  | enqueue item, s => s.enqueue now item
  | enqueueBatch items, s => s.enqueueBatch now items
  | claimDue limit, s => s.claimDue now limit
  | markSent id, s => s.markSent now id
  | markFailed id error, s => s.markFailed now id error
  | markForRetry id error nextAttemptAt, s => s.markForRetry now id error nextAttemptAt
  | getChannel _, s => s
  | getEventSubscribers _, s => s
  | addEventSubscribers eventId ids, s => s.addEventSubscribers eventId ids
  | findSubscribers _, s => s
  | getService _, s => s
  | getGroup _, s => s
  | getItem _, s => s
  | listItems _ _, s => s
  | queueStats, s => s
  | requeue id, s => s.requeue now id
  | recoverStale olderThan, s => s.recoverStale now olderThan

/-- What a call gives back; nothing when the store breaks down over it. -/
def answer? (now : Instant) (s : Store) : (call : StoreCall) → Option call.Result
  | enqueue item => some (item.enter now)
  | enqueueBatch items => some items.length
  | claimDue limit => some (s.claimed now limit)
  | markSent _ => some ()
  | markFailed _ _ => some ()
  | markForRetry id _ _ => if s.canRetry id then some () else none
  | getChannel id => some (s.getChannel? id)
  | getEventSubscribers eventId => some (s.eventSubscribers eventId)
  | addEventSubscribers eventId ids => some (s.newSubscribers eventId ids)
  | findSubscribers serviceIds => some (s.findSubscribers serviceIds)
  | getService id => some (s.services.get? id)
  | getGroup id => some (s.groups.get? id)
  | getItem id => some (s.getItem? id)
  | listItems status limit => some (s.listItems status limit)
  | queueStats => some s.stats
  | requeue id => some (s.findIn? id .failed).isSome
  | recoverStale olderThan => some (s.staleCount olderThan)

end StoreCall

end Courier
