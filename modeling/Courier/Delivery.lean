import Courier.Backoff
import Courier.Message.Renderer
import Courier.Program
import Courier.Registry

/-!
# Delivery

Working off the queue.  A worker claims a batch of due items and brings each to one outcome: it is
sent, it goes back to wait for another attempt, or it fails.

An item fails without an attempt when its channel is gone, not verified or disabled, when its
payload cannot be rendered, or when its kind of channel has no sender.  A failed attempt that
waiting may mend puts the item back until its attempts are used up.  The store is told the end;
that it may not answer is passed over.
-/

namespace Courier

/-- What a worker works with. -/
structure Worker where
  renderer : Renderer
  registry : Registry
  backoff : Backoff
  batchSize : UInt32

/-- The time of another attempt: the wait in whole milliseconds as a signed 64-bit number.  None
beyond the range of instants. -/
def retryTime? (now : Instant) (wait : Span) : Option Instant :=
  now.shiftMillis? ((wait.millis : Int).bmod UInt64.size)

namespace Worker
open Program

/-- Fails an item for good. -/
def fail (item : QueueItem) (error : String) : Program Unit := do
  let _ ← call (.markFailed item.id error)

/-- The text kept with an item whose attempts are used up. -/
def exhausted (item : QueueItem) (error : String) : String :=
  "max attempts exceeded (" ++ Text.intText item.maxAttempts.toInt ++ "): " ++ error

/-- The number of the attempt after the failed ones, one at least. -/
def attemptNumber (item : QueueItem) : UInt32 :=
  UInt32.ofNat (Max.max (item.attempts.toInt + 1).toNat 1)

/-- The wait before the next attempt: what the backoff says, and no shorter than the other side
asks. -/
def wait? (w : Worker) (item : QueueItem) (retryAfter : Option Span) : Option Span :=
  (w.backoff.delay? (attemptNumber item)).map fun delay =>
    match retryAfter with
    | some least => delay.max least
    | none => delay

/-- Puts an item back for another attempt, or fails it when this was its last. -/
def retryOrFail (w : Worker) (item : QueueItem) (error : String) (retryAfter : Option Span) :
    Program Outcome := do
  if ← orCrash item.isLastAttempt? then
    fail item (exhausted item error)
    return .maxAttempts
  else
    let wait ← orCrash (w.wait? item retryAfter)
    -- the worker's own reading; the store takes another when it is called
    let now ← request .clock
    let nextAttemptAt ← orCrash (retryTime? now wait)
    let _ ← call (.markForRetry item.id error nextAttemptAt)
    return .retry

/-- Ends an attempt by what the sender answered. -/
def settle (w : Worker) (item : QueueItem) : Except SendError Unit → Program Outcome
  | .ok () => do
    let _ ← call (.markSent item.id)
    return .success
  | .error e =>
    if e.isRetryable then w.retryOrFail item e.message e.retryAfter
    else do
      fail item e.message
      return .failed

/-- Sends a message to a channel. -/
def attempt (w : Worker) (item : QueueItem) (channel : Channel) (message : Message)
    (sender : Nat) : Program Outcome := do
  let (result, took) ←
    request (.send sender ⟨channel.recipient, message.subject, message.body⟩)
  measure (.sendTime channel.channelType.name took)
  w.settle item result

/-- Delivers to a channel that may receive messages. -/
def deliverTo (w : Worker) (item : QueueItem) (channel : Channel) : Program Outcome :=
  match w.renderer.render channel.channelType item.payload with
  | .error e => do
    fail item ("render failed: " ++ e.message)
    return .renderFailed
  | .ok message =>
    match w.registry.sender? channel.channelType with
    | none => do
      fail item ("no sender configured for " ++ channel.channelType.name ++ " channels")
      return .noSender
    | some sender => w.attempt item channel message sender

/-- Brings an item to its outcome, with the label under which it is counted. -/
def deliver (w : Worker) (item : QueueItem) : Program (String × Outcome) := do
  match ← call (.getChannel item.channelId) with
  | .error e =>
    -- nothing is known of the channel, not even its kind
    let outcome ← w.retryOrFail item ("channel lookup failed: " ++ e.message) none
    return (unknownChannelLabel, outcome)
  | .ok none =>
    fail item "channel not found"
    return (unknownChannelLabel, .channelNotFound)
  | .ok (some channel) =>
    let label := channel.channelType.name
    if ¬channel.verified then
      fail item "channel is not verified"
      return (label, .skippedUnverified)
    else if ¬channel.enabled then
      fail item "channel is disabled"
      return (label, .skippedDisabled)
    else
      let outcome ← w.deliverTo item channel
      return (label, outcome)

/-- Brings an item to its outcome and counts it. -/
def processItem (w : Worker) (item : QueueItem) : Program Outcome := do
  let (label, outcome) ← w.deliver item
  measure (.outcome label outcome)
  return outcome

/-- Processes items one after the other. -/
def processAll (w : Worker) : List QueueItem → Program Unit
  | [] => return ()
  | item :: items => do
    let _ ← w.processItem item
    w.processAll items

/-- Claims a batch and processes it; the answer is how many items that were. -/
def processBatch (w : Worker) : Program (Except StoreError Nat) := do
  match ← call (.claimDue w.batchSize) with
  | .error e => return .error e
  | .ok [] => return .ok 0
  | .ok (item :: items) =>
    measure (.fetched (items.length + 1))
    w.processAll (item :: items)
    return .ok (items.length + 1)

end Worker

/-- Brings the count of items in each status up to date. -/
def refreshDepths : Program (Except StoreError Unit) := do
  match ← Program.call .queueStats with
  | .error e => return .error e
  | .ok stats =>
    Program.measure (.depths stats)
    return .ok ()

end Courier
