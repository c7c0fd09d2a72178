import Courier.Backoff
import Courier.Channel

/-!
# Settings

What a deployment can set.  `Settings.check` refuses values that would stall or break the delivery;
of several faults the first in its order is reported.
-/

namespace Courier

/-- The settings of a deployment. -/
structure Settings where
  databaseUrl : String
  databaseConnections : UInt32
  apiPort : UInt16
  /-- Where the status page is found, for links in messages. -/
  publicUrl : Option String
  workerEnabled : Bool
  workerCount : UInt64
  pollIntervalMs : UInt64
  /-- The most items that a worker claims at once. -/
  batchSize : UInt32
  /-- The age in seconds from which a claim counts as abandoned. -/
  staleClaimSeconds : UInt64
  /-- The attempts after which an item fails. -/
  maxAttempts : Int32
  initialBackoffMs : UInt64
  backoffMultiplier : Double
  maxBackoffMs : UInt64
  statsIntervalSeconds : UInt64
  telegramToken : Option String
  emailApiKey : Option String
  emailFrom : Option String
  senderTimeoutSeconds : UInt64
  deriving DecidableEq, Repr

/-- Why settings are refused. -/
inductive SettingsFault where
  | databaseUrlMissing
  | illTyped (name typeName : String)
  | noWorkers
  | noPollInterval
  | noBatch
  | noAttempts
  | shrinkingBackoff
  | backoffBeyondMax
  | noStatsInterval
  | noSenderTimeout
  deriving DecidableEq, Repr

namespace SettingsFault

/-- The wording of a fault. -/
def message : SettingsFault → String
  | databaseUrlMissing => "DATABASE_URL environment variable is required"
  | illTyped name typeName => name ++ " must be a valid " ++ typeName
  | noWorkers => "WORKER_COUNT must be at least 1 when the worker is enabled"
  | noPollInterval => "WORKER_POLL_INTERVAL_MS must be greater than 0"
  | noBatch => "WORKER_BATCH_SIZE must be greater than 0"
  | noAttempts => "NOTIFY_MAX_ATTEMPTS must be at least 1"
  | shrinkingBackoff => "NOTIFY_BACKOFF_MULTIPLIER must be a finite number >= 1.0"
  | backoffBeyondMax => "NOTIFY_INITIAL_BACKOFF_MS must not exceed NOTIFY_MAX_BACKOFF_MS"
  | noStatsInterval => "QUEUE_STATS_INTERVAL_SECS must be greater than 0"
  | noSenderTimeout => "SENDER_TIMEOUT_SECS must be greater than 0"

end SettingsFault

namespace Settings

/-- The settings of a deployment that sets nothing. -/
def standard : Settings where
  databaseUrl := ""
  databaseConnections := 20
  apiPort := 3000
  publicUrl := none
  workerEnabled := true
  workerCount := 3
  pollIntervalMs := 1000
  batchSize := 10
  staleClaimSeconds := 600
  maxAttempts := 5
  initialBackoffMs := 1000
  backoffMultiplier := .ofNat 2
  maxBackoffMs := 300000
  statsIntervalSeconds := 15
  telegramToken := none
  emailApiKey := none
  emailFrom := none
  senderTimeoutSeconds := 10

/-- The first fault of settings. -/
def fault? (s : Settings) : Option SettingsFault :=
  if s.workerEnabled ∧ s.workerCount = 0 then some .noWorkers
  else if s.pollIntervalMs = 0 then some .noPollInterval
  else if s.batchSize = 0 then some .noBatch
  else if s.maxAttempts < 1 then some .noAttempts
  else if ¬s.backoffMultiplier.isFinite ∨ s.backoffMultiplier.lt (.ofNat 1) then
    some .shrinkingBackoff
  else if s.maxBackoffMs < s.initialBackoffMs then some .backoffBeyondMax
  else if s.statsIntervalSeconds = 0 then some .noStatsInterval
  else if s.senderTimeoutSeconds = 0 then some .noSenderTimeout
  else none

/-- Settings without a fault. -/
def check (s : Settings) : Except SettingsFault Settings :=
  match s.fault? with
  | none => .ok s
  | some fault => .error fault

/-- How delays grow under the settings. -/
def backoff (s : Settings) : Backoff :=
  ⟨.ofMillis s.initialBackoffMs.toNat, s.backoffMultiplier, .ofMillis s.maxBackoffMs.toNat⟩

/-- Whether a credential is set to more than blanks. -/
def given : Option String → Bool
  | some text => !Text.blank text
  | none => false

/-- The kinds of channel that can be served: webhooks need no credentials. -/
def senderTypes (s : Settings) : List ChannelType :=
  .webhook :: ((if given s.telegramToken then [.telegram] else []) ++
    (if given s.emailApiKey ∧ given s.emailFrom then [.email] else []))

end Settings

/-- How the workers of a pool run. -/
structure PoolSettings where
  workerCount : UInt64
  pollInterval : Span
  batchSize : UInt32
  backoff : Backoff
  /-- The age from which a claim counts as abandoned. -/
  staleClaimAfter : Span
  statsInterval : Span
  deriving DecidableEq, Repr

/-- The part of the settings that is about the workers. -/
def Settings.pool (s : Settings) : PoolSettings where
  workerCount := s.workerCount
  pollInterval := .ofMillis s.pollIntervalMs.toNat
  batchSize := s.batchSize
  backoff := s.backoff
  staleClaimAfter := .ofSeconds s.staleClaimSeconds.toNat
  statsInterval := .ofSeconds s.statsIntervalSeconds.toNat

end Courier
