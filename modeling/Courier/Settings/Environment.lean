import Courier.Number.Decimal
import Courier.Settings

/-!
# Settings — Environment

Settings from environment variables.  Each variable has a name, a type and a default; numbers and
truth values may have blanks around them, texts are taken as they are.
-/

namespace Courier

/-- The variables that are set. -/
structure Environment where
  entries : List (String × String)
  deriving DecidableEq, Repr

namespace Environment

/-- The value of a variable. -/
def get? (env : Environment) (name : String) : Option String := env.entries.lookup name

end Environment

/-- A type of values in variables: its name and how it is read. -/
structure VariableType (α : Type) where
  name : String
  read? : List Char → Option α

namespace VariableType

/-- A number of 16 bits. -/
def uint16 : VariableType UInt16 :=
  ⟨"u16", fun s => (Text.readNat (UInt16.size - 1) s).toOption.map UInt16.ofNat⟩

/-- A number of 32 bits. -/
def uint32 : VariableType UInt32 :=
  ⟨"u32", fun s => (Text.readNat (UInt32.size - 1) s).toOption.map UInt32.ofNat⟩

/-- A number of 64 bits. -/
def uint64 : VariableType UInt64 :=
  ⟨"u64", fun s => (Text.readNat (UInt64.size - 1) s).toOption.map UInt64.ofNat⟩

/-- A count of things in memory. -/
def size : VariableType UInt64 := ⟨"usize", uint64.read?⟩

/-- A number of 32 bits with a sign. -/
def int32 : VariableType Int32 :=
  ⟨"i32", fun s =>
    (Text.readInt Int32.minValue.toInt Int32.maxValue.toInt s).toOption.map Int32.ofInt⟩

/-- A number in double precision. -/
def double : VariableType Double := ⟨"f64", Double.read?⟩

/-- The two truth values. -/
def readBool? (s : List Char) : Option Bool :=
  if s = "true".toList then some true else if s = "false".toList then some false else none

/-- A truth value. -/
def bool : VariableType Bool := ⟨"bool", readBool?⟩

end VariableType

namespace Environment

/-- The value of a variable, or `default` where it is not set. -/
def read {α : Type} (env : Environment) (name : String) (type : VariableType α) (default : α) :
    Except SettingsFault α :=
  match env.get? name with
  | none => .ok default
  | some text =>
    match type.read? (Text.trimmed text.toList) with
    | some value => .ok value
    | none => .error (.illTyped name type.name)

/-- A text that has to be set. -/
def required (env : Environment) (name : String) (fault : SettingsFault) :
    Except SettingsFault String :=
  match env.get? name with
  | some text => .ok text
  | none => .error fault

/-- The public URL without the slashes at its end; nothing else than slashes counts as not set. -/
def publicUrl (env : Environment) : Option String :=
  ((env.get? "PUBLIC_URL").map Text.trimSlashes).filter (· ≠ "")

end Environment

namespace Settings

/-- The settings that the variables give, before they are checked. -/
def parse (env : Environment) : Except SettingsFault Settings := do
  return {
    databaseUrl := ← env.required "DATABASE_URL" .databaseUrlMissing
    databaseConnections := ← env.read "DB_MAX_CONNECTIONS" .uint32 standard.databaseConnections
    apiPort := ← env.read "API_PORT" .uint16 standard.apiPort
    publicUrl := env.publicUrl
    workerEnabled := ← env.read "WORKER_ENABLED" .bool standard.workerEnabled
    workerCount := ← env.read "WORKER_COUNT" .size standard.workerCount
    pollIntervalMs := ← env.read "WORKER_POLL_INTERVAL_MS" .uint64 standard.pollIntervalMs
    batchSize := ← env.read "WORKER_BATCH_SIZE" .uint32 standard.batchSize
    staleClaimSeconds := ← env.read "WORKER_STALE_CLAIM_SECS" .uint64 standard.staleClaimSeconds
    maxAttempts := ← env.read "NOTIFY_MAX_ATTEMPTS" .int32 standard.maxAttempts
    initialBackoffMs := ← env.read "NOTIFY_INITIAL_BACKOFF_MS" .uint64 standard.initialBackoffMs
    backoffMultiplier := ← env.read "NOTIFY_BACKOFF_MULTIPLIER" .double standard.backoffMultiplier
    maxBackoffMs := ← env.read "NOTIFY_MAX_BACKOFF_MS" .uint64 standard.maxBackoffMs
    statsIntervalSeconds :=
      ← env.read "QUEUE_STATS_INTERVAL_SECS" .uint64 standard.statsIntervalSeconds
    telegramToken := env.get? "TELEGRAM_BOT_TOKEN"
    emailApiKey := env.get? "RESEND_API_KEY"
    emailFrom := env.get? "EMAIL_FROM"
    senderTimeoutSeconds := ← env.read "SENDER_TIMEOUT_SECS" .uint64 standard.senderTimeoutSeconds }

/-- The settings that the variables give. -/
def ofEnvironment (env : Environment) : Except SettingsFault Settings := do
  (← parse env).check

end Settings

end Courier
