import Courier.Proofs.Settings
import Courier.Proofs.Text.Reading
import Courier.Settings.Environment

/-!
# Proofs — Settings — Environment

Settings that are written to variables are read back.

* `Spelling`: how the values of a type may be written, so that the type reads them.
* `Settings.Written`: the variables hold the settings.  What is not set stands for the default;
  around numbers and truth values there may be blanks, and at the end of the public URL slashes.
* `Settings.written_is_read`: such variables give exactly the settings, and what variables give has
  no fault.
-/

namespace Courier

open Text (Blanks Numeral Solid)

variable {α : Type} {env : Environment} {name : String}

/-! ### Values in variables -/

/-- How the values of a type may be written: never with blanks, which are trimmed before anything is
read. -/
structure Spelling {α : Type} (type : VariableType α) where
  Writes : α → List Char → Prop
  ne_nil : ∀ {value s}, Writes value s → s ≠ []
  solid : ∀ {value s}, Writes value s → Solid s
  read : ∀ {value s}, Writes value s → type.read? s = some value

namespace Spelling

/-- Numbers in decimal, for a type that reads those below `size`. -/
def numeral {type : VariableType α} {size : Nat} {ofNat : Nat → α} (toNat : α → Nat)
    (htype : ∀ s, type.read? s = (Text.readNat (size - 1) s).toOption.map ofNat)
    (hlt : ∀ value, toNat value < size) (hofNat : ∀ value, ofNat (toNat value) = value) :
    Spelling type where
  Writes value := Numeral (toNat value)
  ne_nil := Numeral.ne_nil
  solid := Numeral.solid
  read {value s} h := by
    rw [htype, Text.readNat_numeral h (Nat.le_sub_one_of_lt (hlt value))]
    exact congrArg some (hofNat value)

/-- How a number of 16 bits is written. -/
def uint16 : Spelling .uint16 :=
  numeral UInt16.toNat (fun _ => rfl) UInt16.toNat_lt fun _ => UInt16.ofNat_toNat

/-- How a number of 32 bits is written. -/
def uint32 : Spelling .uint32 :=
  numeral UInt32.toNat (fun _ => rfl) UInt32.toNat_lt fun _ => UInt32.ofNat_toNat

/-- How a number of 64 bits is written. -/
def uint64 : Spelling .uint64 :=
  numeral UInt64.toNat (fun _ => rfl) UInt64.toNat_lt fun _ => UInt64.ofNat_toNat

/-- How a size is written. -/
def size : Spelling .size :=
  numeral UInt64.toNat (fun _ => rfl) UInt64.toNat_lt fun _ => UInt64.ofNat_toNat

/-- A number that is not below zero; settings without a fault have no other. -/
def int32 : Spelling .int32 where
  Writes value s := ∃ n : Nat, value.toInt = n ∧ Numeral n s
  ne_nil := fun ⟨_, _, h⟩ => h.ne_nil
  solid := fun ⟨_, _, h⟩ => h.solid
  read {value s} h := by
    obtain ⟨n, hvalue, h⟩ := h
    have hread : Text.readInt Int32.minValue.toInt Int32.maxValue.toInt s = .ok value.toInt := by
      rw [hvalue]
      exact Text.readInt_numeral h (hvalue ▸ value.toInt_le)
    simp only [VariableType.int32, hread]
    exact congrArg some (Int32.ofInt_toInt value)

/-- A text that is read as the value. -/
def double : Spelling .double where
  Writes value s := Double.read? s = some value
  ne_nil := Text.ne_nil_of_readDouble
  solid := Text.solid_of_readDouble
  read := id

/-- How a truth value is written. -/
def bool : Spelling .bool where
  Writes value s := s = (toString value).toList
  ne_nil {value s} h := by
    subst h
    cases value <;> decide
  solid {value s} h := by
    subst h
    cases value <;> decide
  read {value s} h := by
    subst h
    cases value <;> decide

end Spelling

namespace Environment

/-- A variable stands for a value: it spells it, with any blanks around, or is not set and the value
is the default. -/
def Holds (env : Environment) (name : String) {type : VariableType α} (spelling : Spelling type)
    (default value : α) : Prop :=
  (env.get? name = none ∧ value = default) ∨
    ∃ text before s after, env.get? name = some text ∧ text.toList = before ++ s ++ after ∧
      Blanks before ∧ spelling.Writes value s ∧ Blanks after

/-- What a variable stands for is read. -/
theorem read_of_holds {type : VariableType α} {spelling : Spelling type} {default value : α}
    (h : env.Holds name spelling default value) : env.read name type default = .ok value := by
  rcases h with ⟨hunset, rfl⟩ | ⟨text, before, s, after, hset, htext, hbefore, hs, hafter⟩
  · rw [read, hunset]
  · have htrim : Text.trimmed text.toList = s := by
      rw [htext]
      exact Text.trimmed_padded hbefore (spelling.solid hs) (spelling.ne_nil hs) hafter
    rw [read, hset]
    dsimp only
    rw [htrim, spelling.read hs]

/-- The variable of the public URL stands for it: not set for none, and otherwise the URL, which
does not end with a slash, and any number of slashes. -/
def HoldsUrl (env : Environment) : Option String → Prop
  | none => env.get? "PUBLIC_URL" = none
  | some url => url ≠ "" ∧ url.toList.getLast? ≠ some '/' ∧
      ∃ slashes, env.get? "PUBLIC_URL" = some (url ++ String.ofList (List.replicate slashes '/'))

theorem publicUrl_of_holds {url : Option String} (h : env.HoldsUrl url) : env.publicUrl = url := by
  cases url with
  | none => rw [publicUrl, h]; rfl
  | some url =>
      obtain ⟨hne, hend, slashes, hset⟩ := h
      rw [publicUrl, hset, Option.map_some, Text.trimSlashes_append hend]
      exact Option.filter_some_pos (decide_eq_true hne)

end Environment

/-! ### All settings -/

namespace Settings

open Environment (read_of_holds publicUrl_of_holds)

/-- The variables stand for the settings, each under its name.  Texts are as they are, and the
database has no default: its URL is set. -/
structure Written (c : Settings) (env : Environment) : Prop where
  databaseUrl : env.get? "DATABASE_URL" = some c.databaseUrl
  databaseConnections : env.Holds "DB_MAX_CONNECTIONS" .uint32 standard.databaseConnections
    c.databaseConnections
  apiPort : env.Holds "API_PORT" .uint16 standard.apiPort c.apiPort
  publicUrl : env.HoldsUrl c.publicUrl
  workerEnabled : env.Holds "WORKER_ENABLED" .bool standard.workerEnabled c.workerEnabled
  workerCount : env.Holds "WORKER_COUNT" .size standard.workerCount c.workerCount
  pollIntervalMs : env.Holds "WORKER_POLL_INTERVAL_MS" .uint64 standard.pollIntervalMs
    c.pollIntervalMs
  batchSize : env.Holds "WORKER_BATCH_SIZE" .uint32 standard.batchSize c.batchSize
  staleClaimSeconds : env.Holds "WORKER_STALE_CLAIM_SECS" .uint64 standard.staleClaimSeconds
    c.staleClaimSeconds
  maxAttempts : env.Holds "NOTIFY_MAX_ATTEMPTS" .int32 standard.maxAttempts c.maxAttempts
  initialBackoffMs : env.Holds "NOTIFY_INITIAL_BACKOFF_MS" .uint64 standard.initialBackoffMs
    c.initialBackoffMs
  backoffMultiplier : env.Holds "NOTIFY_BACKOFF_MULTIPLIER" .double standard.backoffMultiplier
    c.backoffMultiplier
  maxBackoffMs : env.Holds "NOTIFY_MAX_BACKOFF_MS" .uint64 standard.maxBackoffMs c.maxBackoffMs
  statsIntervalSeconds : env.Holds "QUEUE_STATS_INTERVAL_SECS" .uint64
    standard.statsIntervalSeconds c.statsIntervalSeconds
  telegramToken : env.get? "TELEGRAM_BOT_TOKEN" = c.telegramToken
  emailApiKey : env.get? "RESEND_API_KEY" = c.emailApiKey
  emailFrom : env.get? "EMAIL_FROM" = c.emailFrom
  senderTimeoutSeconds : env.Holds "SENDER_TIMEOUT_SECS" .uint64 standard.senderTimeoutSeconds
    c.senderTimeoutSeconds

variable {c : Settings}

/-- Written settings are read back. -/
theorem parse_of_written (h : c.Written env) : parse env = .ok c := by
  have hurl : env.required "DATABASE_URL" .databaseUrlMissing = .ok c.databaseUrl := by
    rw [Environment.required, h.databaseUrl]
  rw [parse, hurl, read_of_holds h.databaseConnections, read_of_holds h.apiPort,
    publicUrl_of_holds h.publicUrl, read_of_holds h.workerEnabled, read_of_holds h.workerCount,
    read_of_holds h.pollIntervalMs, read_of_holds h.batchSize, read_of_holds h.staleClaimSeconds,
    read_of_holds h.maxAttempts, read_of_holds h.initialBackoffMs,
    read_of_holds h.backoffMultiplier, read_of_holds h.maxBackoffMs,
    read_of_holds h.statsIntervalSeconds, h.telegramToken, h.emailApiKey, h.emailFrom,
    read_of_holds h.senderTimeoutSeconds]
  rfl

/-- Settings that pass their check are the ones that are checked. -/
theorem check_eq_ok {s : Settings} (h : s.check = .ok c) : c.check = .ok c := by
  have hs : c = s := by
    unfold check at h
    split at h
    · exact (Except.ok.inj h).symm
    · cases h
  rw [hs] at h ⊢
  exact h

/-- **Settings that are written to variables are read back**, and what is read from variables has
passed the check. -/
theorem written_is_read :
    (∀ (c : Settings) (env : Environment), c.check = .ok c → c.Written env →
      ofEnvironment env = .ok c) ∧
    ∀ (env : Environment) (c : Settings), ofEnvironment env = .ok c → c.check = .ok c := by
  refine ⟨fun c env hcheck h => ?_, fun env c h => ?_⟩
  · rw [ofEnvironment, parse_of_written h]
    exact hcheck
  · unfold ofEnvironment at h
    cases hparse : parse env with
    | error fault =>
        rw [hparse] at h
        cases h
    | ok s =>
        rw [hparse] at h
        exact check_eq_ok h

namespace Sample

/-- Some variables of a deployment, some of them with blanks around. -/
def padded : Environment :=
  ⟨[("DATABASE_URL", "postgres://database/courier"), ("API_PORT", " +08080\n"),
    ("PUBLIC_URL", "https://status.example//"), ("WORKER_ENABLED", "\ttrue"),
    ("NOTIFY_MAX_ATTEMPTS", "7 "), ("NOTIFY_BACKOFF_MULTIPLIER", " 15e-1 "),
    ("TELEGRAM_BOT_TOKEN", " token ")]⟩

/-- The settings that these variables stand for. -/
def deployed : Settings :=
  { standard with
    databaseUrl := "postgres://database/courier"
    apiPort := 8080
    publicUrl := some "https://status.example"
    maxAttempts := 7
    backoffMultiplier := .ofQuotient false (3 * Double.one) 2
    telegramToken := some " token " }

end Sample

/-- Blanks around a number are not part of it, blanks in a text are. -/
theorem padded_variables_are_read :
    ofEnvironment Sample.padded = .ok Sample.deployed ∧
      Sample.deployed.check = .ok Sample.deployed := by
  have hport : Numeral 8080 "+08080".toList :=
    .plus (by decide) (.cons rfl (.cons rfl (.cons rfl (.cons rfl (.cons rfl (.nil _))))))
  have hfactor : Double.read? "15e-1".toList = some Sample.deployed.backoffMultiplier := by
    decide +kernel
  have hwritten : Sample.deployed.Written Sample.padded :=
    { databaseUrl := rfl
      databaseConnections := .inl ⟨rfl, rfl⟩
      apiPort := .inr ⟨_, [' '], "+08080".toList, ['\n'], rfl, by decide, by decide, hport,
        by decide⟩
      publicUrl := ⟨by decide, by decide, 2, rfl⟩
      workerEnabled := .inr ⟨_, ['\t'], "true".toList, [], rfl, by decide, by decide, rfl,
        by decide⟩
      workerCount := .inl ⟨rfl, rfl⟩
      pollIntervalMs := .inl ⟨rfl, rfl⟩
      batchSize := .inl ⟨rfl, rfl⟩
      staleClaimSeconds := .inl ⟨rfl, rfl⟩
      maxAttempts := .inr ⟨_, [], ['7'], [' '], rfl, by decide, by decide,
        ⟨7, by decide, .digits (by decide) (.cons rfl (.nil _))⟩, by decide⟩
      initialBackoffMs := .inl ⟨rfl, rfl⟩
      backoffMultiplier := .inr ⟨_, [' '], "15e-1".toList, [' '], rfl, by decide, by decide,
        hfactor, by decide⟩
      maxBackoffMs := .inl ⟨rfl, rfl⟩
      statsIntervalSeconds := .inl ⟨rfl, rfl⟩
      telegramToken := rfl
      emailApiKey := rfl
      emailFrom := rfl
      senderTimeoutSeconds := .inl ⟨rfl, rfl⟩ }
  have hcheck : Sample.deployed.check = .ok Sample.deployed := by decide +kernel
  have hread := written_is_read.1 Sample.deployed Sample.padded hcheck hwritten
  exact ⟨hread, written_is_read.2 Sample.padded Sample.deployed hread⟩

end Settings

end Courier
