/-!
# Outcome

How the processing of one item ends.
-/

namespace Courier

/-- The end of the processing of one claimed item. -/
inductive Outcome where
  | success
  | retry
  | failed
  | maxAttempts
  | skippedUnverified
  | skippedDisabled
  | channelNotFound
  | renderFailed
  | noSender
  deriving DecidableEq, Repr

namespace Outcome

/-- Every outcome. -/
def all : List Outcome :=
  [success, retry, failed, maxAttempts, skippedUnverified, skippedDisabled, channelNotFound,
    renderFailed, noSender]

/-- The name of an outcome, as it is counted. -/
def name : Outcome → String
  | success => "success"
  | retry => "retry"
  | failed => "failed"
  | maxAttempts => "max_attempts"
  | skippedUnverified => "skipped_unverified"
  | skippedDisabled => "skipped_disabled"
  | channelNotFound => "channel_not_found"
  | renderFailed => "render_failed"
  | noSender => "no_sender"

/-- The outcome of a name. -/
def ofName? (name : String) : Option Outcome := all.find? fun o => o.name == name

end Outcome

end Courier
