/-!
# Notification

What a sender is given.
-/

namespace Courier

/-- A rendered message with its address. -/
structure Notification where
  recipient : String
  subject : String
  body : String
  deriving DecidableEq, Repr

end Courier
