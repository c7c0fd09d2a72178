import Courier.Json.Printer
import Courier.Notification
import Courier.Sender.Exchange

/-!
# Sender — Email

Emails through a mail service.  An address is checked for its shape only: one `@` with something in
front of it and a domain with a point inside.
-/

namespace Courier.MailApi

/-- Whether a domain has a point, and none at its ends, and no `@`. -/
def isDomain (s : List Char) : Bool :=
  !s.contains '@' && s.contains '.' && s.head? != some '.' && s.getLast? != some '.'

/-- Whether a text has the shape of an address. -/
def isAddress (text : String) : Bool :=
  let s := Text.trimmed text.toList
  let user := s.takeWhile (· ≠ '@')
  !s.any Text.isBlank && s.contains '@' && !user.isEmpty && isDomain (s.drop (user.length + 1))

/-- The document that is posted. -/
def document (sender recipient subject text : String) : Json :=
  .object
    [("from", .string sender), ("to", .array [.string recipient]), ("subject", .string subject),
      ("text", .string text)]

/-- What an email needs to be sent: an address. -/
def prepare (apiKey sender endpoint : String) (n : Notification) :
    Except SendError OutboundRequest :=
  let recipient := Text.trim n.recipient
  if isAddress recipient then
    OutboundRequest.postTo endpoint (some ("Bearer " ++ apiKey))
      (document sender recipient n.subject n.body).render
  else .error (.invalidRecipient ("'" ++ recipient ++ "' is not an email address"))

end Courier.MailApi
