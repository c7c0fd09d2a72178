import Courier.Json.Printer
import Courier.Json.Record
import Courier.Json.Skim
import Courier.Notification
import Courier.Sender.Exchange

/-!
# Sender — Telegram

Messages to chats through a bot.  An answer without success may be a document with a description and
the seconds to wait; a text that is no such document is its own description.
-/

namespace Courier.TelegramApi

/-- The address of a bot. -/
def endpoint (token apiBase : String) : String :=
  Text.trimSlashes apiBase ++ "/bot" ++ token ++ "/sendMessage"

/-- The document that is posted. -/
def document (chatId text : String) : Json :=
  .object
    [("chat_id", .string chatId), ("disable_web_page_preview", .bool true),
      ("parse_mode", .string "HTML"), ("text", .string text)]

/-- What a message needs to be sent: a chat. -/
def prepare (token apiBase : String) (n : Notification) : Except SendError OutboundRequest :=
  let chatId := Text.trim n.recipient
  if chatId = "" then .error (.invalidRecipient "empty chat id")
  else OutboundRequest.postTo (endpoint token apiBase) none (document chatId n.body).render

/-- A field of a record that may be missing but not stand twice. -/
def single? {α : Type} (decode : Json → Option α) (index : Nat) (name : String) (arity : Nat) :
    Json → Option (Option α)
  | .object members =>
    match members.filter (·.1 = name) with
    | [] => some none
    | [(_, value)] => Json.toOptional? decode value
    | _ => none
  | .array values =>
    if arity < values.length then none
    else
      match values[index]? with
      | none => some none
      | some value => Json.toOptional? decode value
  | _ => none

/-- The seconds to wait among the parameters of an answer. -/
def parameters? (j : Json) : Option (Option Nat) :=
  single? (Json.toNat? (UInt64.size - 1)) 0 "retry_after" 1 j

/-- What an answer without success tells: a description, and how many seconds to wait. -/
structure Complaint where
  description : Option String
  retryAfter : Option Nat
  deriving DecidableEq, Repr

/-- The complaint of a document. -/
def Complaint.ofJson? (j : Json) : Option Complaint := do
  let description ← single? Json.toText? 0 "description" 2 j
  let parameters ← single? parameters? 1 "parameters" 2 j
  some ⟨description, parameters.join⟩

/-- Reads a body for what a complaint is made of. -/
def Complaint.reader : Json.Reader :=
  Json.skim? [("description", Json.value?),
    ("parameters", Json.skim? [("retry_after", Json.value?)])]

/-- The complaint of a body; nothing is told by what is no such document. -/
def Complaint.ofBody (body : String) : Complaint :=
  ((Json.whole? Complaint.reader body).bind Complaint.ofJson?).getD ⟨none, none⟩

/-- Whether `part` stands somewhere in a text. -/
def occursIn (part : List Char) : List Char → Bool
  | [] => part.isEmpty
  | c :: rest => part.isPrefixOf (c :: rest) || occursIn part rest

/-- Whether a description says that the chat does not exist, in capitals or not. -/
def saysChatNotFound (description : String) : Bool :=
  occursIn "chat not found".toList (description.toList.map Char.toLower)

/-- What an answer without success means. -/
def classify (status : Nat) (body : String) : SendError :=
  let complaint := Complaint.ofBody body
  let description := complaint.description.getD body
  if status = 429 then .rateLimited (complaint.retryAfter.map Span.ofSeconds)
  else if status = 400 ∧ saysChatNotFound description then .notFound description
  else classifyStatus status description

end Courier.TelegramApi
