import Courier.Failure
import Courier.Message.Email
import Courier.Message.Telegram
import Courier.Message.Webhook

/-!
# Message — Renderer

Payloads as messages.  The subject is the same on every channel; the body comes from a template for
the kind of channel and the kind of message.

* `Renderer.ofEntries`: a table of templates is accepted only when it has one for every pair, so
  that what is missing shows before the first message that needs it.  Of several entries for one
  pair the last counts.
* `Renderer.render`: the message of a payload.
-/

namespace Courier

/-- A message as a sender takes it. -/
structure Message where
  subject : String
  body : String
  deriving DecidableEq, Repr

/-- Makes the body of a message. -/
abbrev Template := Payload → Except RenderError String

/-- A template and the pair that it is for. -/
structure TemplateEntry where
  channelType : ChannelType
  kind : MessageKind
  template : Template

/-- The name of a pair: `telegram_update`. -/
def templateKey (channelType : ChannelType) (kind : MessageKind) : String :=
  channelType.name ++ "_" ++ kind.name

/-- A table of templates. -/
structure Renderer where
  entries : List TemplateEntry

namespace Renderer

/-- Every pair, ordered by kind of channel and then by kind of message. -/
def pairs : List (ChannelType × MessageKind) :=
  ChannelType.all.flatMap fun channelType => MessageKind.all.map fun kind => (channelType, kind)

/-- The last template that the entries have for a pair. -/
def find? (entries : List TemplateEntry) (channelType : ChannelType) (kind : MessageKind) :
    Option Template :=
  (entries.reverse.find? fun e => decide (e.channelType = channelType ∧ e.kind = kind)).map
    (·.template)

/-- The names of the pairs that the entries leave out. -/
def missing (entries : List TemplateEntry) : List String :=
  (pairs.filter fun (channelType, kind) => (find? entries channelType kind).isNone).map
    fun (channelType, kind) => templateKey channelType kind

/-- The renderer of a table, which has to be complete. -/
def ofEntries (entries : List TemplateEntry) : Except RenderError Renderer :=
  if missing entries = [] then .ok ⟨entries⟩ else .error (.missingTemplates (missing entries))

/-- The message of a payload for a kind of channel. -/
def render (r : Renderer) (channelType : ChannelType) (p : Payload) : Except RenderError Message :=
  match find? r.entries channelType p.kind with
  | none => .error (.templateNotFound channelType p.kind)
  | some template => (template p).map fun body => ⟨p.subject, body⟩

/-- The body of a message on each kind of channel. -/
def body (channelType : ChannelType) (kind : MessageKind) (p : Payload) : String :=
  match channelType with
  | .email =>
    match kind with
    | .initial => Email.initial p
    | .update => Email.update p
    | .resolved => Email.resolved p
    | .completed => Email.completed p
    | .cancelled => Email.cancelled p
  | .telegram => String.ofList (Telegram.body { p with kind })
  | .webhook => Webhook.document p

/-- The templates that are built in. -/
def builtIn : List TemplateEntry :=
  pairs.map fun (channelType, kind) => ⟨channelType, kind, fun p => .ok (body channelType kind p)⟩

/-- The renderer of the built-in templates. -/
def standard : Renderer := ⟨builtIn⟩

/-- No built-in template is missing. -/
theorem ofEntries_builtIn : ofEntries builtIn = .ok standard := by
  have h : missing builtIn = [] := by decide
  simp [ofEntries, h, standard]

end Renderer

end Courier
