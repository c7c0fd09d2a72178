import Courier.Http.Query
import Courier.Http.Target
import Courier.Uuid

/-!
# Http — Route

Which path means what, and the parameters of requests: identifiers in the path, a status and a limit
in the query.
-/

namespace Courier.Http

/-- What can be requested.  An identifier stands as the path has it. -/
inductive Route where
  | health
  | metrics
  | queue
  | queueStats
  | retry (id : List Char)
  | channelTest (id : List Char)
  deriving DecidableEq, Repr

namespace Route

/-- The route of a path.  An identifier may be empty: it is then one that cannot be read. -/
def ofPath? (path : List Char) : Option Route :=
  match (Query.splitAt '/' path).map String.ofList with
  | ["", "health"] => some health
  | ["", "metrics"] => some metrics
  | ["", "api", "notifications", "queue"] => some queue
  | ["", "api", "notifications", "queue", "stats"] => some queueStats
  | ["", "api", "notifications", "queue", id, "retry"] => some (retry id.toList)
  | ["", "api", "channels", id, "test"] => some (channelTest id.toList)
  | _ => none

/-- Whether a route changes something, and so wants `POST`. -/
def isAction : Route → Bool
  | retry _ => true
  | channelTest _ => true
  | _ => false

/-- Whether a route takes a method.  What can be fetched can also be asked for its head alone. -/
def takes (r : Route) (method : String) : Bool :=
  if r.isAction then method == "POST" else method == "GET" || method == "HEAD"

/-- The methods that a route takes. -/
def allowed (r : Route) : String := if r.isAction then "POST" else "GET,HEAD"

end Route

/-- Whether a text can be a method: one character or more, letters, digits and some marks. -/
def isMethod (s : String) : Bool :=
  !s.isEmpty && s.toList.all fun c => c.isAlphanum || "!#$%&'*+-.^_\x60|~".toList.contains c

/-- Why an identifier in a path cannot be read. -/
inductive PathFault where
  | notUtf8
  | notUuid (value : String) (fault : Uuid.Fault)

namespace PathFault

/-- The wording of a fault. -/
def message : PathFault → String
  | notUtf8 => "Invalid URL: Invalid UTF-8 in \x60id\x60"
  | notUuid value fault =>
    "Invalid URL: Cannot parse \x60id\x60 with value \x60" ++ value ++
      "\x60: UUID parsing failed: " ++ fault.message

end PathFault

/-- The identifier in a path. -/
def pathId (s : List Char) : Except PathFault Uuid :=
  match Text.Utf8.decode? (Text.Percent.decode s) with
  | none => .error .notUtf8
  | some value =>
    match Uuid.read (String.ofList value) with
    | .ok id => .ok id
    | .error fault => .error (.notUuid (String.ofList value) fault)

/-- Which items of the queue are asked for. -/
structure ListParameters where
  status : Option String
  limit : Option UInt32
  deriving DecidableEq, Repr

/-- Why a query cannot be read. -/
inductive QueryFault where
  | duplicate (name : String)
  | limit (fault : Text.IntegerFault)

namespace QueryFault

/-- The wording of a fault. -/
def message : QueryFault → String
  | duplicate name =>
    "Failed to deserialize query string: duplicate field \x60" ++ name ++ "\x60"
  | limit fault => "Failed to deserialize query string: limit: " ++ fault.message

end QueryFault

namespace ListParameters

/-- Takes one pair of a query into account; a name that is not known is passed over. -/
def accept (p : ListParameters) : String × String → Except QueryFault ListParameters
  | (name, value) =>
    if name = "status" then
      if p.status.isSome then .error (.duplicate name) else .ok { p with status := some value }
    else if name = "limit" then
      if p.limit.isSome then .error (.duplicate name)
      else
        match Text.readNat (UInt32.size - 1) value.toList with
        | .ok n => .ok { p with limit := some (UInt32.ofNat n) }
        | .error fault => .error (.limit fault)
    else .ok p

/-- The parameters of a query; the first fault from the left is the one reported. -/
def ofQuery (query : List Char) : Except QueryFault ListParameters :=
  (Query.pairs query).foldlM accept ⟨none, none⟩

end ListParameters

end Courier.Http
