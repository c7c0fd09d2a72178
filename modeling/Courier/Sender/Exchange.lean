import Courier.Failure
import Courier.Http.Target
import Courier.Text.Base64
import Courier.Url

/-!
# Sender — Exchange

One request to another side and what comes of it.

* `OutboundRequest`: what is posted.  Credentials in a URL become a header.
* `Remote`: what the other side does.
* `classifyStatus`: what an answer without success means.  Of its body at most `bodyLimit`
  characters are kept.
-/

namespace Courier

/-- What is posted to the other side. -/
structure OutboundRequest where
  /-- Has no credentials. -/
  url : Url
  contentType : String
  authorization : Option String
  body : String
  deriving DecidableEq, Repr

/-- What the other side does with a request. -/
inductive Remote where
  | reply (status : Nat) (body : String)
  /-- Ends the connection without an answer. -/
  | closed
  /-- Does not answer in time. -/
  | silent
  | unreachable
  deriving DecidableEq, Repr

namespace Remote

/-- The requests that the other side gets to see.  Nothing that is encrypted can be read on the
way. -/
def sees (r : Remote) (request : OutboundRequest) : List OutboundRequest :=
  match r with
  | unreachable => []
  | _ => [request]

end Remote

/-- The longest part of a body that is kept. -/
def bodyLimit : Nat := 512

/-- The start of a text, with dots where the rest is left out. -/
def clip (s : String) : String :=
  if s.toList.length ≤ bodyLimit then s else String.ofList (s.toList.take bodyLimit) ++ "..."

/-- What an answer without success means. -/
def classifyStatus (status : Nat) (body : String) : SendError :=
  if status = 401 ∨ status = 403 then .unauthorized (clip body)
  else if status = 404 ∨ status = 410 then .notFound (clip body)
  else if status = 408 then .timeout (clip body)
  else if status = 429 then .rateLimited none
  else if 500 ≤ status ∧ status ≤ 599 then .server status (clip body)
  else if 400 ≤ status ∧ status ≤ 499 then .rejected (Text.natText status ++ ": " ++ clip body)
  else .other ("unexpected status " ++ Text.natText status ++ ": " ++ clip body)

/-- Whether a status says that all went well. -/
def isSuccess (status : Nat) : Bool := 200 ≤ status && status ≤ 299

namespace OutboundRequest

/-- A request that cannot be made. -/
def unbuildable : SendError := .network "builder error"

/-- A request that cannot be made to its URL. -/
def unbuildableFor (url : Url) : SendError :=
  .network ("builder error for url (" ++ url.text ++ ")")

/-- A request that got no answer. -/
def unsent (r : OutboundRequest) : String := "error sending request for url (" ++ r.url.text ++ ")"

/-- The header for the credentials of a URL. -/
def basicAuthorization? (url : Url) : Option String :=
  if url.username.isEmpty ∧ url.password.isEmpty then none
  else
    let bytes := Text.Percent.decode url.username ++ Text.Utf8.encodeChar ':' ++
      Text.Percent.decode url.password
    some ("Basic " ++ String.ofList (Text.Base64.encode bytes))

/-- Whether a text may stand in a header. -/
def isHeaderText (s : String) : Bool :=
  s.toList.all fun c => c = '\t' || (0x20 ≤ c.toNat && c.toNat ≠ 0x7F)

/-- Whether a URL has a host. -/
def hasHost (url : Url) : Bool :=
  match url.host with
  | some (.name []) => false
  | some _ => true
  | none => false

/-- A JSON body for a URL of the web that can stand in a request line. -/
def post (url : Url) (authorization : Option String) (body : String) :
    Except SendError OutboundRequest :=
  let bare := url.withoutCredentials
  if bare.isHttp ∧ (Http.Target.parse? bare.text).isSome then
    .ok ⟨bare, "application/json", (basicAuthorization? url).or authorization, body⟩
  else .error (unbuildableFor bare)

/-- A JSON body for the address of a service. -/
def postTo (endpoint : String) (authorization : Option String) (body : String) :
    Except SendError OutboundRequest :=
  match Url.parse endpoint with
  | .error _ => .error unbuildable
  | .ok url =>
    if ¬hasHost url then .error (unbuildableFor url)
    else if ¬authorization.all isHeaderText then .error unbuildable
    else post url authorization body

/-- What comes of a request, given what an answer without success means. -/
def conclude (r : OutboundRequest) (classify : Nat → String → SendError) :
    Remote → Except SendError Unit
  | .reply status body => if isSuccess status then .ok () else .error (classify status body)
  | .closed => .error (.network r.unsent)
  | .silent => .error (.timeout r.unsent)
  | .unreachable => .error (.network r.unsent)

end OutboundRequest

end Courier
