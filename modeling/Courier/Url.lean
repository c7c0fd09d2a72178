import Courier.Text.Blank
import Courier.Url.Host

/-!
# Url

Absolute URLs, read leniently and written in one normal form: scheme and host in lower case, the
default port left out, dots in the path resolved, and what has to be escaped escaped.

The special schemes have a host, take a backslash for a slash, and know a default port.
-/

namespace Courier

namespace Url

/-- What follows the host: the segments of a path, or a text without structure. -/
inductive Path where
  | segments (parts : List (List Char))
  | plain (text : List Char)
  deriving DecidableEq, Repr

end Url

/-- An absolute URL. -/
structure Url where
  scheme : List Char
  username : List Char
  password : List Char
  host : Option Url.Host
  port : Option Nat
  path : Url.Path
  query : Option (List Char)
  fragment : Option (List Char)
  deriving DecidableEq, Repr

namespace Url

/-- The special schemes and their default ports. -/
def specialPorts : List (String × Option Nat) :=
  [("http", some 80), ("https", some 443), ("ws", some 80), ("wss", some 443), ("ftp", some 21),
    ("file", none)]

/-- Whether a scheme is one of those with rules of their own. -/
def isSpecial (scheme : List Char) : Bool := (specialPorts.lookup (String.ofList scheme)).isSome

/-- Whether a scheme is that of files. -/
def isFile (scheme : List Char) : Bool := scheme = "file".toList

/-- The port that need not be written for a scheme. -/
def defaultPort (scheme : List Char) : Option Nat :=
  (specialPorts.lookup (String.ofList scheme)).join

/-! ## What is escaped where -/

/-- Whether a character is encoded in a fragment. -/
def isFragmentReserved (c : Char) : Bool :=
  Host.isControl c || c = ' ' || c = '\x22' || c = '<' || c = '>' || c = '\x60'

/-- Whether a character is encoded in a path. -/
def isPathReserved (c : Char) : Bool :=
  isFragmentReserved c || c = '#' || c = '?' || c = '\x7b' || c = '\x7d'

/-- Whether a character is encoded in a name or a password. -/
def isUserReserved (c : Char) : Bool := isPathReserved c || "/:;=@[\\]^|".toList.contains c

/-- Whether a character is encoded in a query. -/
def isQueryReserved (special : Bool) (c : Char) : Bool :=
  Host.isControl c || c = ' ' || c = '\x22' || c = '#' || c = '<' || c = '>' ||
    (special && c = '\x27')

/-! ## Reading -/

/-- The text without controls and spaces around it and without tabs and line ends in it. -/
def cleaned (s : List Char) : List Char :=
  let blank := fun (c : Char) => decide (c.toNat ≤ 0x20)
  let inner := ((s.dropWhile blank).reverse.dropWhile blank).reverse
  inner.filter fun c => c ≠ '\t' ∧ c ≠ '\n' ∧ c ≠ '\r'

/-- The scheme in lower case and the text after its colon. -/
def splitScheme? (s : List Char) : Option (List Char × List Char) :=
  let scheme := s.takeWhile fun c => c.isAlphanum || c = '+' || c = '-' || c = '.'
  match s, s.drop scheme.length with
  | c :: _, ':' :: rest => if c.isAlpha then some (scheme.map Char.toLower, rest) else none
  | _, _ => none

/-- Whether a character ends what may hold user and host. -/
def endsAuthority (special : Bool) (c : Char) : Bool :=
  c = '/' || c = '?' || c = '#' || (special && c = '\\')

/-- The text before the last `@` and the text after it. -/
def splitUser? : List Char → Option (List Char × List Char)
  | [] => none
  | c :: rest =>
    match splitUser? rest with
    | some (user, host) => some (c :: user, host)
    | none => if c = '@' then some ([], rest) else none

/-- The host at the front of a text, brackets and all, and what follows it. -/
def spanHost (bracketed : Bool) : List Char → List Char × List Char
  | [] => ([], [])
  | c :: rest =>
    if c = ':' ∧ ¬bracketed then ([], c :: rest)
    else
      let bracketed := if c = '[' then true else if c = ']' then false else bracketed
      let (host, after) := spanHost bracketed rest
      (c :: host, after)

/-- A port after its colon, up to the character that ends it; none when there is no digit. -/
def port? (s : List Char) : Except UrlFault (Option Nat) :=
  if s = [] then .ok none
  else
    match if s.all fun c => (Text.digitValue? c).isSome then Text.readNat 65535 s
      else .error .invalidDigit with
    | .ok n => .ok (some n)
    | .error _ => .error .invalidPort

/-- The two letters of a drive: `c:` or `c|`. -/
def isDrive : List Char → Bool
  | [c, d] => c.isAlpha && (d = ':' || d = '|')
  | _ => false

/-- Whether a segment stands for the folder itself. -/
def isDot (s : List Char) : Bool :=
  let t := String.ofList (s.map Char.toLower)
  t = "." || t = "%2e"

/-- Whether a segment stands for the folder above. -/
def isDoubleDot (s : List Char) : Bool :=
  let t := String.ofList (s.map Char.toLower)
  t = ".." || t = ".%2e" || t = "%2e." || t = "%2e%2e"

/-- The pieces of a path between its slashes. -/
def pieces (special : Bool) : List Char → List (List Char)
  | [] => [[]]
  | c :: rest =>
    if c = '/' ∨ (special ∧ c = '\\') then [] :: pieces special rest
    else
      match pieces special rest with
      | piece :: others => (c :: piece) :: others
      | [] => [[c]]

/-- The segments without the last one; the drive of a file stays. -/
def shorten (file : Bool) : List (List Char) → List (List Char)
  | [] => []
  | [drive] => if file && isDrive drive then [drive] else []
  | _ :: rest => rest

/-- Takes the pieces of a path into the segments read so far, the last of which stands first. -/
def resolve (file : Bool) : List (List Char) → List (List Char) → List (List Char)
  | read, [] => read
  | read, piece :: rest =>
    let isLast := rest.isEmpty
    let s := Text.Percent.encode isPathReserved piece
    if isDoubleDot s then
      let above := shorten file read
      resolve file (if isLast then [] :: above else above) rest
    else if isDot s then resolve file (if isLast then [] :: read else read) rest
    else
      let s := if file ∧ read = [] ∧ isDrive s then [s.headD 'c', ':'] else s
      resolve file (s :: read) rest

/-- The segments of a path without its first slash. -/
def segmentsOf (special file : Bool) (s : List Char) : List (List Char) :=
  (resolve file [] (pieces special s)).reverse

/-- The path after an authority; one that is special has a segment at least. -/
def pathAfterHost (special file : Bool) : List Char → Path
  | [] => .segments (if special then [[]] else [])
  | c :: rest =>
    if c = '/' ∨ (special ∧ c = '\\') then .segments (segmentsOf special file rest)
    else .segments (segmentsOf special file (c :: rest))

/-- The path of a file, where empty segments in front are dropped. -/
def filePath (s : List Char) : Path :=
  match segmentsOf true true s with
  | [] => .segments [[]]
  | segments =>
    match segments.dropWhile (· = []) with
    | [] => .segments [[]]
    | rest => .segments rest

/-- The text before a query or a fragment, the query and the fragment. -/
def splitTail (special : Bool) (s : List Char) :
    List Char × Option (List Char) × Option (List Char) :=
  let main := s.takeWhile fun c => c ≠ '?' ∧ c ≠ '#'
  let rest := s.drop main.length
  let fragmentOf := fun (t : List Char) =>
    match t with
    | '#' :: t => some (Text.Percent.encode isFragmentReserved t)
    | _ => none
  match rest with
  | '?' :: rest =>
    let query := rest.takeWhile (· ≠ '#')
    (main, some (Text.Percent.encode (isQueryReserved special) query),
      fragmentOf (rest.drop query.length))
  | rest => (main, none, fragmentOf rest)

/-- The user and the password of what stands before the host. -/
def credentials (s : List Char) : List Char × List Char :=
  let user := s.takeWhile (· ≠ ':')
  (Text.Percent.encode isUserReserved user,
    Text.Percent.encode isUserReserved (s.drop (user.length + 1)))

/-- The host and the port of an authority. -/
def hostAndPort (scheme : List Char) (hasUser : Bool) (s : List Char) :
    Except UrlFault (Host × Option Nat) := do
  let special := isSpecial scheme
  let (hostText, rest) := spanHost false s
  if hostText = [] ∧ (special ∨ hasUser ∨ rest ≠ []) then throw .emptyHost
  let host ← if special then Host.parse hostText else Host.parsePlain hostText
  let port ← port? (rest.drop 1)
  return (host, if port = defaultPort scheme then none else port)

/-- The URL of what follows the two slashes after a scheme. -/
def withAuthority (scheme s : List Char) : Except UrlFault Url := do
  let special := isSpecial scheme
  let (main, query, fragment) := splitTail special s
  let authority := main.takeWhile fun c => !endsAuthority special c
  let split := splitUser? authority
  let (user, hostText) := split.getD ([], authority)
  let (username, password) := credentials user
  let (host, port) ← hostAndPort scheme split.isSome hostText
  return {
    scheme, username, password, host := some host, port
    path := pathAfterHost special false (main.drop authority.length), query, fragment }

/-- The host of a file; none when a drive stands in its place. -/
def fileHost (s : List Char) : Except UrlFault (Option Host) :=
  if isDrive s then .ok none
  else if s = [] then .ok (some (.name []))
  else
    match Host.parse s with
    | .error fault => .error fault
    | .ok host => .ok (some (if host = .name "localhost".toList then .name [] else host))

/-- The URL of a file. -/
def ofFile (scheme s : List Char) : Except UrlFault Url := do
  let (main, query, fragment) := splitTail true s
  let slash := fun (c : Char) => decide (c = '/' ∨ c = '\\')
  let url := fun (host : Host) (path : List Char) =>
    { scheme, username := [], password := [], host := some host, port := none
      path := filePath path, query, fragment : Url }
  match main with
  | a :: b :: rest =>
    if slash a ∧ slash b then
      let hostText := rest.takeWhile fun c => !slash c
      match ← fileHost hostText with
      | some host => return url host (rest.drop (hostText.length + 1))
      | none => return url (.name []) rest
    else return url (.name []) (if slash a then b :: rest else main)
  | [a] => return url (.name []) (if slash a then [] else main)
  | [] => return url (.name []) []

/-- The URL of what follows a scheme that is not special. -/
def ofPlain (scheme s : List Char) : Except UrlFault Url :=
  match s with
  | '/' :: '/' :: rest => withAuthority scheme rest
  | _ =>
    let (main, query, fragment) := splitTail false s
    let path : Path :=
      match main with
      | '/' :: rest => .segments (segmentsOf false false rest)
      | _ => .plain (Text.Percent.encode Host.isControl main)
    .ok
      { scheme, username := [], password := [], host := none, port := none, path, query, fragment }

/-- The URL that a text spells. -/
def parse (text : String) : Except UrlFault Url :=
  match splitScheme? (cleaned text.toList) with
  | none => .error .relative
  | some (scheme, rest) =>
    if isFile scheme then ofFile scheme rest
    else if isSpecial scheme then
      withAuthority scheme (rest.dropWhile fun c => c = '/' || c = '\\')
    else ofPlain scheme rest

/-! ## Writing -/

/-- The written form of a path; one that would read as a host is kept apart by a dot. -/
def Path.text (hasHost : Bool) : Path → List Char
  | plain s => s
  | segments parts =>
    let apart := !hasHost && parts.length > 1 && parts.head? == some []
    (if apart then ['/', '.'] else []) ++ parts.flatMap ('/' :: ·)

/-- The credentials before a host. -/
def userText (u : Url) : List Char :=
  if u.username.isEmpty ∧ u.password.isEmpty then []
  else u.username ++ (if u.password.isEmpty then [] else ':' :: u.password) ++ ['@']

/-- The host with what belongs to it. -/
def authorityText (u : Url) : List Char :=
  match u.host with
  | none => []
  | some host =>
    '/' :: '/' :: u.userText ++ host.text ++
      (match u.port with
        | some n => ':' :: Text.natDigits n
        | none => [])

/-- The written form. -/
def text (u : Url) : String :=
  String.ofList (u.scheme ++ ':' :: u.authorityText ++ u.path.text u.host.isSome ++
    (match u.query with
      | some q => '?' :: q
      | none => []) ++
    (match u.fragment with
      | some f => '#' :: f
      | none => []))

/-- The URL without its credentials. -/
def withoutCredentials (u : Url) : Url := { u with username := [], password := [] }

/-- Whether the scheme is one of the web. -/
def isHttp (u : Url) : Bool := u.scheme = "http".toList || u.scheme = "https".toList

end Url

end Courier
