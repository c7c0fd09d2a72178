import Courier.Text.Percent

/-!
# Http — Target

The target of a request: the path and the query of the identifier in the request line.  It may be
written as a path, as an absolute address, as an authority alone, or as an asterisk.

A path may hold any characters but controls, blanks and a few that have to be escaped; a query may
hold some more.  What follows a `#` is dropped.
-/

namespace Courier.Http

/-- A path and a query, neither of them decoded. -/
structure Target where
  path : List Char
  query : Option (List Char)
  deriving DecidableEq, Repr

namespace Target

/-- The most bytes of a target. -/
def lengthLimit : Nat := 65534

/-- Whether a character may stand in a path. -/
def isPathChar (c : Char) : Bool :=
  let n := c.toNat
  n == 0x21 || n == 0x22 || (0x24 ≤ n && n ≤ 0x3B) || n == 0x3D || (0x40 ≤ n && n ≤ 0x5F) ||
    (0x61 ≤ n && n ≤ 0x7E) || 0x7F ≤ n

/-- Whether a character may stand in a query. -/
def isQueryChar (c : Char) : Bool :=
  let n := c.toNat
  n == 0x21 || (0x24 ≤ n && n ≤ 0x3B) || n == 0x3D || 0x3F ≤ n

/-- The text before the first `#`. -/
def withoutFragment (s : List Char) : List Char := s.takeWhile (· ≠ '#')

/-- A path with its query. -/
def ofPathAndQuery? (s : List Char) : Option Target :=
  let path := s.takeWhile fun c => c ≠ '?' ∧ c ≠ '#'
  if path.all isPathChar then
    match s.drop path.length with
    | '?' :: rest =>
      if (withoutFragment rest).all isQueryChar then some ⟨path, some (withoutFragment rest)⟩
      else none
    | _ => some ⟨path, none⟩
  else none

/-- Whether a character may stand in an authority, `%` aside. -/
def isAuthorityChar (c : Char) : Bool :=
  c.isAlphanum || "!#$&'()*+,-./:;=?@[]_~".toList.contains c

/-- What is known of an authority while it is read. -/
structure AuthorityState where
  colons : Nat
  opened : Bool
  closed : Bool
  percent : Bool
  endsWithAt : Bool

/-- Reads one more character of an authority. -/
def AuthorityState.step? (st : AuthorityState) (c : Char) : Option AuthorityState :=
  let st := { st with endsWithAt := false }
  if c = ':' then if 8 ≤ st.colons then none else some { st with colons := st.colons + 1 }
  else if c = '[' then if st.percent ∨ st.opened then none else some { st with opened := true }
  else if c = ']' then
    if ¬st.opened ∨ st.closed then none
    else some { st with closed := true, colons := 0, percent := false }
  else if c = '@' then some { st with colons := 0, percent := false, endsWithAt := true }
  else if c = '%' then some { st with percent := true }
  else if isAuthorityChar c then some st
  else none

/-- Whether a text is a host with an optional port, behind optional credentials. -/
def isAuthority (s : List Char) : Bool :=
  match s.foldlM AuthorityState.step? ⟨0, false, false, false, false⟩ with
  | some st => st.opened == st.closed && st.colons ≤ 1 && !st.endsWithAt && !st.percent
  | none => false

/-- Whether a character may stand in a scheme. -/
def isSchemeChar (c : Char) : Bool := c.isAlphanum || "+-.~".toList.contains c

/-- The scheme before `://` and the text after it. -/
def splitScheme? (s : List Char) : Option (List Char × List Char) :=
  let scheme := s.takeWhile isSchemeChar
  match s.drop scheme.length with
  | ':' :: '/' :: '/' :: rest => some (scheme, rest)
  | _ => none

/-- The target of an absolute address or of an authority alone. -/
def ofAbsolute? (s : List Char) : Option Target :=
  match splitScheme? s with
  | none =>
    if isAuthority s ∧ s.all (fun c => c ≠ '/' ∧ c ≠ '?' ∧ c ≠ '#') then some ⟨[], none⟩ else none
  | some (scheme, rest) =>
    let authority := rest.takeWhile fun c => c ≠ '/' ∧ c ≠ '?' ∧ c ≠ '#'
    if scheme.length ≤ 64 ∧ authority ≠ [] ∧ isAuthority authority then
      (ofPathAndQuery? (rest.drop authority.length)).map fun t =>
        if t.path = [] then { t with path := ['/'] } else t
    else none

/-- The target that a text spells. -/
def parse? (text : String) : Option Target :=
  let s := text.toList
  if lengthLimit < Text.Utf8.size s then none
  else
    match s with
    | [] => none
    | ['*'] => some ⟨['*'], none⟩
    | '/' :: _ => ofPathAndQuery? s
    | _ => ofAbsolute? s

end Target

end Courier.Http
