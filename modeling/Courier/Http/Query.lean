import Courier.Text.Integer
import Courier.Text.Percent

/-!
# Http — Query

Form-encoded queries: names and values with `&` between the pairs, `+` for a space and escapes for
bytes.
-/

namespace Courier.Http.Query

/-- The pieces of a text between the copies of `c`. -/
def splitAt (c : Char) : List Char → List (List Char)
  | [] => [[]]
  | d :: rest =>
    if d = c then [] :: splitAt c rest
    else
      match splitAt c rest with
      | piece :: pieces => (d :: piece) :: pieces
      | [] => [[d]]

/-- A name or a value as it is meant; ill-formed bytes are replaced. -/
def decode (s : List Char) : String :=
  let spaced := s.map fun c => if c = '+' then ' ' else c
  String.ofList (Text.Utf8.decodeLossy (Text.Percent.decode spaced))

/-- A name and the value after the first `=`, which may be missing. -/
def pair (s : List Char) : String × String :=
  let name := s.takeWhile (· ≠ '=')
  (decode name, decode (s.drop (name.length + 1)))

/-- The pairs of a query; empty ones are passed over. -/
def pairs (s : List Char) : List (String × String) :=
  ((splitAt '&' s).filter (· ≠ [])).map pair

end Courier.Http.Query
