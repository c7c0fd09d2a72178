import Courier.Json

/-!
# Json — Record

Reading records.  A record is written as an object, where a field may be missing and unknown members
are passed over, or as the list of its fields in order.

* `required`: the field has to be there.
* `optional`: null, or no member at all, stands for none.
* `defaulted`: a missing field has the value given; null is no substitute for it.
-/

namespace Courier.Json

/-- Where the fields of a record are looked up. -/
inductive Record where
  | named (members : List (String × Json))
  | listed (values : List Json)

namespace Record

/-- The record of `arity` fields that a value holds. -/
def of? (arity : Nat) : Json → Option Record
  | object members => some (named members)
  | array values => if values.length ≤ arity then some (listed values) else none
  | _ => none

/-- What stands for a field. -/
def find? (r : Record) (index : Nat) (name : String) : Option Json :=
  match r with
  | named members => members.reverse.lookup name
  | listed values => values[index]?

/-- A field that has to be there. -/
def required {α : Type} (decode : Json → Option α) (r : Record) (index : Nat) (name : String) :
    Option α :=
  (r.find? index name).bind decode

/-- A field that may be null, and missing as a member. -/
def optional {α : Type} (decode : Json → Option α) (r : Record) (index : Nat) (name : String) :
    Option (Option α) :=
  match r.find? index name with
  | some null => some none
  | some value => (decode value).map some
  | none =>
    match r with
    | named _ => some none
    | listed _ => none

/-- A field that may be missing. -/
def defaulted {α : Type} (default : α) (decode : Json → Option α) (r : Record) (index : Nat)
    (name : String) : Option α :=
  match r.find? index name with
  | some value => decode value
  | none => some default

end Record

/-- A text. -/
def toText? : Json → Option String
  | string s => some s
  | _ => none

/-- A truth value. -/
def toBool? : Json → Option Bool
  | bool b => some b
  | _ => none

/-- An integer between `least` and `most`. -/
def toInt? (least most : Int) : Json → Option Int
  | integer n => if least ≤ n ∧ n ≤ most then some n else none
  | _ => none

/-- A natural number of at most `most`. -/
def toNat? (most : Nat) (j : Json) : Option Nat :=
  (toInt? 0 most j).map Int.toNat

/-- A number, as the double nearest to it. -/
def toDouble? : Json → Option Double
  | integer n => some (Double.ofInt n)
  | decimal d => some d.toDouble
  | _ => none

/-- A list, each element read by `decode`. -/
def toList? {α : Type} (decode : Json → Option α) : Json → Option (List α)
  | array items => items.mapM decode
  | _ => none

/-- A value or null. -/
def toOptional? {α : Type} (decode : Json → Option α) : Json → Option (Option α)
  | null => some none
  | j => (decode j).map some

/-- A 32-bit integer. -/
def toInt32? (j : Json) : Option Int32 :=
  (toInt? Int32.minValue.toInt Int32.maxValue.toInt j).map Int32.ofInt

/-- A 64-bit integer. -/
def toInt64? (j : Json) : Option Int64 :=
  (toInt? Int64.minValue.toInt Int64.maxValue.toInt j).map Int64.ofInt

/-- One of the variants of an enumeration: its name, or an object whose one member is the name with
null. -/
def toVariant? {α : Type} (ofName? : String → Option α) : Json → Option α
  | string name => ofName? name
  | object [(name, null)] => ofName? name
  | _ => none

end Courier.Json
