import Courier.Number.Decimal

/-!
# Json

JSON values.  The members of an object keep their order and their repetitions; a number is an
integer when it is written without a fraction and without an exponent.
-/

namespace Courier

/-- A JSON value. -/
inductive Json where
  | null
  | bool (value : Bool)
  | integer (value : Int)
  | decimal (value : Decimal)
  | string (value : String)
  | array (items : List Json)
  | object (members : List (String × Json))
  deriving Inhabited

namespace Json

/-- The quotation mark. -/
def quoteMark : Char := '\x22'

/-- The value of a member; of several with one name the last. -/
def member? (name : String) : Json → Option Json
  | object members => members.reverse.lookup name
  | _ => none

/-- A value that may be missing: null stands for none. -/
def ofOptional {α : Type} (encode : α → Json) : Option α → Json
  | none => null
  | some a => encode a

/-- A list, each element written by `encode`. -/
def ofList {α : Type} (encode : α → Json) (items : List α) : Json :=
  array (items.map encode)

end Json

end Courier
