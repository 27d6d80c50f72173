/-! # JSON values

A number is kept in two forms only, because the records of this library hold whole numbers: a
whole number between `-2^63` and `2^64 - 1` written without fraction and exponent is a `number`,
and any other literal is a `decimal`, kept as it was written.
-/

namespace AmbientTx

/-- A JSON value. The members of an object stand in the order in which they are written. -/
inductive Json where
  | null
  | bool (value : Bool)
  | number (value : Int)
  | decimal (literal : String)
  | string (value : String)
  | array (items : List Json)
  | object (members : List (String × Json))
  deriving Inhabited

namespace Json

/-- The members of an object value, and no members for any other value. -/
def members : Json → List (String × Json)
  | .object ms => ms
  | _ => []

/-- The member of that name. -/
def get? (j : Json) (name : String) : Option Json :=
  List.lookup name j.members

/-- The text of a string value. -/
def text? : Json → Option String
  | .string s => some s
  | _ => none

/-- The value of a whole number. -/
def int? : Json → Option Int
  | .number n => some n
  | _ => none

/-- The items of an array value. -/
def items? : Json → Option (List Json)
  | .array js => some js
  | _ => none

/-- A value that may be absent, which is written as `null`. -/
def ofOption (f : α → Json) : Option α → Json
  | none => .null
  | some a => f a

/-- A text, or `null`. -/
def ofText? : Option String → Json :=
  ofOption .string

end Json
end AmbientTx
