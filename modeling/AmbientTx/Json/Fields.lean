import AmbientTx.Json.Basic

/-! # Records in JSON

A record is written as an object with its fields by name, and read from such an object or from an
array with the fields by place. `Json.fields?` brings both forms to one list, with an entry per
declared field that is `none` where the value leaves the field out. The readers of single fields
say what a field that is left out means.
-/

namespace AmbientTx.Json

/-- The entries of the declared fields `names`, in that order. A `closed` record refuses a member
that is not declared, and an array may be shorter than the declaration but not longer. -/
def fields? (closed : Bool) (names : List String) : Json → Option (List (Option Json))
  | .object ms =>
    if closed && ms.any (fun m => !names.contains m.1) then none
    else some (names.map fun n => List.lookup n ms)
  | .array js =>
    if names.length < js.length then none
    else some (names.zipIdx.map fun n => js[n.2]?)
  | _ => none

/-- A field that has to be there. -/
def required (read : Json → Option α) : Option Json → Option α
  | none => none
  | some j => read j

/-- A field that has the value `default` when it is left out. -/
def orDefault (default : α) (read : Json → Option α) : Option Json → Option α
  | none => some default
  | some j => read j

/-- A field that may be absent: left out or `null`. -/
def optional (read : Json → Option α) : Option Json → Option (Option α)
  | none => some none
  | some .null => some none
  | some j => (read j).map some

/-- A truth value. -/
def bool? : Json → Option Bool
  | .bool b => some b
  | _ => none

/-- A word of 64 bits without sign. -/
def uint64? : Json → Option UInt64
  | .number n => if 0 ≤ n ∧ n.toNat < UInt64.size then some (UInt64.ofNat n.toNat) else none
  | _ => none

/-- A word of 32 bits without sign. -/
def uint32? : Json → Option UInt32
  | .number n => if 0 ≤ n ∧ n.toNat < UInt32.size then some (UInt32.ofNat n.toNat) else none
  | _ => none

/-- A word of 64 bits with sign. -/
def int64? : Json → Option Int64
  | .number n =>
    if Int64.minValue.toInt ≤ n ∧ n ≤ Int64.maxValue.toInt then some (Int64.ofInt n) else none
  | _ => none

/-- Reads every item with `read`. -/
def readAll (read : Json → Option α) : List Json → Option (List α)
  | [] => some []
  | j :: js => do
    let a ← read j
    let as ← readAll read js
    return a :: as

/-- An array of values that `read` reads. -/
def list? (read : Json → Option α) : Json → Option (List α)
  | .array js => readAll read js
  | _ => none

/-- The name of a case without content: the name itself, or an object with that one member, which
has to be `null`. -/
def caseName? : Json → Option String
  | .string s => some s
  | .object [(name, .null)] => some name
  | _ => none

/-- A word without sign, as a number. -/
def ofUInt64 (n : UInt64) : Json := .number n.toNat

/-- A word without sign, as a number. -/
def ofUInt32 (n : UInt32) : Json := .number n.toNat

/-- A word with sign, as a number. -/
def ofInt64 (n : Int64) : Json := .number n.toInt

/-- A member that is left out when it is absent. -/
def memberOf (name : String) (f : α → Json) : Option α → List (String × Json)
  | none => []
  | some a => [(name, f a)]

end AmbientTx.Json
