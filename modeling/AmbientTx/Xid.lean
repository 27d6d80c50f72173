import AmbientTx.Text.Blank
import AmbientTx.Text.Quoted
import AmbientTx.Failure.ModelError
import AmbientTx.Json.Fields

/-! # Transaction ids

An `Xid` names one global transaction. It is a text that is not blank and is never altered, so
that a missing transaction is always `none : Option Xid` and never an empty text.
-/

namespace AmbientTx

/-- The id of a global transaction: a text that is not blank. -/
structure Xid where
  /-- The text, as the transaction manager gave it. -/
  text : String
  not_blank : Text.isBlank text = false
  deriving DecidableEq

namespace Xid

/-- The id with that text, unless the text is blank. -/
def ofString? (s : String) : Option Xid :=
  if h : Text.isBlank s = false then some ⟨s, h⟩ else none

/-- The id with that text; a blank text is an error. -/
def ofString (s : String) : Except ModelError Xid :=
  match ofString? s with
  | some x => .ok x
  | none => .error .blankXid

/-- Ids are ordered by their text, code point by code point, which is also the order of their
UTF-8 bytes. -/
def compare (a b : Xid) : Ordering :=
  if a.text < b.text then .lt else if a.text = b.text then .eq else .gt

/-- Ids in ascending order. -/
def sorted (xs : List Xid) : List Xid :=
  xs.mergeSort fun a b => compare a b != .gt

/-- How a log field shows an id. -/
def shown (x : Xid) : String :=
  "Xid(" ++ Text.quote x.text ++ ")"

/-- The JSON value of an id is its text. -/
def toJson (x : Xid) : Json :=
  .string x.text

/-- Reads an id from a string that is not blank. -/
def ofJson? : Json → Option Xid
  | .string s => ofString? s
  | _ => none

end Xid
end AmbientTx
