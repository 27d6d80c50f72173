import AmbientTx.Toml.Reader

/-! # Records in settings documents

A record is read from the entries of a document by the names of its fields. An entry that is not
declared is refused, and a field that is left out has its default.
-/

namespace AmbientTx.Toml

/-- Why a record could not be read: the document is no settings document for it, or the record
breaks a rule of its own. -/
inductive LoadError (ε : Type) where
  | malformed
  | rejected (error : ε)
  deriving DecidableEq, Repr

/-- A file that may hold a document: its bytes, or a path where there is no file. -/
inductive File where
  | bytes (content : ByteArray)
  | missing (path : String)

/-- Reads a record from a file. A file that is missing is a configuration error with the path and
the reason, and bytes that are no text are no document. -/
def File.load (configuration : String → ε) (read : String → Except (LoadError ε) α) :
    File → Except (LoadError ε) α
  | .missing path =>
    .error (.rejected (configuration (path ++ ": No such file or directory (os error 2)")))
  | .bytes content =>
    match String.fromUTF8? content with
    | none => .error .malformed
    | some source => read source

/-- The entries of the declared fields `names`, in that order. -/
def Table.fields? (t : Table) (names : List String) : Option (List (Option Value)) :=
  if t.any fun e => !names.contains e.1 then none
  else some (names.map fun n => List.lookup n t)

/-- A field that has the value `default` when it is left out. -/
def orDefault (default : α) (read : Value → Option α) : Option Value → Option α
  | none => some default
  | some v => read v

/-- A field that may be absent. -/
def optional (read : Value → Option α) : Option Value → Option (Option α)
  | none => some none
  | some v => (read v).map some

namespace Value

/-- The text of a text value. -/
def text? : Value → Option String
  | .text s => some s
  | _ => none

/-- A truth value. -/
def bool? : Value → Option Bool
  | .bool b => some b
  | _ => none

/-- A whole number that is not negative. -/
def word? : Value → Option UInt64
  | .word n => if 0 ≤ n ∧ n.toNat < UInt64.size then some (UInt64.ofNat n.toNat) else none
  | _ => none

/-- The name of a case without content: the name itself, or a table with that one key, whose value
holds nothing. -/
def caseName? : Value → Option String
  | .text s => some s
  | .table _ [(name, .table _ [])] => some name
  | .table _ [(name, .array [])] => some name
  | _ => none

end Value
end AmbientTx.Toml
