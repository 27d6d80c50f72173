import AmbientTx.Failure.Manager

/-! # Errors of the model

What can be wrong with the values that callers hand in: an id, a code, a name, a lock query. A
failure of the transaction manager is carried along unchanged.
-/

namespace AmbientTx

/-- Why a value is not accepted. -/
inductive ModelError where
  /-- A transaction id without any character that is not white space. -/
  | blankXid
  /-- A code of no branch mode. -/
  | unknownModeCode (code : UInt8)
  /-- A name of no branch mode. -/
  | unknownModeName (name : String)
  /-- A code of no global status. -/
  | unknownStatusCode (code : Int)
  /-- An ordinal of no failure code. -/
  | unknownFailureCode (ordinal : Int)
  /-- A lock query that breaks one of its rules. -/
  | invalidQuery (reason : String)
  /-- A failure of the transaction manager. -/
  | manager (failure : ManagerFailure)
  deriving DecidableEq, Repr

/-- The wording of an error. -/
def ModelError.message : ModelError → String
  | .blankXid => "xid must not be blank"
  | .unknownModeCode n => "unknown branch type code: " ++ toString n.toNat
  | .unknownModeName s => "unknown branch type name: " ++ s
  | .unknownStatusCode n => "unknown global status code: " ++ toString n
  | .unknownFailureCode n => "unknown transaction exception code: " ++ toString n
  | .invalidQuery reason => "invalid query: " ++ reason
  | .manager e => e.message

/-- The failure code with that ordinal; an ordinal out of range is an error. -/
def FailureCode.ofOrdinal (n : Int) : Except ModelError FailureCode :=
  match FailureCode.ofOrdinal? n with
  | some c => .ok c
  | none => .error (.unknownFailureCode n)

end AmbientTx
