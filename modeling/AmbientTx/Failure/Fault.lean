import AmbientTx.Failure.CallError
import AmbientTx.Failure.ContextError
import AmbientTx.Failure.ModelError

/-! # Faults

One flat type for callers that do not care which part of the library failed. Every error of the
parts becomes a fault: errors of the model other than a manager's failure keep their wording only,
and so does the error of a business.
-/

namespace AmbientTx

/-- Any failure of the library. -/
inductive Fault where
  /-- A scope was called out of turn. -/
  | scope (error : ScopeError)
  /-- A transaction is bound where none may be. -/
  | unexpectedTransaction (xid : Xid)
  /-- A branch mode that may not be the default. -/
  | illegalDefaultMode (mode : BranchMode)
  /-- A value that is not accepted. -/
  | invalidInput (reason : String)
  /-- A configuration that cannot be read. -/
  | configuration (reason : String)
  /-- No transaction manager is installed. -/
  | noManager
  /-- The manager failed to begin or to commit. -/
  | manager (failure : ManagerFailure)
  /-- The business failed and was rolled back. -/
  | business (error : String)
  /-- The business failed and so did the rollback. -/
  | rollbackFailed (failure : ManagerFailure) (business : String)
  deriving DecidableEq

namespace Fault

/-- The wording of a fault. -/
def message : Fault → String
  | .scope e => "scope misuse: " ++ e.message
  | .unexpectedTransaction x => "unexpected global transaction: " ++ x.text
  | .illegalDefaultMode m => "illegal default branch type: " ++ m.name
  | .invalidInput reason => "invalid input: " ++ reason
  | .configuration reason => "configuration error: " ++ reason
  | .noManager => "no transaction manager installed"
  | .manager e => "transaction failure: " ++ e.message
  | .business b => "business failure: " ++ b
  | .rollbackFailed e b => "rollback failed (" ++ e.message ++ ") after business failure: " ++ b

/-- The wording of the fault's cause, where the fault names one apart from itself. -/
def cause? : Fault → Option String
  | .scope e => some e.message
  | .rollbackFailed e _ => some e.message
  | _ => none

/-- Whether the caller broke a rule. -/
def isMisuse : Fault → Bool
  | .scope _ | .unexpectedTransaction _ => true
  | _ => false

/-- Whether the transaction manager failed. -/
def isManagerFailure : Fault → Bool
  | .manager _ | .rollbackFailed _ _ => true
  | _ => false

/-- Whether the business failed. -/
def isBusiness : Fault → Bool
  | .business _ | .rollbackFailed _ _ => true
  | _ => false

/-- The fault for an error of the model. -/
def ofModel : ModelError → Fault
  | .manager e => .manager e
  | e => .invalidInput e.message

/-- The fault for an error of the context. -/
def ofContext : ContextError → Fault
  | .unexpectedTransaction x => .unexpectedTransaction x
  | .illegalDefaultMode m => .illegalDefaultMode m
  | .configuration reason => .configuration reason

/-- The fault for an error of the setup. -/
def ofSetup : SetupError → Fault
  | .noManager => .noManager
  | .configuration reason => .configuration reason

/-- The fault for an error of a transactional call, given the wording of business errors. -/
def ofCall (wording : ε → String) : CallError ε → Fault
  | .beginFailed e | .commitFailed e => .manager e
  | .business b => .business (wording b)
  | .rollbackFailed e b => .rollbackFailed e (wording b)
  | .setup e => ofSetup e

end Fault
end AmbientTx
