import AmbientTx.BranchMode
import AmbientTx.Xid

/-! # Errors of scopes and of the ambient context

What can go wrong around the context of a worker and the configuration of contexts. A scope is
activated and deactivated in turns, and both errors of a scope mean that a caller lost track of the
turns; neither is a condition to recover from.
-/

namespace AmbientTx

/-- A call on a scope that is out of turn. -/
inductive ScopeError where
  /-- Activated while active. -/
  | alreadyActive
  /-- Deactivated while inactive. -/
  | notActive
  deriving DecidableEq, Repr

/-- The wording of an error. -/
def ScopeError.message : ScopeError → String
  | .alreadyActive => "transaction scope activated twice without an intervening deactivate"
  | .notActive => "transaction scope deactivated without a matching activate"

/-- An error of the context or of its configuration. -/
inductive ContextError where
  /-- A transaction is bound where none may be. -/
  | unexpectedTransaction (xid : Xid)
  /-- A branch mode that may not be the default. -/
  | illegalDefaultMode (mode : BranchMode)
  /-- A configuration that cannot be read. -/
  | configuration (reason : String)
  deriving DecidableEq

/-- The wording of an error. -/
def ContextError.message : ContextError → String
  | .unexpectedTransaction x => "unexpected global transaction bound on this worker: " ++ x.text
  | .illegalDefaultMode m =>
    m.name ++ " cannot be the default branch type, only AT or XA are allowed"
  | .configuration reason => "configuration error: " ++ reason

end AmbientTx
