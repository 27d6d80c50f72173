import AmbientTx.Failure.Manager

/-! # Errors of a transactional call

How a business call inside a global transaction can fail. The error of the business is carried
unchanged, and so is the failure of the manager. A task is work, or a transactional call around
another task, so its failure is the text of the work that failed, or the error of a call whose
business is again a task.
-/

namespace AmbientTx

/-! ## The setup -/

/-- An error of the setup. -/
inductive SetupError where
  /-- No transaction manager is installed. -/
  | noManager
  /-- Client options that cannot be read or break a rule. -/
  | configuration (reason : String)
  deriving DecidableEq, Repr

/-- The wording of an error. -/
def SetupError.message : SetupError → String
  | .noManager => "no transaction manager installed"
  | .configuration reason => "configuration error: " ++ reason

/-! ## Calls -/

/-- How a transactional call failed, when its business fails with an `ε`. -/
inductive CallError (ε : Type) where
  /-- The manager did not begin a transaction. -/
  | beginFailed (failure : ManagerFailure)
  /-- The business succeeded and the commit failed. -/
  | commitFailed (failure : ManagerFailure)
  /-- The business failed and the transaction was rolled back. -/
  | business (error : ε)
  /-- The business failed and so did the rollback. -/
  | rollbackFailed (failure : ManagerFailure) (error : ε)
  /-- There was no manager to launch with. -/
  | setup (error : SetupError)
  deriving DecidableEq, Repr

namespace CallError

/-- The wording of an error, given the wording of business errors. -/
def message (wording : ε → String) : CallError ε → String
  | .beginFailed e => "failed to begin global transaction: " ++ e.message
  | .commitFailed e => "failed to commit global transaction: " ++ e.message
  | .business b => "business failure: " ++ wording b
  | .rollbackFailed e b =>
    "rollback failed (" ++ e.message ++ ") after business failure: " ++ wording b
  | .setup e => e.message

/-- The error of the business, if the business failed. -/
def business? : CallError ε → Option ε
  | .business b | .rollbackFailed _ b => some b
  | .beginFailed _ | .commitFailed _ | .setup _ => none

/-- The failure of the manager, if the manager failed. -/
def failure? : CallError ε → Option ManagerFailure
  | .beginFailed e | .commitFailed e | .rollbackFailed e _ => some e
  | .business _ | .setup _ => none

/-- Another error for the business. -/
def map (f : ε → δ) : CallError ε → CallError δ
  | .beginFailed e => .beginFailed e
  | .commitFailed e => .commitFailed e
  | .business b => .business (f b)
  | .rollbackFailed e b => .rollbackFailed e (f b)
  | .setup e => .setup e

/-- The wording of the error's cause, where the error names one apart from itself. -/
def cause? (e : CallError ε) : Option String :=
  e.failure?.map ManagerFailure.message

end CallError
/-! ## Tasks -/

/-- What a task fails with. -/
inductive TaskFailure where
  /-- Work failed with this text. -/
  | text (message : String)
  /-- A transactional call failed. -/
  | call (error : CallError TaskFailure)

/-- The wording of a failure: that of the innermost work is repeated unchanged. -/
def TaskFailure.message : TaskFailure → String
  | .text message => message
  | .call (.business b) => CallError.message id (.business b.message)
  | .call (.rollbackFailed e b) => CallError.message id (.rollbackFailed e b.message)
  | .call (.beginFailed e) => CallError.message id (.beginFailed e)
  | .call (.commitFailed e) => CallError.message id (.commitFailed e)
  | .call (.setup e) => CallError.message id (.setup e)

/-- The wording of a call's error is the wording over the failures of its business. -/
theorem TaskFailure.message_call (e : CallError TaskFailure) :
    (TaskFailure.call e).message = e.message TaskFailure.message := by
  cases e <;> (rw [message]; rfl)

end AmbientTx
