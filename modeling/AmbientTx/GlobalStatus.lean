import AmbientTx.Failure.ModelError
import AmbientTx.Json.Fields

/-! # Status of a global transaction

The statuses a transaction manager reports. A status has a code, its place in `GlobalStatus.all`,
and is shown as its name with the code in parentheses.
-/

namespace AmbientTx

/-- The status of a global transaction. -/
inductive GlobalStatus where
  /-- The coordinator does not know. -/
  | unknown
  /-- Begun, and open for branches. -/
  | begun
  /-- In the second phase, committing. -/
  | committing
  /-- Committing failed and is tried again. -/
  | commitRetrying
  /-- In the second phase, rolling back. -/
  | rollingBack
  /-- Rolling back failed and is tried again. -/
  | rollbackRetrying
  /-- Rolling back because the transaction took too long. -/
  | timeoutRollingBack
  /-- Rolling back after a timeout failed and is tried again. -/
  | timeoutRollbackRetrying
  /-- The commit is accepted, and the branches commit later. -/
  | asyncCommitting
  /-- Committed. -/
  | committed
  /-- Not committed. -/
  | commitFailed
  /-- Rolled back. -/
  | rolledBack
  /-- Not rolled back. -/
  | rollbackFailed
  /-- Rolled back after a timeout. -/
  | timeoutRolledBack
  /-- Not rolled back after a timeout. -/
  | timeoutRollbackFailed
  /-- Finished, and its session removed. -/
  | finished
  /-- Committing was tried too often. -/
  | commitRetryTimeout
  /-- Rolling back was tried too often. -/
  | rollbackRetryTimeout
  deriving DecidableEq, Repr

namespace GlobalStatus

/-- Every status, in the order of the codes. -/
def all : List GlobalStatus :=
  [.unknown, .begun, .committing, .commitRetrying, .rollingBack, .rollbackRetrying,
   .timeoutRollingBack, .timeoutRollbackRetrying, .asyncCommitting, .committed, .commitFailed,
   .rolledBack, .rollbackFailed, .timeoutRolledBack, .timeoutRollbackFailed, .finished,
   .commitRetryTimeout, .rollbackRetryTimeout]

/-- The code of a status. -/
def code : GlobalStatus → Nat
  | .unknown => 0
  | .begun => 1
  | .committing => 2
  | .commitRetrying => 3
  | .rollingBack => 4
  | .rollbackRetrying => 5
  | .timeoutRollingBack => 6
  | .timeoutRollbackRetrying => 7
  | .asyncCommitting => 8
  | .committed => 9
  | .commitFailed => 10
  | .rolledBack => 11
  | .rollbackFailed => 12
  | .timeoutRolledBack => 13
  | .timeoutRollbackFailed => 14
  | .finished => 15
  | .commitRetryTimeout => 16
  | .rollbackRetryTimeout => 17

/-- The name of a status. -/
def name : GlobalStatus → String
  | .unknown => "UnKnown"
  | .begun => "Begin"
  | .committing => "Committing"
  | .commitRetrying => "CommitRetrying"
  | .rollingBack => "Rollbacking"
  | .rollbackRetrying => "RollbackRetrying"
  | .timeoutRollingBack => "TimeoutRollbacking"
  | .timeoutRollbackRetrying => "TimeoutRollbackRetrying"
  | .asyncCommitting => "AsyncCommitting"
  | .committed => "Committed"
  | .commitFailed => "CommitFailed"
  | .rolledBack => "Rollbacked"
  | .rollbackFailed => "RollbackFailed"
  | .timeoutRolledBack => "TimeoutRollbacked"
  | .timeoutRollbackFailed => "TimeoutRollbackFailed"
  | .finished => "Finished"
  | .commitRetryTimeout => "CommitRetryTimeout"
  | .rollbackRetryTimeout => "RollbackRetryTimeout"

/-- A status, shown: its name and its code. -/
def shown (s : GlobalStatus) : String :=
  s.name ++ "(" ++ toString s.code ++ ")"

/-- The status with that code; a code out of range is an error. -/
def ofCode (n : Int) : Except ModelError GlobalStatus :=
  match if 0 ≤ n then all[n.toNat]? else none with
  | some s => .ok s
  | none => .error (.unknownStatusCode n)

/-- The status with that name. -/
def ofName? (s : String) : Option GlobalStatus :=
  all.find? fun t => t.name = s

/-- Whether the transaction will not change any more. -/
def isFinal : GlobalStatus → Bool
  | .committed | .commitFailed | .rolledBack | .rollbackFailed | .timeoutRolledBack
  | .timeoutRollbackFailed | .finished | .commitRetryTimeout | .rollbackRetryTimeout => true
  | _ => false

/-- The statuses that a commit is expected to end with. -/
def isCommitted : GlobalStatus → Bool
  | .committed | .asyncCommitting | .finished => true
  | _ => false

/-- The statuses that a rollback is expected to end with. -/
def isRolledBack : GlobalStatus → Bool
  | .rolledBack | .finished => true
  | _ => false

/-- The JSON value of a status is its name. -/
def toJson (s : GlobalStatus) : Json :=
  .string s.name

/-- Reads a status from its name. -/
def ofJson? (j : Json) : Option GlobalStatus := do
  ofName? (← j.caseName?)

example : all.map code = List.range 18 := by decide

end GlobalStatus
end AmbientTx
