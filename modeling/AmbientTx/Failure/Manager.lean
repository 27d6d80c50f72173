import AmbientTx.Json.Fields

/-! # Failures of a transaction manager

What a manager answers when it refuses a request: a code and a message for people. The code is the
class of the failure. It is known by its name and by its ordinal, the place in the list
`FailureCode.all`.
-/

namespace AmbientTx

/-- Why a transaction manager refused a request. -/
inductive FailureCode where
  /-- Not classified. -/
  | unknown
  /-- The global transaction could not be started. -/
  | beginFailed
  /-- Another global transaction holds the row lock. -/
  | lockKeyConflict
  /-- The coordinator could not be reached. -/
  | transport
  /-- A branch could not be rolled back; trying again may help. -/
  | branchRollbackFailedRetriable
  /-- A branch could not be rolled back; trying again is pointless. -/
  | branchRollbackFailedUnretriable
  /-- A branch was not registered. -/
  | branchRegisterFailed
  /-- The report of a branch was not taken. -/
  | branchReportFailed
  /-- The check of a lock failed. -/
  | lockableCheckFailed
  /-- The branch session is missing. -/
  | branchTransactionNotExist
  /-- The global session is missing. -/
  | globalTransactionNotExist
  /-- The global session is not active any more. -/
  | globalTransactionNotActive
  /-- The global session is in a state that forbids the request. -/
  | globalTransactionStatusInvalid
  /-- The commit request did not reach a branch. -/
  | failedToSendBranchCommitRequest
  /-- The rollback request did not reach a branch. -/
  | failedToSendBranchRollbackRequest
  /-- The branch could not be attached to the global session. -/
  | failedToAddBranch
  /-- The lock of the global session could not be taken. -/
  | failedLockGlobalTransaction
  /-- The session could not be written. -/
  | failedWriteSession
  /-- The store failed. -/
  | failedStore
  /-- The request reached a coordinator that does not lead. -/
  | notRaftLeader
  /-- Another global transaction holds the row lock, and the caller did not want to wait. -/
  | lockKeyConflictFailFast
  /-- The transaction took longer than its timeout. -/
  | transactionTimeout
  /-- The branches did not all commit. -/
  | commitHeuristic
  /-- The connection to the coordinator broke. -/
  | broken
  deriving DecidableEq, Repr

namespace FailureCode

/-- Every code, in the order of the ordinals. -/
def all : List FailureCode :=
  [.unknown, .beginFailed, .lockKeyConflict, .transport, .branchRollbackFailedRetriable,
   .branchRollbackFailedUnretriable, .branchRegisterFailed, .branchReportFailed,
   .lockableCheckFailed, .branchTransactionNotExist, .globalTransactionNotExist,
   .globalTransactionNotActive, .globalTransactionStatusInvalid,
   .failedToSendBranchCommitRequest, .failedToSendBranchRollbackRequest, .failedToAddBranch,
   .failedLockGlobalTransaction, .failedWriteSession, .failedStore, .notRaftLeader,
   .lockKeyConflictFailFast, .transactionTimeout, .commitHeuristic, .broken]

/-- The ordinal of a code. -/
def ordinal : FailureCode → Nat
  | .unknown => 0
  | .beginFailed => 1
  | .lockKeyConflict => 2
  | .transport => 3
  | .branchRollbackFailedRetriable => 4
  | .branchRollbackFailedUnretriable => 5
  | .branchRegisterFailed => 6
  | .branchReportFailed => 7
  | .lockableCheckFailed => 8
  | .branchTransactionNotExist => 9
  | .globalTransactionNotExist => 10
  | .globalTransactionNotActive => 11
  | .globalTransactionStatusInvalid => 12
  | .failedToSendBranchCommitRequest => 13
  | .failedToSendBranchRollbackRequest => 14
  | .failedToAddBranch => 15
  | .failedLockGlobalTransaction => 16
  | .failedWriteSession => 17
  | .failedStore => 18
  | .notRaftLeader => 19
  | .lockKeyConflictFailFast => 20
  | .transactionTimeout => 21
  | .commitHeuristic => 22
  | .broken => 23

/-- The name of a code. -/
def name : FailureCode → String
  | .unknown => "Unknown"
  | .beginFailed => "BeginFailed"
  | .lockKeyConflict => "LockKeyConflict"
  | .transport => "IO"
  | .branchRollbackFailedRetriable => "BranchRollbackFailedRetriable"
  | .branchRollbackFailedUnretriable => "BranchRollbackFailedUnretriable"
  | .branchRegisterFailed => "BranchRegisterFailed"
  | .branchReportFailed => "BranchReportFailed"
  | .lockableCheckFailed => "LockableCheckFailed"
  | .branchTransactionNotExist => "BranchTransactionNotExist"
  | .globalTransactionNotExist => "GlobalTransactionNotExist"
  | .globalTransactionNotActive => "GlobalTransactionNotActive"
  | .globalTransactionStatusInvalid => "GlobalTransactionStatusInvalid"
  | .failedToSendBranchCommitRequest => "FailedToSendBranchCommitRequest"
  | .failedToSendBranchRollbackRequest => "FailedToSendBranchRollbackRequest"
  | .failedToAddBranch => "FailedToAddBranch"
  | .failedLockGlobalTransaction => "FailedLockGlobalTransaction"
  | .failedWriteSession => "FailedWriteSession"
  | .failedStore => "FailedStore"
  | .notRaftLeader => "NotRaftLeader"
  | .lockKeyConflictFailFast => "LockKeyConflictFailFast"
  | .transactionTimeout => "TransactionTimeout"
  | .commitHeuristic => "CommitHeuristic"
  | .broken => "Broken"

/-- The code with that ordinal. -/
def ofOrdinal? (n : Int) : Option FailureCode :=
  if 0 ≤ n then all[n.toNat]? else none

/-- The code with that name. -/
def ofName? (s : String) : Option FailureCode :=
  all.find? fun c => c.name = s

/-- The JSON value of a code is its name. -/
def toJson (c : FailureCode) : Json :=
  .string c.name

/-- Reads a code from its name. -/
def ofJson? (j : Json) : Option FailureCode := do
  ofName? (← j.caseName?)

example : all.map ordinal = List.range 24 := by decide

end FailureCode

/-- A request that a transaction manager refused. -/
structure ManagerFailure where
  /-- The class of the failure. -/
  code : FailureCode
  /-- Details for people. -/
  detail : String
  deriving DecidableEq, Repr

namespace ManagerFailure

/-- A failure that is not classified. -/
def unclassified (detail : String) : ManagerFailure :=
  ⟨.unknown, detail⟩

/-- The code's name and the detail. -/
def message (e : ManagerFailure) : String :=
  e.code.name ++ ": " ++ e.detail

/-- Whether another transaction holds the row lock. -/
def isLockConflict (e : ManagerFailure) : Bool :=
  e.code = .lockKeyConflict || e.code = .lockKeyConflictFailFast

end ManagerFailure
end AmbientTx
