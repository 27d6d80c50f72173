import AmbientTx.Context.Config
import AmbientTx.Failure.ContextError
import AmbientTx.Failure.Manager
import AmbientTx.GlobalStatus
import AmbientTx.Role

/-! # Events of the log

What the library logs, as data: an event has a severity, a message and named fields. The fields
show plain values by their text and optional ones in the form of `Text.showOption`.
-/

namespace AmbientTx

/-- How severe an event is. -/
inductive Severity where
  | trace
  | debug
  | info
  | warning
  | error
  deriving DecidableEq, Repr

/-- The name of a severity. -/
def Severity.name : Severity → String
  | .trace => "TRACE"
  | .debug => "DEBUG"
  | .info => "INFO"
  | .warning => "WARN"
  | .error => "ERROR"

/-- An event of the log. -/
inductive Event where
  /-- A transaction is bound. -/
  | bound (xid : Xid)
  /-- The bound transaction is unbound. -/
  | unbound (xid : Xid)
  /-- A blank id stands for unbinding. -/
  | blankXid
  /-- A branch mode is bound. -/
  | modeBound (mode : BranchMode)
  /-- The bound branch mode is unbound. -/
  | modeUnbound (mode : BranchMode)
  /-- The global lock flag is set. -/
  | globalLockBound
  /-- A scope installs its transaction over the previous one. -/
  | scopeActivated (xid : Xid) (previous : Option Xid)
  /-- A scope puts back what it found. -/
  | scopeRestored (saved : Option Xid)
  /-- The guard of a scope found it inactive. -/
  | guardFoundInactive (error : ScopeError)
  /-- A configuration is installed. -/
  | configInstalled (config : ContextConfig)
  /-- A transaction manager is installed. -/
  | managerInstalled
  /-- A call joins the bound transaction. -/
  | joined (xid : Xid) (name : String)
  /-- The manager did not begin a transaction. -/
  | beginFailed (name : String) (failure : ManagerFailure)
  /-- The manager began a transaction. -/
  | began (xid : Xid) (name : String) (timeout : UInt64)
  /-- The manager did not commit. -/
  | commitFailed (xid : Xid) (failure : ManagerFailure)
  /-- The manager committed. -/
  | committed (xid : Xid) (status : GlobalStatus)
  /-- The manager answered a commit with a status that is no commit. -/
  | oddCommit (xid : Xid) (status : GlobalStatus)
  /-- The manager rolled back. -/
  | rolledBack (xid : Xid) (status : GlobalStatus)
  /-- The manager answered a rollback with a status that is no rollback. -/
  | oddRollback (xid : Xid) (status : GlobalStatus)
  /-- The business failed, and the manager did not roll back. -/
  | rollbackFailed (xid : Xid) (failure : ManagerFailure)
  /-- The business left another transaction bound than the launched one. -/
  | rebound (launched found : Xid)
  /-- A launcher ended before its transaction was completed. -/
  | abandoned (xid : Xid)
  /-- The manager did not roll back an abandoned transaction. -/
  | abandonedRollbackFailed (xid : Xid) (failure : ManagerFailure)
  deriving DecidableEq

namespace Event

/-- The severity of an event. -/
def severity : Event → Severity
  | .scopeActivated .. | .scopeRestored .. => .trace
  | .bound .. | .unbound .. | .blankXid | .modeBound .. | .modeUnbound .. | .globalLockBound
  | .configInstalled .. | .managerInstalled | .joined .. => .debug
  | .began .. | .committed .. | .rolledBack .. => .info
  | .beginFailed .. | .commitFailed .. | .oddCommit .. | .oddRollback .. | .rebound ..
  | .abandoned .. => .warning
  | .guardFoundInactive .. | .rollbackFailed .. | .abandonedRollbackFailed .. => .error

/-- The message of an event. -/
def message : Event → String
  | .bound .. => "bind global transaction"
  | .unbound .. => "unbind global transaction"
  | .blankXid => "xid is blank, switching to unbind"
  | .modeBound .. => "bind branch type"
  | .modeUnbound .. => "unbind branch type"
  | .globalLockBound => "bind global lock flag"
  | .scopeActivated .. => "activate transaction scope"
  | .scopeRestored .. => "restore transaction scope"
  | .guardFoundInactive .. => "scope guard found its scope inactive"
  | .configInstalled .. => "installing context configuration"
  | .managerInstalled => "installing transaction manager"
  | .joined .. => "joining global transaction"
  | .beginFailed .. => "begin global transaction failed"
  | .began .. => "began global transaction"
  | .commitFailed .. => "commit global transaction failed"
  | .committed .. => "committed global transaction"
  | .oddCommit .. => "unexpected status after commit"
  | .rolledBack .. => "rolled back global transaction"
  | .oddRollback .. => "unexpected status after rollback"
  | .rollbackFailed .. => "rollback failed after business failure"
  | .rebound .. => "business call rebound the global transaction"
  | .abandoned .. => "launcher exited before completion, rolling back"
  | .abandonedRollbackFailed .. => "rollback of abandoned global transaction failed"

/-- The fields of an event, in order. -/
def fields : Event → List (String × String)
  | .bound x | .unbound x | .abandoned x => [("xid", x.text)]
  | .blankXid | .globalLockBound | .managerInstalled => []
  | .modeBound m | .modeUnbound m => [("branch_type", m.name)]
  | .scopeActivated x previous =>
    [("xid", x.text), ("previous", Text.showOption Xid.shown previous)]
  | .scopeRestored saved => [("restore", Text.showOption Xid.shown saved)]
  | .guardFoundInactive e => [("error", e.message)]
  | .configInstalled c => [("config", c.shown)]
  | .joined x name => [("xid", x.text), ("name", name), ("role", Role.participant.name)]
  | .beginFailed name e => [("name", name), ("error", e.message)]
  | .began x name timeout =>
    [("xid", x.text), ("name", name), ("timeout_ms", toString timeout.toNat)]
  | .committed x s | .oddCommit x s | .rolledBack x s | .oddRollback x s =>
    [("xid", x.text), ("status", s.shown)]
  | .commitFailed x e | .rollbackFailed x e | .abandonedRollbackFailed x e =>
    [("xid", x.text), ("error", e.message)]
  | .rebound launched found => [("launched", launched.text), ("found", found.text)]

end Event

/-- A span around the polls of one propagated task. The number tells spans of one transaction
apart. -/
structure Span where
  id : Nat
  xid : Xid
  deriving DecidableEq

/-- What happens to a span. -/
inductive SpanPhase where
  | created
  | entered
  | exited
  deriving DecidableEq, Repr

end AmbientTx
