import AmbientTx.Failure.CallError
import AmbientTx.Manager.Client
import AmbientTx.Manager.Options

/-! # Transactional templates

A template runs a business call inside a global transaction. On a worker with a transaction bound
the call joins it and leaves it alone. Otherwise it launches one: the manager begins it, the call
binds it while the business runs, and the manager commits it if the business succeeds and rolls it
back if the business fails or unwinds. However the call ends, it unbinds what it bound.
-/

namespace AmbientTx

/-- The attributes of one transactional call. -/
structure CallInfo where
  /-- The name of the transaction, for the manager. -/
  name : String := "default"
  /-- The timeout of this call, in milliseconds. -/
  timeout : Option UInt64 := none
  deriving DecidableEq, Repr

/-- What transactional calls have in common. -/
structure Template where
  options : ClientOptions := {}
  /-- The manager of this template; without one the installed manager is used. -/
  manager : Option ManagerName := none
  deriving DecidableEq, Repr

/-- A transaction that a call launched, and the manager that began it. -/
structure Launch where
  manager : ManagerName
  xid : Xid
  deriving DecidableEq

namespace Launch

variable {ρ ε α : Type}

/-- Logs the status after a rollback. -/
def logRollback (x : Xid) (status : GlobalStatus) : Action ρ Unit :=
  Action.log (if status.isRolledBack then .rolledBack x status else .oddRollback x status)

/-- Logs the status after a commit. -/
def logCommit (x : Xid) (status : GlobalStatus) : Action ρ Unit :=
  Action.log (if status.isCommitted then .committed x status else .oddCommit x status)

/-- Completes a transaction after its business returned: commits after success, with any status,
and rolls back after failure. -/
def complete (l : Launch) : Except ε α → Action ρ (Except (CallError ε) α)
  | .ok a => do
    match ← Manager.commit l.manager l.xid with
    | .error e =>
      Action.log (.commitFailed l.xid e)
      return .error (.commitFailed e)
    | .ok status =>
      logCommit l.xid status
      return .ok a
  | .error b => do
    match ← Manager.rollback l.manager l.xid with
    | .error e =>
      Action.log (.rollbackFailed l.xid e)
      return .error (.rollbackFailed e b)
    | .ok status =>
      logRollback l.xid status
      return .error (.business b)

/-- Rolls back a transaction whose launcher ended before it was completed. -/
def abandon (l : Launch) : Action ρ Unit := do
  Action.log (.abandoned l.xid)
  match ← Manager.rollback l.manager l.xid with
  | .error e => Action.log (.abandonedRollbackFailed l.xid e)
  | .ok status => logRollback l.xid status

/-- Unbinds after the business, and warns if another transaction was bound than the launched one. -/
def release (l : Launch) : Action ρ Unit := do
  match ← Ambient.unbind with
  | none => return ()
  | some found => if found = l.xid then return () else Action.log (.rebound l.xid found)

end Launch

/-- The part that a call takes in a transaction. -/
inductive Part where
  /-- It joined the transaction that was bound. -/
  | joined (xid : Xid)
  /-- It launched the transaction, and has to complete it. -/
  | launched (launch : Launch)
  deriving DecidableEq

namespace Part

variable {ρ ε α : Type}

/-- The transaction of a call. -/
def xid : Part → Xid
  | .joined x => x
  | .launched l => l.xid

/-- Binds what a call launched; what it joined is bound already. -/
def bind : Part → Action ρ Unit
  | .joined _ => return ()
  | .launched l => do let _ ← Ambient.bind l.xid

/-- Unbinds what `bind` bound. -/
def release : Part → Action ρ Unit
  | .joined _ => return ()
  | .launched l => l.release

/-- The outcome of a call whose business returned. A transaction of somebody else is left alone,
and the error of the business is marked as such. -/
def complete : Part → Except ε α → Action ρ (Except (CallError ε) α)
  | .joined _, outcome => return outcome.mapError .business
  | .launched l, outcome => l.complete outcome

/-- Gives up a transaction whose business did not return. -/
def abandon : Part → Action ρ Unit
  | .joined _ => return ()
  | .launched l => l.abandon

/-- Ends a call on the worker that its business ran on. -/
def leave (part : Part) : Fate (Except ε α) → Action ρ (Except (CallError ε) α)
  | .returned outcome => (part.complete outcome).ensuring part.release
  | .unwound p => (Action.panic p).ensuring do
    part.release
    part.abandon

end Part

namespace Template

variable {ρ ε α : Type}

/-- The manager to launch with. -/
def managerInUse (t : Template) : Action ρ (Option ManagerName) :=
  match t.manager with
  | some m => return some m
  | none => Manager.installed

/-- The timeout to launch with: that of the call, else that of the worker or the configuration,
else that of the options. -/
def timeoutInUse (t : Template) (info : CallInfo) : Action ρ UInt64 :=
  match info.timeout with
  | some n => return n
  | none => do return (← Ambient.timeout).getD t.options.defaultTimeout

/-- Begins a transaction. -/
def launch (t : Template) (info : CallInfo) : Action ρ (Except (CallError ε) Launch) := do
  match ← t.managerInUse with
  | none => return .error (.setup .noManager)
  | some m =>
    let timeout ← t.timeoutInUse info
    match ← Manager.launch m ⟨t.options.application, t.options.group, info.name, timeout⟩ with
    | .error e =>
      Action.log (.beginFailed info.name e)
      return .error (.beginFailed e)
    | .ok x =>
      Action.log (.began x info.name timeout)
      return .ok ⟨m, x⟩

/-- Joins the bound transaction, or launches one if none is bound. -/
def start (t : Template) (info : CallInfo) : Action ρ (Except (CallError ε) Part) := do
  match ← Ambient.current with
  | some x =>
    Action.log (.joined x info.name)
    return .ok (.joined x)
  | none => return (← t.launch info).map .launched

/-- Takes part in a transaction, and binds it on this worker until `Part.leave`. -/
def enter (t : Template) (info : CallInfo) : Action ρ (Except (CallError ε) Part) := do
  match ← t.start info with
  | .error e => return .error e
  | .ok part =>
    part.bind
    return .ok part

/-- Runs a business inside a global transaction. -/
def execute (t : Template) (info : CallInfo) (business : Action ρ (Except ε α)) :
    Action ρ (Except (CallError ε) α) := do
  match ← t.enter info with
  | .error e => return .error e
  | .ok part => part.leave (← business.attempt)

/-- A template, shown. -/
def shown (t : Template) : String :=
  Text.showRecord "TransactionalTemplate"
    [("options", t.options.shown),
     ("manager", Text.showOption (fun _ => Text.quote "<dyn TransactionManager>") t.manager)]

end Template
end AmbientTx
