import AmbientTx.Context.Ambient

/-! # Talking to a transaction manager

Calls are recorded, with what is bound on the calling worker, before their answers take effect.
One manager may be installed for all templates that have none of their own.
-/

namespace AmbientTx

namespace Manager

variable {ρ α : Type}

/-- Records a call of this worker. -/
def recordCall (m : ManagerName) (e : Exchange) : Action ρ Unit :=
  Action.modify fun w s => s.record w (.call ⟨m, (s.slot w).xid, e⟩)

/-- What an answer comes to: a result, or a panic. -/
def settle : Answer α → Action ρ (Except ManagerFailure α)
  | .granted a => return .ok a
  | .refused e => return .error e
  | .panicked p => Action.panic p

/-- Asks a manager to begin a transaction. -/
def launch (m : ManagerName) (request : BeginRequest) : Action ρ (Except ManagerFailure Xid) := do
  let v := (← Action.get).managers m
  Action.modify fun _ s => s.setManager m { v with begins := v.begins.advance }
  recordCall m (.launch request v.begins.next)
  settle v.begins.next

/-- Asks a manager to commit a transaction. -/
def commit (m : ManagerName) (x : Xid) : Action ρ (Except ManagerFailure GlobalStatus) := do
  let v := (← Action.get).managers m
  Action.modify fun _ s => s.setManager m { v with commits := v.commits.advance }
  recordCall m (.commit x v.commits.next)
  settle v.commits.next

/-- Asks a manager to roll a transaction back. -/
def rollback (m : ManagerName) (x : Xid) : Action ρ (Except ManagerFailure GlobalStatus) := do
  let v := (← Action.get).managers m
  Action.modify fun _ s => s.setManager m { v with rollbacks := v.rollbacks.advance }
  recordCall m (.rollback x v.rollbacks.next)
  settle v.rollbacks.next

/-- The installed manager. -/
def installed : Action ρ (Option ManagerName) := do
  return (← Action.get).installed

/-- Installs a manager and returns the previous one. -/
def install (m : ManagerName) : Action ρ (Option ManagerName) := do
  Action.log .managerInstalled
  let previous ← installed
  Action.modify fun _ s => { s with installed := some m }
  return previous

/-- Removes the installed manager and returns it. -/
def uninstall : Action ρ (Option ManagerName) := do
  let previous ← installed
  Action.modify fun _ s => { s with installed := none }
  return previous

end Manager
end AmbientTx
