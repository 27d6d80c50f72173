import AmbientTx.Script.Registry
import AmbientTx.Script.Syntax

/-! # Operations of a script

The steps that run no code: operations on the slot of the worker, on what all workers share, and on
the scope under an id.
-/

namespace AmbientTx.Script

open Run

variable {ρ κ : Type}

/-- Runs an operation on the slot. -/
def SlotOp.perform : SlotOp → Action ρ Reply
  | .bind text =>
    match Xid.ofString text with
    | .ok x => do return .xid (← Ambient.bind x)
    | .error e => return .refused (.model e)
  | .bindText text => do return .xid (← Ambient.bindText text)
  | .unbind => do return .xid (← Ambient.unbind)
  | .current => do return .xid (← Ambient.current)
  | .isCurrent expected => do return .flag (← Ambient.isCurrent expected)
  | .restore x => do
    Ambient.restore x
    return .nothing
  | .inTransaction => do return .flag (← Ambient.inTransaction)
  | .assertOutside => do
    match ← Ambient.assertOutside with
    | .ok () => return .done
    | .error e => return .inside e
  | .bindMode m => do return .mode (← Ambient.bindMode m)
  | .unbindMode => do return .mode (← Ambient.unbindMode)
  | .mode => do
    return .modeInForce (← Ambient.mode) (← Ambient.runsIn .tryConfirmCancel)
      (← Ambient.runsIn .saga)
  | .bindGlobalLock => do
    Ambient.bindGlobalLock
    return .nothing
  | .unbindGlobalLock => do
    Ambient.unbindGlobalLock
    return .nothing
  | .requiresGlobalLock => do return .flag (← Ambient.requiresGlobalLock)
  | .setTimeout t => do
    Ambient.setTimeout t
    return .nothing
  | .timeout => do return .timeout (← Ambient.timeout)
  | .slot => do return .slot (← Ambient.slot)
  | .clear => do
    Ambient.clear
    return .nothing

/-- The configuration to install; it need not be valid. -/
def ConfigSource.read : ConfigSource → Except Refusal ContextConfig
  | .quiet => .ok .quiet
  | .json j =>
    match ContextConfig.ofJson? j with
    | some c => .ok c
    | none => .error .badJson
  | .toml source =>
    match ContextConfig.ofToml source with
    | .ok c => .ok c
    | .error .malformed => .error .badToml
    | .error (.rejected e) => .error (.context e)

/-- Runs an operation on what all workers share. -/
def SharedOp.perform : SharedOp → Action ρ Reply
  | .install source =>
    match source.read with
    | .error e => return .refused e
    | .ok c => do
      match ← Ambient.install c with
      | .ok previous => return .previousConfig previous
      | .error e => return .refused (.context e)
  | .config => do return .config (← Ambient.config)
  | .installManager m => do return .manager (← Manager.install m)
  | .uninstallManager => do return .manager (← Manager.uninstall)
  | .manager => do
    match ← Manager.installed with
    | some m => return .manager (some m)
    | none => return .refused (.setup .noManager)
  | .hasManager => do return .flag (← Manager.installed).isSome
  | .role => do return .role (← Ambient.role)

/-- Makes a scope. -/
def ScopeSource.make : ScopeSource → Run κ (Option Scope)
  | .capture => do return some (← Scope.capture)
  | .carrying captured => return some (Scope.carrying captured)
  | .copy id => do return ((← registry).scopes.get? id).map Scope.copy

/-- Activates or deactivates a scope under an id. -/
def turnScope (id : String) (turn : Scope → Run κ (Except ScopeError Scope)) : Run κ Reply := do
  match (← registry).scopes.get? id with
  | none => return .unusable
  | some scope =>
    match ← turn scope with
    | .ok scope =>
      putScope id scope
      return .done
    | .error e => return .refused (.scope e)

/-- Runs an operation on the scope under an id. -/
def ScopeOp.perform (id : String) : ScopeOp → Run κ Reply
  | .make source => do
    match ← source.make with
    | none => return .unusable
    | some scope =>
      putScope id scope
      return .xid scope.captured
  | .info => do
    match (← registry).scopes.get? id with
    | none => return .unusable
    | some scope => return .scope scope.captured scope.isActive
  | .drop => do
    match ← takeScope id with
    | none => return .unusable
    | some _ => return .nothing
  | .activate => turnScope id Scope.activate
  | .deactivate => turnScope id Scope.deactivate

end AmbientTx.Script
