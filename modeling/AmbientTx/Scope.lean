import AmbientTx.Context.Ambient

/-! # Propagation scopes

A scope carries one captured transaction to the worker that runs a unit of work next, and puts
that worker's binding back when the work stops running there. Activating saves what is bound and
installs the captured transaction, if there is one. Deactivating puts the saved value back, which
covers every case: a binding that was replaced, a slot that was empty, and whatever the work in
between did.
-/

namespace AmbientTx

/-- A captured transaction, and what the pending activation found. -/
structure Scope where
  /-- What activation installs; `none` installs nothing. -/
  captured : Option Xid
  /-- `none` while inactive; the saved binding while active. -/
  saved : Option (Option Xid) := none
  deriving DecidableEq

namespace Scope

variable {ρ α : Type}

/-- A scope that carries this. -/
def carrying (captured : Option Xid) : Scope :=
  { captured }

/-- A scope that carries nothing. -/
def empty : Scope :=
  carrying none

/-- A scope that carries what is bound now. -/
def capture : Action ρ Scope := do
  return carrying (← Ambient.current)

/-- An inactive scope that carries the same. -/
def copy (s : Scope) : Scope :=
  carrying s.captured

/-- Whether an activation is pending. -/
def isActive (s : Scope) : Bool :=
  s.saved.isSome

/-- Installs what a scope captured. -/
def installCaptured (s : Scope) (previous : Option Xid) : Action ρ Unit :=
  match s.captured with
  | none => return ()
  | some x => do
    Action.log (.scopeActivated x previous)
    let _ ← Ambient.bind x

/-- Saves what is bound and installs what the scope captured. An active scope is refused. -/
def activate (s : Scope) : Action ρ (Except ScopeError Scope) :=
  match s.saved with
  | some _ => return .error .alreadyActive
  | none => do
    let previous ← Ambient.current
    s.installCaptured previous
    return .ok { s with saved := some previous }

/-- Puts back what activation saved, unless it is bound anyway. An inactive scope is refused. -/
def deactivate (s : Scope) : Action ρ (Except ScopeError Scope) :=
  match s.saved with
  | none => return .error .notActive
  | some saved => do
    if ← Ambient.isCurrent saved then return .ok { s with saved := none }
    else
      Action.log (.scopeRestored saved)
      Ambient.restore saved
      return .ok { s with saved := none }

/-- What the guard of an active scope does when its block ends. -/
def release (s : Scope) : Action ρ Scope := do
  match ← s.deactivate with
  | .ok s => return s
  | .error e =>
    Action.log (.guardFoundInactive e)
    return s

/-- Runs a body with the scope active, and deactivates it when the body returns or unwinds. The
body is not run if the scope is active already. -/
def within (s : Scope) (body : Action ρ α) : Action ρ (Scope × Except ScopeError (Fate α)) := do
  match ← s.activate with
  | .error e => return (s, .error e)
  | .ok active =>
    let fate ← body.attempt
    let released ← active.release
    return (released, .ok fate)

end Scope
end AmbientTx
