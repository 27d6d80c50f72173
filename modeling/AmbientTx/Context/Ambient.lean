import AmbientTx.World.Action

/-! # The ambient context

The operations on the slot of the worker that runs them. Bindings do not stack: binding replaces
what was bound, and unbinding leaves nothing bound. Binding is logged before the slot is written,
and unbinding only when something was bound.
-/

namespace AmbientTx.Ambient

variable {ρ α : Type}

/-- The slot of this worker. -/
def slot : Action ρ Slot :=
  fun w s => .ok ⟨.returned (s.slot w), s⟩

/-- Changes the slot of this worker. -/
def write (f : Slot → Slot) : Action ρ Unit :=
  Action.modify fun w s => s.mapSlot w f

/-- The installed configuration. -/
def config : Action ρ ContextConfig := do
  return (← Action.get).config

/-! ## The transaction -/

/-- The bound transaction. -/
def current : Action ρ (Option Xid) := do
  return (← slot).xid

/-- Binds a transaction and returns the one it replaces. -/
def bind (x : Xid) : Action ρ (Option Xid) := do
  Action.log (.bound x)
  let replaced ← current
  write fun s => { s with xid := some x }
  return replaced

/-- Unbinds the transaction and returns it. -/
def unbind : Action ρ (Option Xid) := do
  let removed ← current
  write fun s => { s with xid := none }
  match removed with
  | none => return none
  | some x =>
    Action.log (.unbound x)
    return some x

/-- Binds the transaction with that id, or unbinds if the text is blank. -/
def bindText (text : String) : Action ρ (Option Xid) :=
  match Xid.ofString? text with
  | some x => bind x
  | none => do
    Action.log .blankXid
    unbind

/-- Whether exactly this is bound. -/
def isCurrent (expected : Option Xid) : Action ρ Bool := do
  return decide ((← current) = expected)

/-- Binds exactly this. -/
def restore : Option Xid → Action ρ Unit
  | some x => do let _ ← bind x
  | none => do let _ ← unbind

/-- Whether a transaction is bound. -/
def inTransaction : Action ρ Bool := do
  return (← current).isSome

/-- An error if a transaction is bound. -/
def assertOutside : Action ρ (Except ContextError Unit) := do
  match ← current with
  | some x => return .error (.unexpectedTransaction x)
  | none => return .ok ()

/-! ## The branch mode -/

/-- Binds a branch mode and returns the one it replaces. -/
def bindMode (m : BranchMode) : Action ρ (Option BranchMode) := do
  Action.log (.modeBound m)
  let replaced := (← slot).mode
  write fun s => { s with mode := some m }
  return replaced

/-- Unbinds the branch mode and returns it. -/
def unbindMode : Action ρ (Option BranchMode) := do
  let removed := (← slot).mode
  write fun s => { s with mode := none }
  match removed with
  | none => return none
  | some m =>
    Action.log (.modeUnbound m)
    return some m

/-- The branch mode in force: none outside a transaction, and inside one the bound mode, else the
configured default, else `automatic`. -/
def mode : Action ρ (Option BranchMode) := do
  let s ← slot
  if s.xid.isNone then return none
  else
    let fallback := (← config).defaultMode
    return some (s.mode.getD (fallback.getD .automatic))

/-- Whether that branch mode is in force. -/
def runsIn (m : BranchMode) : Action ρ Bool := do
  return decide ((← mode) = some m)

/-! ## The global lock flag and the timeout -/

/-- Sets the global lock flag. -/
def bindGlobalLock : Action ρ Unit := do
  Action.log .globalLockBound
  write fun s => { s with globalLock := true }

/-- Clears the global lock flag. -/
def unbindGlobalLock : Action ρ Unit :=
  write fun s => { s with globalLock := false }

/-- Whether the global lock flag is set. -/
def requiresGlobalLock : Action ρ Bool := do
  return (← slot).globalLock

/-- Sets or clears the timeout of this worker. -/
def setTimeout (timeout : Option UInt64) : Action ρ Unit :=
  write fun s => { s with timeout }

/-- The timeout of this worker, else the configured default. -/
def timeout : Action ρ (Option UInt64) := do
  let s ← slot
  match s.timeout with
  | some t => return some t
  | none => return (← config).defaultTimeout

/-! ## The whole slot and the configuration -/

/-- Unbinds everything. Nothing is logged. -/
def clear : Action ρ Unit :=
  write fun _ => {}

/-- Installs a valid configuration and returns the previous one. -/
def install (c : ContextConfig) : Action ρ (Except ContextError ContextConfig) := do
  match c.validate with
  | .error e => return .error e
  | .ok () =>
    Action.log (.configInstalled c)
    let previous ← config
    Action.modify fun _ s => { s with config := c }
    return .ok previous

/-- The role that a call on this worker would have. -/
def role : Action ρ Role := do
  return if (← current).isSome then .participant else .launcher

end AmbientTx.Ambient
