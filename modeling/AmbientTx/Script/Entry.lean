import AmbientTx.Json.Basic
import AmbientTx.Task

/-! # What a script reports

Every step that was executed leaves an entry: its reply, and the slot of the worker after it. The
reply of a step that runs code holds the entries of that code.
-/

namespace AmbientTx.Script

/-- An error that a step reports. -/
inductive Refusal where
  | model (error : ModelError)
  | scope (error : ScopeError)
  | context (error : ContextError)
  | setup (error : SetupError)
  /-- A JSON value that is no configuration. -/
  | badJson
  /-- A document that is no configuration. -/
  | badToml

/-- What code that returned came to. -/
inductive Result where
  | done
  | refused (error : ScopeError)
  /-- A guard was held over a scope that captured this. -/
  | captured (xid : Option Xid)
  | waiting
  | ready (outcome : Except TaskFailure Json)
  | joined (outcome : Except TaskFailure Json)
  | joinedJob
  | cancelled
  | executed (outcome : Except (CallError TaskFailure) Json)

/-- What a block reports apart from the end of its code. -/
inductive Remark where
  | none
  /-- Whether the business of a call was run. -/
  | ran (ran : Bool)
  /-- The calls of a counting hook. -/
  | tally (tally : Hook.Tally)

mutual

/-- What a step reports. -/
inductive Reply where
  | nothing
  | done
  | flag (value : Bool)
  | xid (xid : Option Xid)
  | mode (mode : Option BranchMode)
  /-- The branch mode in force, and whether it is one of the two that compensate. -/
  | modeInForce (mode : Option BranchMode) (tryConfirmCancel saga : Bool)
  | timeout (timeout : Option UInt64)
  | slot (slot : Slot)
  | config (config : ContextConfig)
  | previousConfig (config : ContextConfig)
  | manager (manager : Option ManagerName)
  | role (role : Role)
  | scope (captured : Option Xid) (active : Bool)
  | refused (refusal : Refusal)
  /-- A transaction was bound where none may be. -/
  | inside (error : ContextError)
  /-- The step makes no sense, or names an id that is not known. -/
  | unusable
  /-- The worker runs code further out. -/
  | busy
  /-- The step panics. -/
  | panicking
  | block (fate : Fate Result) (entries : List Entry) (remark : Remark)
  | threadExit (before after : List Entry)

/-- A reply, and the slot of the worker after the step. -/
inductive Entry where
  | mk (reply : Reply) (slot : Slot)

end

end AmbientTx.Script
