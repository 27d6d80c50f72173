import AmbientTx.Json.Basic
import AmbientTx.Task

/-! # Scripts

A script is a program over the operations of this library. It keeps scopes, jobs and tasks under
ids, runs code on the main worker, on workers with names and on fresh ones, and describes the
answers of its transaction managers. A `Step κ` holds the code of its bodies as a `κ`, and `Code`
ties the knot.
-/

namespace AmbientTx.Script

/-- An operation on the slot of the worker that runs the step. -/
inductive SlotOp where
  | bind (text : String)
  | bindText (text : String)
  | unbind
  | current
  | isCurrent (expected : Option Xid)
  | restore (xid : Option Xid)
  | inTransaction
  | assertOutside
  | bindMode (mode : BranchMode)
  | unbindMode
  | mode
  | bindGlobalLock
  | unbindGlobalLock
  | requiresGlobalLock
  | setTimeout (timeout : Option UInt64)
  | timeout
  | slot
  | clear

/-- Where a configuration to install comes from. -/
inductive ConfigSource where
  | quiet
  | json (value : Json)
  | toml (source : String)

/-- An operation on what all workers share. -/
inductive SharedOp where
  | install (source : ConfigSource)
  | config
  | installManager (manager : ManagerName)
  | uninstallManager
  | manager
  | hasManager
  | role

/-- How a scope is made. -/
inductive ScopeSource where
  /-- It captures what is bound. -/
  | capture
  /-- It carries this. -/
  | carrying (captured : Option Xid)
  /-- It is a copy of another scope. -/
  | copy (id : String)

/-- An operation on a scope that runs no code. -/
inductive ScopeOp where
  | make (source : ScopeSource)
  | info
  | drop
  | activate
  | deactivate

/-- The work of a task, and the transactional call around it. -/
structure TaskSpec (κ : Type) where
  pieces : List κ
  finish : Finish Json
  call : Option (Template × CallInfo)

/-- How a task is carried. -/
inductive Carry where
  /-- Not at all. -/
  | bare
  /-- By a scope that captures what is bound. -/
  | capture
  /-- By a scope with an id, which is moved. -/
  | scope (id : String)
  /-- By a scope that carries this. -/
  | carrying (captured : Option Xid)

/-- When a spawned task is aborted. -/
inductive Abort where
  | never
  /-- Before its first poll. -/
  | unpolled
  /-- When it waits for good. -/
  | idle
  deriving DecidableEq

/-- A step that runs code and reports how the code ended. -/
inductive Block (κ : Type) where
  | resume (scope : String)
  | suspend (scope : String)
  | within (scope : String) (body : κ)
  | enter (scope : String) (body : κ)
  | guarding (scope : String) (body : κ)
  | counting (body : κ)
  | call (job : String)
  | poll (task : String)
  | dropTask (task : String)
  | execute (template : Template) (info : CallInfo) (body : κ) (finish : Finish Json)
  | spawn (spec : TaskSpec κ) (abort : Abort)
  | spawnBlocking (body : κ)
  | onWorker (name : String) (body : κ)
  | thread (body : κ)

/-- One step of a script. -/
inductive Step (κ : Type) where
  | slot (op : SlotOp)
  | shared (op : SharedOp)
  | scope (id : String) (op : ScopeOp)
  /-- Moves a scope and a body into a job. -/
  | wrap (id scope : String) (body : κ)
  /-- Makes a task. -/
  | task (id : String) (carry : Carry) (spec : TaskSpec κ)
  /-- Asks for the scope that carries a task. -/
  | taskScope (id : String)
  /-- Runs code on a fresh worker, and more code on it while it ends. -/
  | threadExit (before after : κ)
  | panic (panic : Panic)
  /-- Runs code; a panic of the code goes on after the step if `rethrow` says so. -/
  | block (rethrow : Bool) (block : Block κ)
  /-- A step that makes no sense. -/
  | unusable

/-- Steps in order, whose bodies are code again. -/
inductive Code where
  | ofSteps (steps : List (Step Code))

end AmbientTx.Script
