import AmbientTx.Script.Block
import AmbientTx.Script.Operation

/-! # Steps of a script

The steps of a script run one after the other, and each leaves an entry in the journal. A step that
runs code catches a panic of that code; unless the step says that the panic goes on, the script
continues after it.
-/

namespace AmbientTx.Script

open Run

variable {κ : Type}

/-- The panic that a reply of a block stands for. -/
def Reply.panic? : Reply → Option Panic
  | .block (.unwound p) _ _ => some p
  | _ => none

/-- Runs a step: its reply, and the panic that goes on after it. -/
def Step.perform (run : κ → Run κ Unit) : Step κ → Run κ (Reply × Option Panic)
  | .slot op => do return (← op.perform, none)
  | .shared op => do return (← op.perform, none)
  | .scope id op => do return (← op.perform id, none)
  | .wrap id scopeId body => do
    match ← takeScope scopeId with
    | none => return (.unusable, none)
    | some s =>
      putJob id ⟨s, body⟩
      return (.nothing, none)
  | .task id carry spec => do
    match ← carry.apply spec.task with
    | none => return (.unusable, none)
    | some t =>
      putTask id t
      return (.nothing, none)
  | .taskScope id => do
    match (← registry).tasks.get? id with
    | none => return (.unusable, none)
    | some t =>
      match t.scope? with
      | none => return (.nothing, none)
      | some s => return (.scope s.captured s.isActive, none)
  | .threadExit before after => do
    let n ← freshId
    let (_, early) ← recording (Action.onWorker (.fresh n) (run before))
    -- whoever left an entry has shown the slot in it, and so has used it
    let (_, late) ← recording (Action.onWorker (.ending n !early.isEmpty) (run after))
    return (.threadExit early late, none)
  | .panic p => return (.panicking, some p)
  | .block rethrow b => do
    match ← b.perform run with
    | none => return (.unusable, none)
    | some reply => return (reply, if rethrow then reply.panic? else none)
  | .unusable => return (.unusable, none)

/-- Runs steps in order, until one panics. -/
def runSteps (run : κ → Run κ Unit) : List (Step κ) → Run κ Unit
  | [] => return ()
  | step :: rest => do
    let (reply, rethrown) ← step.perform run
    enter reply
    match rethrown with
    | some p => Action.panic p
    | none => runSteps run rest

end AmbientTx.Script
