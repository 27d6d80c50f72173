import AmbientTx.Script.Registry
import AmbientTx.Script.Syntax

/-! # Blocks of a script

The steps that run code and report how the code ended, with the entries of the code. How a body is
run is a parameter here.
-/

namespace AmbientTx.Script

open Run

variable {κ : Type}

/-- The task of a specification, before it is carried. -/
def TaskSpec.task (spec : TaskSpec κ) : Task (Work κ Json) :=
  match spec.call with
  | none => .plain ⟨spec.pieces, spec.finish⟩
  | some (t, info) => .fresh t info (.plain ⟨spec.pieces, spec.finish⟩)

/-- Carries a task, if the scope to carry it exists. -/
def Carry.apply (carry : Carry) (task : Task (Work κ Json)) :
    Run κ (Option (Task (Work κ Json))) :=
  match carry with
  | .bare => return some task
  | .capture => do return some (← task.carry (← Scope.capture))
  | .carrying captured => do return some (← task.carry (Scope.carrying captured))
  | .scope id => do
    match ← takeScope id with
    | none => return none
    | some carrier => return some (← task.carry carrier)

/-- The end of a business. -/
def businessEnd : Finish Json → Run κ (Except TaskFailure Json)
  | .succeed v => return .ok v
  | .fail message => return .error (.text message)
  | .panic p => Action.panic p
  | .never => Action.halt .exhausted

/-- Aborts a spawned task. -/
def cancel (task : Task (Work κ Json)) : Run κ Result := do
  task.drop
  return .cancelled

/-- Runs a spawned task until it ends or is aborted. A task that waits for good and is not aborted
is waited for without end. -/
def drive (run : κ → Run κ Unit) (task : Task (Work κ Json)) (abort : Abort) : Run κ Result := do
  if abort = .unpolled then cancel task
  else
    match ← task.pollUpTo (Work.poll run) (task.stays Work.stays) with
    | (_, .returned (.ready outcome)) => return .joined outcome
    | (task, .unwound p) => (Action.panic p).ensuring task.drop
    | (task, .returned .waiting) =>
      if abort = .idle then cancel task else Action.halt .exhausted

/-- The reply of a block over the scope under an id. While the block runs the id is not known; then
the scope is put back, over one that the block may have kept there. -/
def overScope (id : String) (x : Scope → Run κ (Scope × Fate Result)) :
    Run κ (Option Reply) := do
  match ← takeScope id with
  | none => return none
  | some scope =>
    let ((scope, fate), entries) ← journaled (x scope)
    putScope id scope
    return some (.block fate entries .none)

/-- The reply of a block that has no remark to make. -/
def plainBlock (x : Run κ Result) : Run κ (Option Reply) := do
  let (fate, entries) ← recording x
  return some (.block fate entries .none)

/-- How a call of a hook over a scope ended. -/
def turnResult : Scope × Fate Unit → Scope × Fate Result
  | (scope, fate) => (scope, fate.map fun () => .done)

/-- How a run within a scope ended, given what it is worth when it returns. -/
def withinResult (result : Result) : Scope × Except ScopeError (Fate Unit) → Scope × Fate Result
  | (scope, .error e) => (scope, .returned (.refused e))
  | (scope, .ok fate) => (scope, fate.map fun () => result)

/-- What becomes of a task after a poll. It is gone when it is ready, and it is dropped when it
unwound with a transactional call in it; else it is put back. -/
def keepPolled (id : String) : Task (Work κ Json) → Fate (Progress Json) → Run κ Unit
  | _, .returned (.ready _) => return ()
  | task, .returned .waiting => putTask id task
  | task, .unwound _ => if task.hasCall then task.drop else putTask id task

/-- What a poll of a task is worth. -/
def pollResult : Progress Json → Result
  | .waiting => .waiting
  | .ready outcome => .ready outcome

/-- Runs a block and reports its end; nothing if the block is unusable. -/
def Block.perform (run : κ → Run κ Unit) : Block κ → Run κ (Option Reply)
  | .resume id => overScope id fun scope => turnResult <$> Hook.scope.resume scope
  | .suspend id => overScope id fun scope => turnResult <$> Hook.scope.suspend scope
  | .within id body => overScope id fun scope => do
    return withinResult .done (← scope.within (run body))
  | .enter id body => overScope id fun scope => do
    return withinResult (.captured scope.captured) (← scope.within (run body))
  | .guarding id body => overScope id fun scope =>
    turnResult <$> Hook.scope.guarding scope (run body)
  | .counting body => do
    let ((tally, fate), entries) ← journaled (Hook.counting.guarding {} (run body))
    return some (.block (fate.map fun () => .done) entries (.tally tally))
  | .call id => do
    match ← takeJob id with
    | none => return none
    | some job => plainBlock do
      job.call run
      return .done
  | .poll id => do
    match ← takeTask id with
    | none => return none
    | some task =>
      let ((task, fate), entries) ← journaled (task.poll (Work.poll run))
      keepPolled id task fate
      return some (.block (fate.map pollResult) entries .none)
  | .dropTask id => do
    match ← takeTask id with
    | none => return none
    | some task => plainBlock do
      task.drop
      return .done
  | .execute t info body finish => do
    let outer := (← registry).started
    update fun r => { r with started := false }
    let (fate, entries) ← recording do
      t.execute info do
        update fun r => { r with started := true }
        run body
        businessEnd finish
    let ran := (← registry).started
    update fun r => { r with started := outer }
    return some (.block (fate.map .executed) entries (.ran ran))
  | .spawn spec abort => do
    let task ← spec.task.carry (← Scope.capture)
    plainBlock (drive run task abort)
  | .spawnBlocking body => do
    let job : Job κ := ⟨← Scope.capture, body⟩
    let n ← freshId
    plainBlock do
      Action.onWorker (.fresh n) (job.call run)
      return .joinedJob
  | .onWorker name body => do
    let busy := (← registry).busy
    if name = "main" || busy.contains name then return some .busy
    else
      update fun r => { r with busy := name :: busy }
      let reply ← plainBlock do
        Action.onWorker (.named name) (run body)
        return .done
      update fun r => { r with busy }
      return reply
  | .thread body => do
    let n ← freshId
    plainBlock do
      Action.onWorker (.fresh n) (run body)
      return .done

end AmbientTx.Script
