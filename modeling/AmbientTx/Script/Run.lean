import AmbientTx.Script.Step

/-! # Running scripts

A script is run on the main worker, from a world where nothing happened yet. What it leaves behind
is dropped in the end: the jobs, and then the tasks in the order of their ids.

Code is run only once: a job is called once, and a poll takes one piece of its task. So the nesting
of a run is bounded by the size of the script, and `Script.run` never runs out of it.
-/

namespace AmbientTx

namespace Script

open Run

/-- Runs code, nested up to `depth` deep. -/
def Code.run : Nat → Code → Run Code Unit
  | 0, _ => Action.halt .exhausted
  | depth + 1, .ofSteps steps => runSteps (Code.run depth) steps

mutual

/-- How many blocks of code there are in this one, itself included. -/
def Code.size : Code → Nat
  | .ofSteps steps => sizeOfSteps steps + 1

/-- How many blocks of code there are in some steps. -/
def sizeOfSteps : List (Step Code) → Nat
  | [] => 0
  | step :: rest => sizeOfStep step + sizeOfSteps rest

/-- How many blocks of code there are in a step. -/
def sizeOfStep : Step Code → Nat
  | .wrap _ _ body => body.size
  | .task _ _ spec => sizeOfSpec spec
  | .threadExit before after => before.size + after.size
  | .block _ block => sizeOfBlock block
  | _ => 0

/-- How many blocks of code there are in a step that runs code. -/
def sizeOfBlock : Block Code → Nat
  | .within _ body | .enter _ body | .guarding _ body | .counting body => body.size
  | .execute _ _ body _ | .spawnBlocking body | .onWorker _ body | .thread body => body.size
  | .spawn spec _ => sizeOfSpec spec
  | _ => 0

/-- How many blocks of code there are in the work of a task. -/
def sizeOfSpec : TaskSpec Code → Nat
  | ⟨pieces, _, _⟩ => sizeOfPieces pieces

/-- How many blocks of code there are in pieces of work. -/
def sizeOfPieces : List Code → Nat
  | [] => 0
  | piece :: rest => piece.size + sizeOfPieces rest

end

/-- Drops tasks in order. A panic of one leaves the others to be dropped. -/
def dropAll {κ : Type} : List (Task (Work κ Json)) → Run κ Unit
  | [] => return ()
  | task :: rest => do
    let _ ← task.drop.attempt
    dropAll rest

/-- Runs code, and drops what is left in the end. -/
def Code.runAndDrop (code : Code) : Run Code (Fate Unit × List Entry) := do
  let ended ← recording (Code.run (code.size + 1) code)
  let tasks := (← registry).tasks.values
  update fun r => { r with jobs := {}, tasks := {} }
  dropAll tasks
  return ended

/-- What a run of a script leaves behind. -/
structure Transcript where
  /-- How the code of the script ended. -/
  fate : Fate Unit
  entries : List Entry
  history : List Record

end Script

/-- The managers of a script and the code that it starts with. -/
structure Script where
  managers : ManagerName → Manager := fun _ => .willing
  code : Script.Code

/-- Runs a script on the main worker, from a world where nothing happened yet. -/
def Script.run (script : Script) : Except Halt Script.Transcript :=
  match script.code.runAndDrop .main { managers := script.managers, rest := {} } with
  | .error h => .error h
  | .ok ⟨.returned (fate, entries), s⟩ => .ok ⟨fate, entries, s.history⟩
  | .ok ⟨.unwound p, s⟩ => .ok ⟨.unwound p, [], s.history⟩

end AmbientTx
