import AmbientTx.Script.Entry
import AmbientTx.Script.Shelf

/-! # What a script keeps

While a script runs it keeps scopes, jobs and tasks under ids, and a journal of the entries of the
code that is running. Code inside a step has a journal of its own: `Run.journaled` starts a new one
for it and puts the outer one back, and `Run.recording` does so for code that may unwind.
-/

namespace AmbientTx.Script

/-- What a script keeps, where `κ` is the code of its jobs and tasks. -/
structure Registry (κ : Type) where
  scopes : Shelf Scope := {}
  jobs : Shelf (Job κ) := {}
  tasks : Shelf (Task (Work κ Json)) := {}
  /-- The entries of the code that is running, in order. -/
  journal : List Entry := []
  /-- The names of the workers that run code further out. -/
  busy : List String := []
  /-- Whether the business of the innermost call was run. -/
  started : Bool := false
  /-- How many workers were started for one piece of work. -/
  threads : Nat := 0

/-- Code of a script. -/
abbrev Run (κ α : Type) := Action (Registry κ) α

namespace Run

variable {κ α : Type}

/-- What the script keeps. -/
def registry : Run κ (Registry κ) := do
  return (← Action.get).rest

/-- Changes what the script keeps. -/
def update (f : Registry κ → Registry κ) : Run κ Unit :=
  Action.modify fun _ s => { s with rest := f s.rest }

/-- The number of a worker that was not used before. -/
def freshId : Run κ Nat := do
  let n := (← registry).threads
  update fun r => { r with threads := n + 1 }
  return n

/-! ## The journal -/

/-- Adds an entry to the journal. -/
def enter (reply : Reply) : Run κ Unit := do
  let slot ← Ambient.slot
  update fun r => { r with journal := r.journal ++ [.mk reply slot] }

/-- Runs code that does not unwind, with a journal of its own, and reports its entries. -/
def journaled (x : Run κ α) : Run κ (α × List Entry) := do
  let outer := (← registry).journal
  update fun r => { r with journal := [] }
  let a ← x
  let inner := (← registry).journal
  update fun r => { r with journal := outer }
  return (a, inner)

/-- Runs code with a journal of its own, and reports its end and its entries. -/
def recording (x : Run κ α) : Run κ (Fate α × List Entry) :=
  journaled x.attempt

/-! ## Scopes, jobs and tasks -/

/-- Takes a scope away from its id. -/
def takeScope (id : String) : Run κ (Option Scope) := do
  let scope := (← registry).scopes.get? id
  update fun r => { r with scopes := r.scopes.remove id }
  return scope

/-- Keeps a scope under an id. -/
def putScope (id : String) (scope : Scope) : Run κ Unit :=
  update fun r => { r with scopes := r.scopes.put id scope }

/-- Takes a job away from its id. -/
def takeJob (id : String) : Run κ (Option (Job κ)) := do
  let job := (← registry).jobs.get? id
  update fun r => { r with jobs := r.jobs.remove id }
  return job

/-- Keeps a job under an id. -/
def putJob (id : String) (job : Job κ) : Run κ Unit :=
  update fun r => { r with jobs := r.jobs.put id job }

/-- Takes a task away from its id. -/
def takeTask (id : String) : Run κ (Option (Task (Work κ Json))) := do
  let task := (← registry).tasks.get? id
  update fun r => { r with tasks := r.tasks.remove id }
  return task

/-- Keeps a task under an id, and drops the one that was there. -/
def putTask (id : String) (task : Task (Work κ Json)) : Run κ Unit := do
  let replaced := (← registry).tasks.get? id
  update fun r => { r with tasks := r.tasks.put id task }
  match replaced with
  | none => return ()
  | some old => old.drop

end Run
end AmbientTx.Script
