import AmbientTx.Script.Operation
import AmbientTx.Stay

/-! # Systems

What can happen when clients use the library on any number of workers. A system is a world, the
stays that the workers are in the middle of, and the tasks that are not being polled. Nothing is
known about the clients: at any moment any worker may perform an operation, begin a stay, end its
innermost one in any way, or make, poll and drop tasks, and the answers of the managers may change.
The code of a stay is what its worker does until the stay ends; a panic in it is an end by
unwinding. Runs that halt are left out, for nothing happens after a halt.

A stay begins and ends as the library has it: `Template.execute` enters, runs the business and
leaves, `Hook.guarding` resumes, runs the body and finishes, `Scope.within` activates, runs the body
and releases, and a poll is as `Task.poll_eq` says.
-/

namespace AmbientTx

/-- What code does without beginning or ending a stay. -/
inductive Operation where
  | slot (op : Script.SlotOp)
  | shared (op : Script.SharedOp)
  | activate (scope : Scope)
  | deactivate (scope : Scope)
  | resume (scope : Scope)
  | suspend (scope : Scope)

/-- Performs an operation; what it replies is up to the client. -/
def Operation.perform : Operation → Action ρ Unit
  | .slot op => do let _ ← op.perform
  | .shared op => do let _ ← op.perform
  | .activate scope => do let _ ← scope.activate
  | .deactivate scope => do let _ ← scope.deactivate
  | .resume scope => do let _ ← Hook.scope.resume scope
  | .suspend scope => do let _ ← Hook.scope.suspend scope

/-- What a step is for its worker. -/
inductive Mark where
  /-- A stay begins. -/
  | begins (stay : Stay)
  /-- The innermost stay ends. -/
  | ends (stay : Stay)
  /-- A poll, a call or a drop that runs no code of the client. -/
  | passes
  /-- An operation is performed. -/
  | operates
  /-- Something is made for later. -/
  | prepares

/-- The state of a run. -/
structure System (ρ κ : Type) where
  world : World ρ
  /-- The stays, of each worker the innermost first. -/
  stays : List (Worker × Stay) := []
  /-- The tasks that are not being polled. -/
  tasks : List (Task κ) := []

namespace System

variable {ρ κ : Type}

/-- The stays of a worker, the innermost first. -/
def stack (c : System ρ κ) (w : Worker) : List Stay :=
  c.stays.filterMap fun e => if e.1 = w then some e.2 else none

/-- `stay` is the innermost stay of `w`, between the stays `inner` and `outer`. -/
structure Innermost (c : System ρ κ) (w : Worker) (stay : Stay)
    (inner outer : List (Worker × Stay)) : Prop where
  split : c.stays = inner ++ (w, stay) :: outer
  others : ∀ e ∈ inner, e.1 ≠ w

/-- One step of a worker. -/
inductive Step (w : Worker) : Mark → System ρ κ → System ρ κ → Prop where
  /-- An operation, which may panic. -/
  | operate {c : System ρ κ} {r : Ran ρ Unit} (op : Operation)
      (ran : op.perform w c.world = .ok r) :
      Step w .operates c { c with world := r.world }
  /-- A manager changes its mind about its next answers. -/
  | answers {c : System ρ κ} (m : ManagerName) (v : Manager) :
      Step w .prepares c { c with world := c.world.setManager m v }
  /-- A guard activates its scope. -/
  | enter {c : System ρ κ} {scope active : Scope} {s : World ρ}
      (ran : scope.activate w c.world = .ok ⟨.returned (.ok active), s⟩) :
      Step w (.begins (.guarded active)) c
        { c with world := s, stays := (w, .guarded active) :: c.stays }
  /-- A guard resumes its scope as a hook. -/
  | resume {c : System ρ κ} {scope active : Scope} {s : World ρ}
      (ran : Hook.scope.resume scope w c.world = .ok ⟨.returned (active, .returned ()), s⟩) :
      Step w (.begins (.guarded active)) c
        { c with world := s, stays := (w, .guarded active) :: c.stays }
  /-- The guard of an active scope releases it. -/
  | release {c : System ρ κ} {scope : Scope} {inner outer : List (Worker × Stay)}
      {r : Ran ρ Scope} (top : c.Innermost w (.guarded scope) inner outer)
      (ran : scope.release w c.world = .ok r) :
      Step w (.ends (.guarded scope)) c { c with world := r.world, stays := inner ++ outer }
  /-- The guard of a hook suspends it. -/
  | suspend {c : System ρ κ} {scope : Scope} {inner outer : List (Worker × Stay)}
      {r : Ran ρ (Scope × Fate Unit)} (top : c.Innermost w (.guarded scope) inner outer)
      (ran : Hook.scope.suspend scope w c.world = .ok r) :
      Step w (.ends (.guarded scope)) c { c with world := r.world, stays := inner ++ outer }
  /-- A call takes part in a transaction, and goes on to its business. -/
  | call {c : System ρ κ} {ε : Type} {part : Part} {s : World ρ} (t : Template) (info : CallInfo)
      (ran : (t.enter info : Action ρ (Except (CallError ε) Part)) w c.world =
        .ok ⟨.returned (.ok part), s⟩) :
      Step w (.begins (.call part)) c { c with world := s, stays := (w, .call part) :: c.stays }
  /-- A call takes part in no transaction: it is refused, or the manager panics. -/
  | refuse {c : System ρ κ} {ε : Type} {r : Ran ρ (Except (CallError ε) Part)} (t : Template)
      (info : CallInfo) (ran : t.enter info w c.world = .ok r)
      (refused : ∀ part, r.fate ≠ .returned (.ok part)) :
      Step w .passes c { c with world := r.world }
  /-- The business of a call ends in this way, and so does the call. -/
  | leave {c : System ρ κ} {ε α : Type} {part : Part} {inner outer : List (Worker × Stay)}
      {r : Ran ρ (Except (CallError ε) α)} (top : c.Innermost w (.call part) inner outer)
      (fate : Fate (Except ε α)) (ran : part.leave fate w c.world = .ok r) :
      Step w (.ends (.call part)) c { c with world := r.world, stays := inner ++ outer }
  /-- A future of the client is made. -/
  | future {c : System ρ κ} (future : κ) :
      Step w .prepares c { c with tasks := .plain future :: c.tasks }
  /-- A task is carried by a scope. -/
  | carry {c : System ρ κ} {t t' : Task κ} {tasks : List (Task κ)} {s : World ρ}
      (perm : c.tasks.Perm (t :: tasks)) (scope : Scope)
      (ran : t.carry scope w c.world = .ok ⟨.returned t', s⟩) :
      Step w .prepares c { c with world := s, tasks := t' :: tasks }
  /-- A task becomes the business of a transactional call. -/
  | wrap {c : System ρ κ} {t : Task κ} {tasks : List (Task κ)}
      (perm : c.tasks.Perm (t :: tasks)) (template : Template) (info : CallInfo) :
      Step w .prepares c { c with tasks := .fresh template info t :: tasks }
  /-- A poll gets to the future inside its task. -/
  | poll {c : System ρ κ} {α : Type} {t : Task κ} {tasks : List (Task κ)} {layers : List Layer}
      {future : κ} {s : World ρ} (perm : c.tasks.Perm (t :: tasks))
      (ran : (t.reach : Action ρ (List Layer × Reached κ α)) w c.world =
        .ok ⟨.returned (layers, .inside future), s⟩) :
      Step w (.begins (.poll layers)) c
        { world := s, stays := (w, .poll layers) :: c.stays, tasks }
  /-- A poll ends before it gets to the future inside its task. -/
  | pass {c : System ρ κ} {α : Type} {t t' : Task κ} {tasks : List (Task κ)}
      {layers : List Layer} {polled : Polled κ α} {fate : Fate (Progress α)} {s s' : World ρ}
      (perm : c.tasks.Perm (t :: tasks))
      (ran : t.reach w c.world = .ok ⟨.returned (layers, .ended polled), s⟩)
      (closed : Layer.closeAll layers polled w s = .ok ⟨.returned (t', fate), s'⟩) :
      Step w .passes c { c with world := s', tasks := t' :: tasks }
  /-- The future inside a task ends its turn in this way, and so does the poll. -/
  | finish {c : System ρ κ} {α : Type} {layers : List Layer} {inner outer : List (Worker × Stay)}
      {t : Task κ} {fate' : Fate (Progress α)} {s : World ρ}
      (top : c.Innermost w (.poll layers) inner outer) (future : κ) (fate : Fate (Progress α))
      (ran : Layer.closeAll layers (.plain future, fate) w c.world =
        .ok ⟨.returned (t, fate'), s⟩) :
      Step w (.ends (.poll layers)) c
        { world := s, stays := inner ++ outer, tasks := t :: c.tasks }
  /-- A task is dropped. -/
  | drop {c : System ρ κ} {t : Task κ} {tasks : List (Task κ)} {r : Ran ρ Unit}
      (perm : c.tasks.Perm (t :: tasks)) (ran : t.drop w c.world = .ok r) :
      Step w .passes c { c with world := r.world, tasks }

/-- Any number of steps of any workers. -/
inductive Runs : System ρ κ → System ρ κ → Prop where
  | refl (c : System ρ κ) : Runs c c
  | step {c d e : System ρ κ} {w : Worker} {mark : Mark} (runs : Runs c d)
      (step : Step w mark d e) : Runs c e

/-- Nothing is running and nothing is pending. -/
def Idle (c : System ρ κ) : Prop :=
  c.stays = [] ∧ c.tasks = []

end System
end AmbientTx
