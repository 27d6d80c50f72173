import Mathlib.Data.List.Perm.Basic
import AmbientTx.Proofs.Effect
import AmbientTx.Proofs.Poll

/-! # Clients

A system tells what may happen. A client decides what does: it asks for one command after the other,
on any workers, and what it asks for next may depend on all the responses so far. So the operations
of a client, the bodies under its guards, the businesses of its calls and the futures of its tasks
are interleaved as it likes; the panic of a body is an end that the client chooses. What comes of a
command is again that nothing happens, an operation, or a step (`System.performed`).
-/

namespace AmbientTx

variable {ρ κ α β γ ε : Type} {w : Worker} {s t : World ρ}

open World AmbientTx.Action

/-- What a worker asks for. A task is named by its place among those that are not being polled. -/
inductive Command (κ ε α : Type) where
  | operate (op : Operation)
  /-- Installs a configuration, wherever it comes from. -/
  | install (config : ContextConfig)
  /-- The manager has these answers from now on. -/
  | answers (manager : ManagerName) (answers : Manager)
  /-- A guard activates its scope, and a body begins. -/
  | enter (scope : Scope)
  /-- A hook resumes its scope, and a body begins. -/
  | resume (scope : Scope)
  /-- The innermost body ended, and its guard releases the scope. -/
  | release
  /-- The innermost body ended, and its hook suspends the scope. -/
  | suspend
  | call (template : Template) (info : CallInfo)
  /-- The innermost business ended so. -/
  | leave (fate : Fate (Except ε α))
  | future (future : κ)
  | carry (task : Nat) (scope : Scope)
  | wrap (task : Nat) (template : Template) (info : CallInfo)
  | poll (task : Nat)
  /-- The future that is polled innermost ended its turn so. -/
  | finish (future : κ) (fate : Fate (Progress α))
  | drop (task : Nat)

/-- Whether a command is about stays, tasks or managers. -/
def Command.moves : Command κ ε α → Bool
  | .operate _ | .install _ => false
  | _ => true

/-- What a client is told. -/
inductive Response (κ ε α : Type) where
  | reply (reply : Script.Reply)
  | installed (outcome : Except ContextError ContextConfig)
  | turned (outcome : Except ScopeError Scope)
  | hooked (scope : Scope) (fate : Fate Unit)
  | released (scope : Scope)
  /-- A call takes part in a transaction and runs its business, or it is refused. -/
  | called (outcome : Except (CallError ε) Part)
  | left (outcome : Except (CallError ε) α)
  /-- A poll got to this future. -/
  | inside (future : κ)
  | polled (fate : Fate (Progress α))
  | done
  /-- There is no such task, or no such stay. -/
  | unusable

/-- An operation, with what it replies. -/
def Operation.respond : Operation → Action ρ (Response κ ε α)
  | .slot op => do return .reply (← op.perform)
  | .shared op => do return .reply (← op.perform)
  | .activate scope => do return .turned (← scope.activate)
  | .deactivate scope => do return .turned (← scope.deactivate)
  | .resume scope => do
    let turned ← Hook.scope.resume scope
    return .hooked turned.1 turned.2
  | .suspend scope => do
    let turned ← Hook.scope.suspend scope
    return .hooked turned.1 turned.2

/-- A poll, until it gets to the future inside its task or ends before. -/
def Task.approach (t : Task κ) : Action ρ (List Layer × κ ⊕ Polled κ α) := do
  match ← t.reach with
  | (layers, .inside future) => return .inl (layers, future)
  | (layers, .ended polled) => return .inr (← Layer.closeAll layers polled)

/-- A poll does not unwind on its way to the future inside. -/
theorem Task.approach_reports (task : Task κ) :
    Reports w (task.approach : Action ρ (List Layer × κ ⊕ Polled κ α)) := by
  refine task.reach_reports.bind fun found => ?_
  obtain ⟨layers, future | polled⟩ := found
  · exact Reports.pure _
  · exact (Task.closeAll_reports layers polled).bind fun _ => Reports.pure _

/-- A poll that got to the future inside. -/
theorem Task.reach_of_approach {task : Task κ} {layers : List Layer} {future : κ}
    (ran : (task.approach : Action ρ (List Layer × κ ⊕ Polled κ α)) w s =
      .ok ⟨.returned (.inl (layers, future)), t⟩) :
    (task.reach : Action ρ (List Layer × Reached κ α)) w s =
      .ok ⟨.returned (layers, .inside future), t⟩ := by
  obtain ⟨⟨layers', reached⟩, u, way, rest⟩ := bind_eq_returned.1 ran
  cases reached with
  | inside future' =>
    cases rest
    exact way
  | ended polled =>
    obtain ⟨left, v, -, rest⟩ := bind_eq_returned.1 rest
    cases rest

/-- A poll that ended before. -/
theorem Task.close_of_approach {task : Task κ} {left : Polled κ α}
    (ran : task.approach w s = .ok ⟨.returned (.inr left), t⟩) :
    ∃ layers polled u, task.reach w s = .ok ⟨.returned (layers, .ended polled), u⟩ ∧
      Layer.closeAll layers polled w u = .ok ⟨.returned left, t⟩ := by
  obtain ⟨⟨layers, reached⟩, u, way, rest⟩ := bind_eq_returned.1 ran
  cases reached with
  | inside future => cases rest
  | ended polled =>
    obtain ⟨left', v, closed, rest⟩ := bind_eq_returned.1 rest
    cases rest
    exact ⟨layers, polled, u, way, closed⟩

theorem Task.carry_returns (task : Task κ) (scope : Scope) (w : Worker) (s : World ρ) :
    ∃ carried t, task.carry scope w s = .ok ⟨.returned carried, t⟩ := by
  obtain ⟨carrier, t, created, -⟩ := Carrier.create_calm scope w s
  exact ⟨_, t, bind_of_returned created _⟩

/-- The innermost stay of a worker, and the other stays. -/
def popped (w : Worker) : List (Worker × Stay) → Option (Stay × List (Worker × Stay))
  | [] => none
  | (v, stay) :: rest =>
    if v = w then some (stay, rest)
    else (popped w rest).map fun found => (found.1, (v, stay) :: found.2)

namespace System

/-- A stay begins, in this world. -/
def staying (c : System ρ κ) (w : Worker) (stay : Stay) (s : World ρ) : System ρ κ :=
  { c with world := s, stays := (w, stay) :: c.stays }

/-- What comes of a command of a worker. -/
def perform (c : System ρ κ) (w : Worker) :
    Command κ ε α → Except Halt (Fate (Response κ ε α) × System ρ κ)
  | .operate op => (op.respond w c.world).map fun r => (r.fate, { c with world := r.world })
  | .install config => (Ambient.install config w c.world).map fun r =>
    (r.fate.map .installed, { c with world := r.world })
  | .answers m v => .ok (.returned .done, { c with world := c.world.setManager m v })
  | .enter scope => (scope.activate w c.world).map fun
    | ⟨.returned (.ok active), s⟩ =>
      (.returned (.turned (.ok active)), c.staying w (.guarded active) s)
    | ⟨fate, s⟩ => (fate.map .turned, { c with world := s })
  | .resume scope => (Hook.scope.resume scope w c.world).map fun
    | ⟨.returned (active, .returned ()), s⟩ =>
      (.returned (.hooked active (.returned ())), c.staying w (.guarded active) s)
    | ⟨fate, s⟩ => (fate.map fun turned => .hooked turned.1 turned.2, { c with world := s })
  | .release =>
    match popped w c.stays with
    | some (.guarded scope, stays) => (scope.release w c.world).map fun r =>
      (r.fate.map .released, { c with world := r.world, stays })
    | _ => .ok (.returned .unusable, c)
  | .suspend =>
    match popped w c.stays with
    | some (.guarded scope, stays) => (Hook.scope.suspend scope w c.world).map fun r =>
      (r.fate.map fun turned => .hooked turned.1 turned.2, { c with world := r.world, stays })
    | _ => .ok (.returned .unusable, c)
  | .call t info => (t.enter info w c.world).map fun
    | ⟨.returned (.ok part), s⟩ => (.returned (.called (.ok part)), c.staying w (.call part) s)
    | ⟨fate, s⟩ => (fate.map .called, { c with world := s })
  | .leave fate =>
    match popped w c.stays with
    | some (.call part, stays) => (part.leave fate w c.world).map fun r =>
      (r.fate.map .left, { c with world := r.world, stays })
    | _ => .ok (.returned .unusable, c)
  | .future future => .ok (.returned .done, { c with tasks := .plain future :: c.tasks })
  | .carry i scope =>
    match c.tasks[i]? with
    | some task => (task.carry scope w c.world).map fun
      | ⟨.returned carried, s⟩ =>
        (.returned .done, { c with world := s, tasks := carried :: c.tasks.eraseIdx i })
      | ⟨.unwound p, s⟩ => (.unwound p, { c with world := s, tasks := c.tasks.eraseIdx i })
    | none => .ok (.returned .unusable, c)
  | .wrap i t info =>
    match c.tasks[i]? with
    | some task =>
      .ok (.returned .done, { c with tasks := .fresh t info task :: c.tasks.eraseIdx i })
    | none => .ok (.returned .unusable, c)
  | .poll i =>
    match c.tasks[i]? with
    | some task => (task.approach w c.world).map fun
      | ⟨.returned (.inl (layers, future)), s⟩ => (.returned (.inside future),
        { world := s, stays := (w, .poll layers) :: c.stays, tasks := c.tasks.eraseIdx i })
      | ⟨.returned (.inr (left, fate)), s⟩ =>
        (.returned (.polled fate), { c with world := s, tasks := left :: c.tasks.eraseIdx i })
      | ⟨.unwound p, s⟩ => (.unwound p, { c with world := s, tasks := c.tasks.eraseIdx i })
    | none => .ok (.returned .unusable, c)
  | .finish future fate =>
    match popped w c.stays with
    | some (.poll layers, stays) =>
      (Layer.closeAll layers (.plain future, fate) w c.world).map fun
      | ⟨.returned (left, fate), s⟩ =>
        (.returned (.polled fate), { world := s, stays, tasks := left :: c.tasks })
      | ⟨.unwound p, s⟩ => (.unwound p, { c with world := s, stays })
    | _ => .ok (.returned .unusable, c)
  | .drop i =>
    match c.tasks[i]? with
    | some task => (task.drop w c.world).map fun r =>
      (r.fate.map fun () => .done, { c with world := r.world, tasks := c.tasks.eraseIdx i })
    | none => .ok (.returned .unusable, c)

end System

/-- A client that stops, or asks for a command on a worker and goes on with what it is told. -/
inductive Client (κ ε α : Type) where
  | stop
  | ask (w : Worker) (command : Command κ ε α) (next : Fate (Response κ ε α) → Client κ ε α)

/-- A command that was performed, how it ended, and the world after it. -/
structure Turn (ρ κ ε α : Type) where
  worker : Worker
  command : Command κ ε α
  response : Fate (Response κ ε α)
  world : World ρ

/-- What a client did, the system that it left, and why it could not go on, if it could not. -/
structure Session (ρ κ ε α : Type) where
  turns : List (Turn ρ κ ε α)
  last : System ρ κ
  halt : Option Halt

namespace System

/-- Does what a client asks for. -/
def serve (c : System ρ κ) : Client κ ε α → Session ρ κ ε α
  | .stop => ⟨[], c, none⟩
  | .ask w command next =>
    match c.perform w command with
    | .error h => ⟨[], c, some h⟩
    | .ok (response, d) =>
      let session := d.serve (next response)
      { session with turns := ⟨w, command, response, d.world⟩ :: session.turns }

/-! ## What comes of a command -/

variable {c d : System ρ κ} {command : Command κ ε α} {response : Fate (Response κ ε α)}

/-- How a command leads from one system to another. -/
inductive Performed (w : Worker) (command : Command κ ε α) : System ρ κ → System ρ κ → Prop where
  | installed {c : System ρ κ} {config : ContextConfig}
      {r : Ran ρ (Except ContextError ContextConfig)} (same : command = .install config)
      (ran : Ambient.install config w c.world = .ok r) :
      Performed w command c { c with world := r.world }
  | operated {c : System ρ κ} {op : Operation} {r : Ran ρ Unit} (same : command = .operate op)
      (ran : op.perform w c.world = .ok r) : Performed w command c { c with world := r.world }
  | unusable (c : System ρ κ) (moves : command.moves = true) : Performed w command c c
  /-- A guard or a hook could not make its scope active. -/
  | failed {c : System ρ κ} {scope : Scope} {op : Operation} {r : Ran ρ Unit}
      (moves : command.moves = true) (turns : op = .activate scope ∨ op = .resume scope)
      (ran : op.perform w c.world = .ok r) : Performed w command c { c with world := r.world }
  | stepped {c d : System ρ κ} {mark : Mark} (moves : command.moves = true)
      (step : Step w mark c d) (other : mark ≠ .operates) : Performed w command c d

theorem popped_innermost {stay : Stay} {stays : List (Worker × Stay)}
    (h : popped w c.stays = some (stay, stays)) :
    ∃ inner outer, c.Innermost w stay inner outer ∧ stays = inner ++ outer := by
  obtain ⟨s, all, tasks⟩ := c
  simp only at h
  suffices ∃ inner outer, all = inner ++ (w, stay) :: outer ∧ (∀ e ∈ inner, e.1 ≠ w) ∧
      stays = inner ++ outer by
    obtain ⟨inner, outer, split, others, same⟩ := this
    exact ⟨inner, outer, ⟨split, others⟩, same⟩
  induction all generalizing stays with
  | nil => cases h
  | cons e rest ih =>
    obtain ⟨v, top⟩ := e
    unfold popped at h
    by_cases same : v = w
    · rw [if_pos same] at h
      cases h
      exact ⟨[], _, by rw [same]; rfl, fun _ mem => absurd mem List.not_mem_nil, rfl⟩
    · rw [if_neg same] at h
      obtain ⟨⟨found, others⟩, inside, ⟨⟩⟩ := Option.map_eq_some_iff.1 h
      obtain ⟨inner, outer, rfl, others, rfl⟩ := ih inside
      refine ⟨(v, top) :: inner, outer, rfl, ?_, rfl⟩
      exact List.forall_mem_cons.2 ⟨same, others⟩

theorem perm_of_getElem? {task : Task κ} {i : Nat} (h : c.tasks[i]? = some task) :
    c.tasks.Perm (task :: c.tasks.eraseIdx i) := by
  obtain ⟨inside, rfl⟩ := List.getElem?_eq_some_iff.1 h
  exact (List.getElem_cons_eraseIdx_perm inside).symm

/-- An operation does the same if it is not asked for its reply. -/
theorem perform_of_respond {op : Operation} {r : Ran ρ (Response κ ε α)}
    (ran : op.respond w s = .ok r) : ∃ q, op.perform w s = .ok q ∧ q.world = r.world := by
  have forget {β : Type} {x : Action ρ β} {g : β → Response κ ε α}
      (ran : (x >>= fun b => Pure.pure (g b)) w s = .ok r) :
      ∃ q, (do let _ ← x : Action ρ Unit) w s = .ok q ∧ q.world = r.world := by
    obtain ⟨q, inner, rfl⟩ := map_eq_ok.1 ran
    exact ⟨_, map_eq_ok.2 ⟨q, inner, rfl⟩, rfl⟩
  cases op <;> exact forget ran

theorem ok_of_map {x : Except Halt β} {f : β → γ} {b : γ} (h : x.map f = .ok b) :
    ∃ a, x = .ok a ∧ b = f a := by
  cases x with
  | error halt => cases h
  | ok a => exact ⟨a, rfl, (Except.ok.inj h).symm⟩

/-- How a system answers a command: what ran on the worker, what the client is told of it, and the
system that is left. -/
inductive Serves (c : System ρ κ) (w : Worker) :
    Command κ ε α → Fate (Response κ ε α) → System ρ κ → Prop where
  | operate {op : Operation} {r : Ran ρ (Response κ ε α)} (ran : op.respond w c.world = .ok r) :
      Serves c w (.operate op) r.fate { c with world := r.world }
  | install {config : ContextConfig} {r : Ran ρ (Except ContextError ContextConfig)}
      (ran : Ambient.install config w c.world = .ok r) :
      Serves c w (.install config) (r.fate.map .installed) { c with world := r.world }
  | answers (m : ManagerName) (v : Manager) :
      Serves c w (.answers m v) (.returned .done) { c with world := c.world.setManager m v }
  | enter {scope active : Scope} {s : World ρ}
      (ran : scope.activate w c.world = .ok ⟨.returned (.ok active), s⟩) :
      Serves c w (.enter scope) (.returned (.turned (.ok active)))
        (c.staying w (.guarded active) s)
  /-- The scope is not activated. -/
  | enterFailed {scope : Scope} {r : Ran ρ (Except ScopeError Scope)}
      (ran : scope.activate w c.world = .ok r)
      (failed : ∀ active, r.fate ≠ .returned (.ok active)) :
      Serves c w (.enter scope) (r.fate.map .turned) { c with world := r.world }
  | resume {scope active : Scope} {s : World ρ}
      (ran : Hook.scope.resume scope w c.world = .ok ⟨.returned (active, .returned ()), s⟩) :
      Serves c w (.resume scope) (.returned (.hooked active (.returned ())))
        (c.staying w (.guarded active) s)
  /-- The hook panics. -/
  | resumeFailed {scope : Scope} {r : Ran ρ (Scope × Fate Unit)}
      (ran : Hook.scope.resume scope w c.world = .ok r) :
      Serves c w (.resume scope) (r.fate.map fun turned => .hooked turned.1 turned.2)
        { c with world := r.world }
  | release {scope : Scope} {inner outer : List (Worker × Stay)} {r : Ran ρ Scope}
      (top : c.Innermost w (.guarded scope) inner outer) (ran : scope.release w c.world = .ok r) :
      Serves c w .release (r.fate.map .released)
        { c with world := r.world, stays := inner ++ outer }
  | suspend {scope : Scope} {inner outer : List (Worker × Stay)} {r : Ran ρ (Scope × Fate Unit)}
      (top : c.Innermost w (.guarded scope) inner outer)
      (ran : Hook.scope.suspend scope w c.world = .ok r) :
      Serves c w .suspend (r.fate.map fun turned => .hooked turned.1 turned.2)
        { c with world := r.world, stays := inner ++ outer }
  | call {template : Template} {info : CallInfo} {part : Part} {s : World ρ}
      (ran : (template.enter info : Action ρ (Except (CallError ε) Part)) w c.world =
        .ok ⟨.returned (.ok part), s⟩) :
      Serves c w (.call template info) (.returned (.called (.ok part)))
        (c.staying w (.call part) s)
  /-- The call takes part in no transaction. -/
  | refuse {template : Template} {info : CallInfo} {r : Ran ρ (Except (CallError ε) Part)}
      (ran : template.enter info w c.world = .ok r)
      (refused : ∀ part, r.fate ≠ .returned (.ok part)) :
      Serves c w (.call template info) (r.fate.map .called) { c with world := r.world }
  | leave {part : Part} {inner outer : List (Worker × Stay)} {fate : Fate (Except ε α)}
      {r : Ran ρ (Except (CallError ε) α)} (top : c.Innermost w (.call part) inner outer)
      (ran : part.leave fate w c.world = .ok r) :
      Serves c w (.leave fate) (r.fate.map .left)
        { c with world := r.world, stays := inner ++ outer }
  | future (future : κ) :
      Serves c w (.future future) (.returned .done) { c with tasks := .plain future :: c.tasks }
  | carry {i : Nat} {scope : Scope} {task carried : Task κ} {s : World ρ}
      (found : c.tasks[i]? = some task)
      (ran : task.carry scope w c.world = .ok ⟨.returned carried, s⟩) :
      Serves c w (.carry i scope) (.returned .done)
        { c with world := s, tasks := carried :: c.tasks.eraseIdx i }
  | wrap {i : Nat} {task : Task κ} (template : Template) (info : CallInfo)
      (found : c.tasks[i]? = some task) :
      Serves c w (.wrap i template info) (.returned .done)
        { c with tasks := .fresh template info task :: c.tasks.eraseIdx i }
  | poll {i : Nat} {task : Task κ} {layers : List Layer} {future : κ} {s : World ρ}
      (found : c.tasks[i]? = some task)
      (ran : (task.approach : Action ρ (List Layer × κ ⊕ Polled κ α)) w c.world =
        .ok ⟨.returned (.inl (layers, future)), s⟩) :
      Serves c w (.poll i) (.returned (.inside future))
        { world := s, stays := (w, .poll layers) :: c.stays, tasks := c.tasks.eraseIdx i }
  /-- The poll ends before it gets to the future inside. -/
  | pass {i : Nat} {task left : Task κ} {fate : Fate (Progress α)} {s : World ρ}
      (found : c.tasks[i]? = some task)
      (ran : task.approach w c.world = .ok ⟨.returned (.inr (left, fate)), s⟩) :
      Serves c w (.poll i) (.returned (.polled fate))
        { c with world := s, tasks := left :: c.tasks.eraseIdx i }
  | finish {layers : List Layer} {inner outer : List (Worker × Stay)} {future : κ} {left : Task κ}
      {fate fate' : Fate (Progress α)} {s : World ρ}
      (top : c.Innermost w (.poll layers) inner outer)
      (ran : Layer.closeAll layers (.plain future, fate) w c.world =
        .ok ⟨.returned (left, fate'), s⟩) :
      Serves c w (.finish future fate) (.returned (.polled fate'))
        { world := s, stays := inner ++ outer, tasks := left :: c.tasks }
  | drop {i : Nat} {task : Task κ} {r : Ran ρ Unit} (found : c.tasks[i]? = some task)
      (ran : task.drop w c.world = .ok r) :
      Serves c w (.drop i) (r.fate.map fun () => .done)
        { c with world := r.world, tasks := c.tasks.eraseIdx i }
  /-- There is no such task, or no such stay. -/
  | unusable {command : Command κ ε α} (moves : command.moves = true) :
      Serves c w command (.returned .unusable) c

namespace Serves

theorem of_enter {scope : Scope} (ran : c.perform w (.enter scope) = .ok (response, d)) :
    Serves c w (.enter scope) response d := by
  obtain ⟨⟨fate, s⟩, action, same⟩ := ok_of_map ran
  rcases fate with (e | active) | p <;> cases same
  · exact .enterFailed action nofun
  · exact .enter action
  · exact .enterFailed action nofun

theorem of_resume {scope : Scope} (ran : c.perform w (.resume scope) = .ok (response, d)) :
    Serves c w (.resume scope) response d := by
  obtain ⟨⟨fate, s⟩, action, same⟩ := ok_of_map ran
  rcases fate with ⟨active, ⟨⟩ | p⟩ | p <;> cases same
  · exact .resume action
  · exact .resumeFailed action
  · exact .resumeFailed action

theorem of_release (ran : c.perform w .release = .ok (response, d)) :
    Serves c w .release response d := by
  simp only [perform] at ran
  split at ran
  · next scope stays found =>
    obtain ⟨r, action, ⟨⟩⟩ := ok_of_map ran
    obtain ⟨inner, outer, top, rfl⟩ := popped_innermost found
    exact .release top action
  · cases ran
    exact .unusable rfl

theorem of_suspend (ran : c.perform w .suspend = .ok (response, d)) :
    Serves c w .suspend response d := by
  simp only [perform] at ran
  split at ran
  · next scope stays found =>
    obtain ⟨r, action, ⟨⟩⟩ := ok_of_map ran
    obtain ⟨inner, outer, top, rfl⟩ := popped_innermost found
    exact .suspend top action
  · cases ran
    exact .unusable rfl

theorem of_call {template : Template} {info : CallInfo}
    (ran : c.perform w (.call template info) = .ok (response, d)) :
    Serves c w (.call template info) response d := by
  obtain ⟨⟨fate, s⟩, action, same⟩ := ok_of_map ran
  rcases fate with (e | part) | p <;> cases same
  · exact .refuse action nofun
  · exact .call action
  · exact .refuse action nofun

theorem of_leave {fate : Fate (Except ε α)}
    (ran : c.perform w (.leave fate) = .ok (response, d)) :
    Serves c w (.leave fate) response d := by
  simp only [perform] at ran
  split at ran
  · next part stays found =>
    obtain ⟨r, action, ⟨⟩⟩ := ok_of_map ran
    obtain ⟨inner, outer, top, rfl⟩ := popped_innermost found
    exact .leave top action
  · cases ran
    exact .unusable rfl

theorem of_carry {i : Nat} {scope : Scope}
    (ran : c.perform w (.carry i scope) = .ok (response, d)) :
    Serves c w (.carry i scope) response d := by
  simp only [perform] at ran
  split at ran
  · next task found =>
    obtain ⟨⟨fate, s⟩, action, same⟩ := ok_of_map ran
    obtain ⟨carried, t, made⟩ := task.carry_returns scope w c.world
    obtain ⟨⟩ := Except.ok.inj (made.symm.trans action)
    cases same
    exact .carry found action
  · cases ran
    exact .unusable rfl

theorem of_wrap {i : Nat} {template : Template} {info : CallInfo}
    (ran : c.perform w (.wrap i template info) = .ok (response, d)) :
    Serves c w (.wrap i template info) response d := by
  simp only [perform] at ran
  split at ran
  · next task found =>
    cases ran
    exact .wrap template info found
  · cases ran
    exact .unusable rfl

theorem of_poll {i : Nat} (ran : c.perform w (.poll i) = .ok (response, d)) :
    Serves c w (.poll i) response d := by
  simp only [perform] at ran
  split at ran
  · next task found =>
    obtain ⟨⟨fate, s⟩, action, same⟩ := ok_of_map ran
    obtain ⟨approached, rfl⟩ := task.approach_reports trivial action
    rcases approached with ⟨layers, future⟩ | ⟨left, fate⟩ <;> cases same
    · exact .poll found action
    · exact .pass found action
  · cases ran
    exact .unusable rfl

theorem of_finish {future : κ} {fate : Fate (Progress α)}
    (ran : c.perform w (.finish future fate) = .ok (response, d)) :
    Serves c w (.finish future fate) response d := by
  simp only [perform] at ran
  split at ran
  · next layers stays found =>
    obtain ⟨⟨fate', s⟩, action, same⟩ := ok_of_map ran
    obtain ⟨inner, outer, top, rfl⟩ := popped_innermost found
    obtain ⟨⟨left, ended⟩, rfl⟩ :=
      Task.closeAll_reports layers (.plain future, fate) trivial action
    cases same
    exact .finish top action
  · cases ran
    exact .unusable rfl

theorem of_drop {i : Nat} (ran : c.perform w (.drop i) = .ok (response, d)) :
    Serves c w (.drop i) response d := by
  simp only [perform] at ran
  split at ran
  · next task found =>
    obtain ⟨r, action, ⟨⟩⟩ := ok_of_map ran
    exact .drop found action
  · cases ran
    exact .unusable rfl

end Serves

/-- A command is answered in one of these ways. -/
theorem serves (ran : c.perform w command = .ok (response, d)) :
    Serves c w command response d := by
  cases command with
  | operate op =>
    obtain ⟨r, action, ⟨⟩⟩ := ok_of_map ran
    exact .operate action
  | install config =>
    obtain ⟨r, action, ⟨⟩⟩ := ok_of_map ran
    exact .install action
  | answers m v =>
    cases ran
    exact .answers m v
  | enter scope => exact .of_enter ran
  | resume scope => exact .of_resume ran
  | release => exact .of_release ran
  | suspend => exact .of_suspend ran
  | call template info => exact .of_call ran
  | leave fate => exact .of_leave ran
  | future future =>
    cases ran
    exact .future future
  | carry i scope => exact .of_carry ran
  | wrap i template info => exact .of_wrap ran
  | poll i => exact .of_poll ran
  | finish future fate => exact .of_finish ran
  | drop i => exact .of_drop ran

/-- Every command installs a configuration, performs an operation, does nothing, or is a step. -/
theorem performed (ran : c.perform w command = .ok (response, d)) : Performed w command c d := by
  cases serves ran with
  | operate action =>
    obtain ⟨q, action, world⟩ := perform_of_respond action
    rw [← world]
    exact .operated rfl action
  | install action => exact .installed rfl action
  | answers m v => exact .stepped rfl (.answers m v) nofun
  | enter action => exact .stepped rfl (.enter action) nofun
  | enterFailed action => exact .failed rfl (.inl rfl) (map_eq_ok.2 ⟨_, action, rfl⟩)
  | resume action => exact .stepped rfl (.resume action) nofun
  | resumeFailed action => exact .failed rfl (.inr rfl) (map_eq_ok.2 ⟨_, action, rfl⟩)
  | release top action => exact .stepped rfl (.release top action) nofun
  | suspend top action => exact .stepped rfl (.suspend top action) nofun
  | call action => exact .stepped rfl (.call _ _ action) nofun
  | refuse action refused => exact .stepped rfl (.refuse _ _ action refused) nofun
  | leave top action => exact .stepped rfl (.leave top _ action) nofun
  | future future => exact .stepped rfl (.future future) nofun
  | carry found action => exact .stepped rfl (.carry (perm_of_getElem? found) _ action) nofun
  | wrap template info found =>
    exact .stepped rfl (.wrap (perm_of_getElem? found) template info) nofun
  | poll found action =>
    exact .stepped rfl (.poll (perm_of_getElem? found) (Task.reach_of_approach action)) nofun
  | pass found action =>
    obtain ⟨layers, polled, s, way, closed⟩ := Task.close_of_approach action
    exact .stepped rfl (.pass (perm_of_getElem? found) way closed) nofun
  | finish top action => exact .stepped rfl (.finish top _ _ action) nofun
  | drop found action => exact .stepped rfl (.drop (perm_of_getElem? found) action) nofun
  | unusable moves => exact .unusable c moves

/-! ## Turn by turn -/

/-- The world after these turns, from `s` on. -/
def worldAfter (s : World ρ) (turns : List (Turn ρ κ ε α)) : World ρ :=
  (turns.getLast?.map Turn.world).getD s

theorem worldAfter_cons (s : World ρ) (turn : Turn ρ κ ε α) (turns : List (Turn ρ κ ε α)) :
    worldAfter s (turn :: turns) = worldAfter turn.world turns := by
  unfold worldAfter
  rw [List.getLast?_cons]
  cases turns.getLast? <;> rfl

theorem serve_last (c : System ρ κ) (client : Client κ ε α) :
    (c.serve client).last.world = worldAfter c.world (c.serve client).turns := by
  induction client generalizing c with
  | stop => rfl
  | ask w command next ih =>
    unfold serve
    split
    · rfl
    · next response d ran =>
      rw [worldAfter_cons]
      exact ih response d

/-- What was set last, if turns set something: what they set, or else what was set at the start. -/
def lastSet (sets? : Turn ρ κ ε α → Option β) (start : β) (turns : List (Turn ρ κ ε α)) : β :=
  turns.foldl (fun last turn => (sets? turn).getD last) start

theorem lastSet_append (sets? : Turn ρ κ ε α → Option β) (start : β)
    (turns : List (Turn ρ κ ε α)) (turn : Turn ρ κ ε α) :
    lastSet sets? start (turns ++ [turn]) = (sets? turn).getD (lastSet sets? start turns) := by
  unfold lastSet
  rw [List.foldl_append]
  rfl

/-- What every turn carries on holds after any number of turns. -/
theorem serve_invariant {P : List (Turn ρ κ ε α) → World ρ → Prop}
    (step : ∀ past (c : System ρ κ) w command response d, P past c.world →
      c.perform w command = .ok (response, d) →
      P (past ++ [⟨w, command, response, d.world⟩]) d.world)
    (client : Client κ ε α) {c : System ρ κ} {past turns : List (Turn ρ κ ε α)}
    (start : P past c.world) (taken : turns <+: (c.serve client).turns) :
    P (past ++ turns) (worldAfter c.world turns) := by
  induction client generalizing c past turns with
  | stop =>
    obtain rfl := List.prefix_nil.1 taken
    rwa [List.append_nil]
  | ask w command next ih =>
    unfold serve at taken
    split at taken
    · obtain rfl := List.prefix_nil.1 taken
      rwa [List.append_nil]
    · next response d ran =>
      cases turns with
      | nil => rwa [List.append_nil]
      | cons turn turns =>
        obtain ⟨rfl, rest⟩ := List.cons_prefix_cons.1 taken
        rw [worldAfter_cons, List.append_cons]
        exact ih response (step past c w command response d start ran) rest

/-- The system after these turns, from `c` on. -/
def after (c : System ρ κ) (turns : List (Turn ρ κ ε α)) : System ρ κ :=
  turns.foldl (fun c turn =>
    match c.perform turn.worker turn.command with
    | .ok (_, d) => d
    | .error _ => c) c

/-- A session goes through the systems after its turns. -/
theorem serve_after (client : Client κ ε α) {c : System ρ κ} {turns : List (Turn ρ κ ε α)}
    {turn : Turn ρ κ ε α} (taken : turns ++ [turn] <+: (c.serve client).turns) :
    (c.after turns).perform turn.worker turn.command =
        .ok (turn.response, c.after (turns ++ [turn])) ∧
      (c.after turns).world = worldAfter c.world turns ∧
      (c.after (turns ++ [turn])).world = turn.world := by
  induction client generalizing c turns with
  | stop => exact absurd (List.prefix_nil.1 taken) (by simp)
  | ask w command next ih =>
    unfold serve at taken
    split at taken
    · exact absurd (List.prefix_nil.1 taken) (by simp)
    · next response d ran =>
      have first (turns : List (Turn ρ κ ε α)) :
          c.after (⟨w, command, response, d.world⟩ :: turns) = d.after turns := by
        rw [after, List.foldl_cons, ran]
        rfl
      cases turns with
      | nil =>
        obtain ⟨rfl, -⟩ := List.cons_prefix_cons.1 taken
        have reached : c.after ([] ++ [⟨w, command, response, d.world⟩]) = d := first []
        rw [reached]
        exact ⟨ran, rfl, rfl⟩
      | cons turn' turns =>
        obtain ⟨rfl, rest⟩ := List.cons_prefix_cons.1 taken
        rw [List.cons_append, first, first, worldAfter_cons]
        exact ih response rest

/-- What holds of every command that is performed holds of every turn. -/
theorem serve_turn {Q : World ρ → Turn ρ κ ε α → Prop}
    (step : ∀ (c : System ρ κ) w command response d, c.perform w command = .ok (response, d) →
      Q c.world ⟨w, command, response, d.world⟩)
    (client : Client κ ε α) {c : System ρ κ} {turns : List (Turn ρ κ ε α)} {turn : Turn ρ κ ε α}
    (taken : turns ++ [turn] <+: (c.serve client).turns) : Q (worldAfter c.world turns) turn := by
  obtain ⟨ran, before, after⟩ := serve_after client taken
  have done := step _ turn.worker turn.command turn.response _ ran
  rwa [before, after] at done

end System
end AmbientTx
