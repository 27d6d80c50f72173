import AmbientTx.World.Basic

/-! # Actions

An action runs on a worker and changes the world. It ends in one of two ways that other code can
observe: it returns a value, or it unwinds with a panic. `Action.attempt` turns the second into a
value, and `Action.ensuring` runs work of clean-up on both ways.

There are two more ends, after which nothing runs any more, not even clean-up: a panic while
unwinding aborts the process, and a run may exhaust the nesting it was given.

The equations at the end say what each combinator does to the result of a run; the laws of a monad
hold.
-/

namespace AmbientTx

/-- How a piece of code ended. -/
inductive Fate (α : Type) where
  /-- It returned a value. -/
  | returned (value : α)
  /-- It unwound with a panic. -/
  | unwound (panic : Panic)
  deriving DecidableEq

namespace Fate

/-- The same end with another value. -/
def map (f : α → β) : Fate α → Fate β
  | .returned a => .returned (f a)
  | .unwound p => .unwound p

end Fate

/-- Why nothing runs any more. -/
inductive Halt where
  /-- A panic while unwinding. -/
  | aborted
  /-- A wait without end, or work nested deeper than the run allows. -/
  | exhausted
  deriving DecidableEq, Repr

/-- How an action ended, and the world that it left. -/
structure Ran (ρ α : Type) where
  fate : Fate α
  world : World ρ

/-- Code that runs on a worker. -/
def Action (ρ α : Type) : Type :=
  Worker → World ρ → Except Halt (Ran ρ α)

namespace Action

variable {ρ α β γ : Type}

/-- Returns a value. -/
def pure (a : α) : Action ρ α :=
  fun _ s => .ok ⟨.returned a, s⟩

/-- Runs one action and then another with its value, unless the first unwinds. -/
def bind (x : Action ρ α) (f : α → Action ρ β) : Action ρ β :=
  fun w s =>
    match x w s with
    | .error h => .error h
    | .ok ⟨.returned a, s⟩ => f a w s
    | .ok ⟨.unwound p, s⟩ => .ok ⟨.unwound p, s⟩

instance : Monad (Action ρ) where
  pure := pure
  bind := bind

/-- Unwinds with a panic. -/
def panic (p : Panic) : Action ρ α :=
  fun _ s => .ok ⟨.unwound p, s⟩

/-- Ends everything. -/
def halt (h : Halt) : Action ρ α :=
  fun _ _ => .error h

/-- The worker that the code runs on. -/
def worker : Action ρ Worker :=
  fun w s => .ok ⟨.returned w, s⟩

/-- The world as it is. -/
def get : Action ρ (World ρ) :=
  fun _ s => .ok ⟨.returned s, s⟩

/-- Changes the world. -/
def modify (f : Worker → World ρ → World ρ) : Action ρ Unit :=
  fun w s => .ok ⟨.returned (), f w s⟩

/-- Ends as another piece of code did. -/
def resume : Fate α → Action ρ α
  | .returned a => pure a
  | .unwound p => panic p

/-- Runs an action and catches its panic. -/
def attempt (x : Action ρ α) : Action ρ (Fate α) :=
  fun w s =>
    match x w s with
    | .error h => .error h
    | .ok ⟨fate, s⟩ => .ok ⟨.returned fate, s⟩

/-- Runs an action on another worker. -/
def onWorker (w : Worker) (x : Action ρ α) : Action ρ α :=
  fun _ s => x w s

/-- Joins the end of a piece of code with the end of the clean-up after it. A panic of the clean-up
replaces the value of the code, but during unwinding it aborts. -/
def settle (fate : Fate α) (cleanup : Fate Unit) : Action ρ (Fate α) :=
  match fate, cleanup with
  | fate, .returned () => pure fate
  | .returned _, .unwound p => pure (.unwound p)
  | .unwound _, .unwound _ => halt .aborted

/-- Runs an action and then, whether it returned or unwound, the clean-up. -/
def ensuring (x : Action ρ α) (cleanup : Action ρ Unit) : Action ρ α := do
  let fate ← attempt x
  let after ← attempt cleanup
  resume (← settle fate after)

/-- Logs an event. -/
def log (e : Event) : Action ρ Unit :=
  modify fun w s => s.record w (.event e)

/-! ## Equations -/

theorem pure_run (a : α) (w : Worker) (s : World ρ) :
    (Pure.pure a : Action ρ α) w s = .ok ⟨.returned a, s⟩ := rfl

theorem bind_run (x : Action ρ α) (f : α → Action ρ β) (w : Worker) (s : World ρ) :
    (x >>= f) w s =
      match x w s with
      | .error h => .error h
      | .ok ⟨.returned a, s⟩ => f a w s
      | .ok ⟨.unwound p, s⟩ => .ok ⟨.unwound p, s⟩ := rfl

theorem bind_of_returned {x : Action ρ α} {w : Worker} {s t : World ρ} {a : α}
    (h : x w s = .ok ⟨.returned a, t⟩) (f : α → Action ρ β) : (x >>= f) w s = f a w t := by
  rw [bind_run, h]

theorem bind_of_unwound {x : Action ρ α} {w : Worker} {s t : World ρ} {p : Panic}
    (h : x w s = .ok ⟨.unwound p, t⟩) (f : α → Action ρ β) :
    (x >>= f) w s = .ok ⟨.unwound p, t⟩ := by
  rw [bind_run, h]

theorem attempt_of_ran {x : Action ρ α} {w : Worker} {s : World ρ} {r : Ran ρ α}
    (h : x w s = .ok r) : x.attempt w s = .ok ⟨.returned r.fate, r.world⟩ := by
  unfold attempt
  rw [h]

/-- The laws of a monad hold. -/
instance : LawfulMonad (Action ρ) :=
  LawfulMonad.mk' (Action ρ)
    (fun x => by
      funext w s
      show (x >>= fun a => Pure.pure a) w s = x w s
      rw [bind_run]
      rcases x w s with h | ⟨a | p, t⟩ <;> rfl)
    (fun _ _ => rfl)
    (fun x f g => by
      funext w s
      simp only [bind_run]
      rcases x w s with h | ⟨a | p, t⟩ <;> rfl)

end Action
end AmbientTx
