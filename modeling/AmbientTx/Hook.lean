import AmbientTx.Scope

/-! # Execution hooks

What a runtime calls around each stay of a unit of work on a worker: `resume` before the work runs
there and `suspend` after it stopped, whether it waits, ended or unwound. `Hook.guarding` makes the
second call unconditional. A scope is a hook; a job is a body that is moved to another worker
together with a scope.
-/

namespace AmbientTx

/-- A hook with the state `η`. Either call may panic; the state that it leaves counts anyway. -/
structure Hook (ρ η : Type) where
  resume : η → Action ρ (η × Fate Unit)
  suspend : η → Action ρ (η × Fate Unit)

namespace Hook

variable {ρ η β α : Type}

/-- Suspends a hook after a body that ended so. A panic of the hook is the end of the body then. -/
def finish (h : Hook ρ η) (state : η) (fate : Fate α) : Action ρ (η × Fate α) := do
  let (state, after) ← h.suspend state
  return (state, ← Action.settle fate after)

/-- Runs a body between `resume` and `suspend`. The body may keep a state `β` of its own, which is
`idle` when it is not run; it reports its end, and does not unwind. If `resume` panics, the body is
not run and the hook is not suspended. -/
def around (h : Hook ρ η) (state : η) (idle : β) (body : Action ρ (β × Fate α)) :
    Action ρ (η × β × Fate α) := do
  match ← h.resume state with
  | (state, .unwound p) => return (state, idle, .unwound p)
  | (state, .returned ()) =>
    let (kept, fate) ← body
    let (state, fate) ← h.finish state fate
    return (state, kept, fate)

/-- Runs a body between `resume` and `suspend`, and reports its end. -/
def guarding (h : Hook ρ η) (state : η) (body : Action ρ α) : Action ρ (η × Fate α) := do
  let (state, (), fate) ← h.around state () do return ((), ← body.attempt)
  return (state, fate)

/-- The panic of a runtime that lost track of the turns of a scope. -/
def turn (s : Scope) : Except ScopeError Scope → Scope × Fate Unit
  | .ok s => (s, .returned ())
  | .error e => (s, .unwound ⟨e.message⟩)

/-- A scope as a hook: resumed it is active, suspended it is not. -/
def scope : Hook ρ Scope where
  resume s := do return turn s (← s.activate)
  suspend s := do return turn s (← s.deactivate)

/-- How often a hook was resumed and suspended. -/
structure Tally where
  resumed : Nat := 0
  suspended : Nat := 0
  deriving DecidableEq, Repr

/-- A hook that counts its calls. -/
def counting : Hook ρ Tally where
  resume t := return ({ t with resumed := t.resumed + 1 }, .returned ())
  suspend t := return ({ t with suspended := t.suspended + 1 }, .returned ())

end Hook

/-- A body that runs once, on whichever worker calls it, with a scope active. -/
structure Job (κ : Type) where
  scope : Scope
  body : κ

/-- Runs a job. The scope belongs to the job alone and is gone afterwards. -/
def Job.call (run : κ → Action ρ α) (j : Job κ) : Action ρ α := do
  let (_, fate) ← Hook.scope.guarding j.scope (run j.body)
  Action.resume fate

end AmbientTx
