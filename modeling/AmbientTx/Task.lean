import AmbientTx.Hook
import AmbientTx.Template
import AmbientTx.Work

/-! # Tasks

A task is a unit of work that runs in stays: each poll runs it on the polling worker until it waits,
ends or unwinds, and the next poll may come on another worker. A task is built around a future of
the client from two kinds of layers.

* *Carried* tasks: a scope is active, and a span entered, during every poll of the inner task.
* *Transactional calls*: the first poll joins the bound transaction or launches one. The business
  is then carried by a scope over that transaction. A launcher never binds its transaction itself;
  it commits or rolls back in the poll that ends the business, and rolls back when it is dropped
  before.

Dropping a task drops the tasks inside it first.
-/

namespace AmbientTx

/-- A new span, if there is a transaction to name it by and spans are on. -/
def Span.create? (captured : Option Xid) : Action ρ (Option Span) := do
  match captured with
  | none => return none
  | some x =>
    if (← Ambient.config).traceSpans then
      let span : Span := ⟨(← Action.get).spans, x⟩
      Action.modify fun w s => { s.record w (.span .created span) with spans := s.spans + 1 }
      return some span
    else return none

/-- Records what happens to a span, if there is one. -/
def Span.mark (phase : SpanPhase) : Option Span → Action ρ Unit
  | none => return ()
  | some span => Action.modify fun w s => s.record w (.span phase span)

/-- A scope that carries a task from poll to poll, and the span of the polls. -/
structure Carrier where
  scope : Scope
  span : Option Span
  deriving DecidableEq

namespace Carrier

variable {ρ : Type}

/-- The carrier with that scope. -/
def create (scope : Scope) : Action ρ Carrier := do
  return ⟨scope, ← Span.create? scope.captured⟩

/-- A carrier as a hook: the span is entered before the scope is resumed, and exited after it is
suspended. -/
def hook : Hook ρ Carrier where
  resume c := do
    Span.mark .entered c.span
    let (scope, turned) ← Hook.scope.resume c.scope
    match turned with
    | .returned () => return ({ c with scope }, .returned ())
    | .unwound p =>
      Span.mark .exited c.span
      return ({ c with scope }, .unwound p)
  suspend c := do
    let (scope, turned) ← Hook.scope.suspend c.scope
    Span.mark .exited c.span
    return ({ c with scope }, turned)

end Carrier

/-- A task over futures `κ` of the client. -/
inductive Task (κ : Type) where
  /-- A future of the client. -/
  | plain (future : κ)
  /-- A task that is carried by a scope. -/
  | carried (carrier : Carrier) (inner : Task κ)
  /-- A transactional call that was not polled yet. -/
  | fresh (template : Template) (info : CallInfo) (business : Task κ)
  /-- A transactional call that takes part in a transaction, and carries its business. -/
  | called (part : Part) (carrier : Carrier) (business : Task κ)
  /-- A transactional call that ended. -/
  | ended

/-- A task after a poll, and how the poll ended. -/
abbrev Polled (κ α : Type) := Task κ × Fate (Progress α)

namespace Task

variable {ρ κ α : Type}

/-- The task carried by a scope. -/
def carry (scope : Scope) (inner : Task κ) : Action ρ (Task κ) := do
  return .carried (← Carrier.create scope) inner

/-- The scope that carries a task. -/
def scope? : Task κ → Option Scope
  | .carried carrier _ => some carrier.scope
  | _ => none

/-- Whether there is a transactional call in the task. -/
def hasCall : Task κ → Bool
  | .plain _ => false
  | .carried _ inner => inner.hasCall
  | .fresh _ _ _ | .called _ _ _ | .ended => true

/-- Drops a task. A launcher that was not completed rolls back, after the tasks inside it did. -/
def drop : Task κ → Action ρ Unit
  | .plain _ | .ended => return ()
  | .carried _ inner => drop inner
  | .fresh _ _ business => drop business
  | .called part _ business => (drop business).ensuring part.abandon

/-- The end of a call whose business ended so, after the business was dropped. -/
def endWith (fate : Fate (Progress α)) (dropped : Action ρ Unit) : Action ρ (Polled κ α) := do
  let after ← dropped.attempt
  return (.ended, ← Action.settle fate after)

/-- What a call makes of a poll of its business. -/
def afterBusiness (part : Part) (carrier : Carrier) : Polled κ α → Action ρ (Polled κ α)
  | (business, .returned .waiting) => return (.called part carrier business, .returned .waiting)
  | (_, .returned (.ready outcome)) => do
    let fate ← (part.complete outcome).attempt
    return (.ended, fate.map fun o => .ready (o.mapError .call))
  | (business, .unwound p) => endWith (.unwound p) (business.drop.ensuring part.abandon)

/-- Polls the business of a call with its carrier resumed. -/
def pollCalled (part : Part) (carrier : Carrier) (business : Task κ)
    (poll : Action ρ (Polled κ α)) : Action ρ (Polled κ α) := do
  let (carrier, polled) ← Carrier.hook.around carrier business poll
  afterBusiness part carrier polled

/-- The first poll of a transactional call, given the poll of its business. -/
def pollFresh (t : Template) (info : CallInfo) (business : Task κ)
    (poll : Action ρ (Polled κ α)) : Action ρ (Polled κ α) := do
  match ← (t.start info).attempt with
  | .unwound p => endWith (.unwound p) business.drop
  | .returned (.error e) => endWith (.returned (.ready (.error (.call e)))) business.drop
  | .returned (.ok part) =>
    pollCalled part (← Carrier.create (Scope.carrying (some part.xid))) business poll

/-- Polls a task on this worker, given how to poll a future of the client. -/
def poll (run : κ → Action ρ (κ × Fate (Progress α))) : Task κ → Action ρ (Polled κ α)
  | .plain future => do
    let (future, fate) ← run future
    return (.plain future, fate)
  | .carried carrier inner => do
    let (carrier, inner, fate) ← Carrier.hook.around carrier inner (poll run inner)
    return (.carried carrier inner, fate)
  | .fresh t info business => pollFresh t info business (poll run business)
  | .called part carrier business => pollCalled part carrier business (poll run business)
  | .ended => return (.ended, .unwound ⟨"task polled after it ended"⟩)

/-- How often a task is polled before it waits for good, given that of the future inside. -/
def stays (count : κ → Nat) : Task κ → Nat
  | .plain future => count future
  | .carried _ inner => inner.stays count
  | .fresh _ _ business | .called _ _ business => business.stays count
  | .ended => 1

/-- Polls a task up to `n` times, until it is ready or unwinds. -/
def pollUpTo (run : κ → Action ρ (κ × Fate (Progress α))) : Nat → Task κ → Action ρ (Polled κ α)
  | 0, t => return (t, .returned .waiting)
  | n + 1, t => do
    match ← t.poll run with
    | (t, .returned .waiting) => pollUpTo run n t
    | polled => return polled

end Task
end AmbientTx
