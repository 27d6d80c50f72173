import Mathlib.Data.List.Forall2
import AmbientTx.Proofs.Completion
import AmbientTx.Proofs.Course

/-! # Futures with destructors

`Task.drop` and `Task.poll` are for futures that do nothing when they are dropped. A client may have
futures that do: here are both for futures with any destructor, and they are the same if the
destructor does nothing (`Task.dropWith_of_trivial`, `Task.pollWith_of_trivial`).

Dropping a task runs the destructor of the future inside and then rolls back what the calls in the
task launched, from the inside (`Task.dropWith_run`). This needs managers that return from rollbacks
(`World.RollbacksReturn`).
-/

namespace AmbientTx

variable {ρ κ α : Type} {w : Worker} {s t u : World ρ}

open World AmbientTx.Action

/-! ## Tasks over such futures -/

namespace Task

/-- Runs the destructor of the future inside a task. -/
def destroy (destructor : κ → Action ρ Unit) : Task κ → Action ρ Unit
  | .plain future => destructor future
  | .carried _ inner => inner.destroy destructor
  | .fresh _ _ business | .called _ _ business => business.destroy destructor
  | .ended => return ()

/-- Drops a task, the future inside first. -/
def dropWith (destructor : κ → Action ρ Unit) : Task κ → Action ρ Unit
  | .plain future => destructor future
  | .carried _ inner => inner.dropWith destructor
  | .fresh _ _ business => business.dropWith destructor
  | .called part _ business => (business.dropWith destructor).ensuring part.abandon
  | .ended => return ()

/-- What a call makes of a poll of its business, which is gone afterwards unless it waits. If its
destructor panics, the business did not return. -/
def afterBusinessWith (destructor : κ → Action ρ Unit) (part : Part) (carrier : Carrier) :
    Polled κ α → Action ρ (Polled κ α)
  | (business, .returned .waiting) => return (.called part carrier business, .returned .waiting)
  | (business, .returned (.ready outcome)) => do
    match ← (business.destroy destructor).attempt with
    | .returned () => do
      let fate ← (part.complete outcome).attempt
      return (.ended, fate.map fun o => .ready (o.mapError .call))
    | .unwound p => endWith (.unwound p) part.abandon
  | (business, .unwound p) =>
    endWith (.unwound p) ((business.dropWith destructor).ensuring part.abandon)

/-- Polls the business of a call with its carrier resumed. -/
def pollCalledWith (destructor : κ → Action ρ Unit) (part : Part) (carrier : Carrier)
    (business : Task κ) (poll : Action ρ (Polled κ α)) : Action ρ (Polled κ α) := do
  let (carrier, polled) ← Carrier.hook.around carrier business poll
  afterBusinessWith destructor part carrier polled

/-- The first poll of a transactional call, given the poll of its business. -/
def pollFreshWith (destructor : κ → Action ρ Unit) (t : Template) (info : CallInfo)
    (business : Task κ) (poll : Action ρ (Polled κ α)) : Action ρ (Polled κ α) := do
  match ← (t.start info).attempt with
  | .unwound p => endWith (.unwound p) (business.dropWith destructor)
  | .returned (.error e) =>
    endWith (.returned (.ready (.error (.call e)))) (business.dropWith destructor)
  | .returned (.ok part) =>
    pollCalledWith destructor part (← Carrier.create (Scope.carrying (some part.xid))) business
      poll

/-- Polls a task on this worker, given how to poll and to destroy a future of the client. -/
def pollWith (destructor : κ → Action ρ Unit) (run : κ → Action ρ (κ × Fate (Progress α))) :
    Task κ → Action ρ (Polled κ α)
  | .plain future => do
    let (future, fate) ← run future
    return (.plain future, fate)
  | .carried carrier inner => do
    let (carrier, inner, fate) ← Carrier.hook.around carrier inner (inner.pollWith destructor run)
    return (.carried carrier inner, fate)
  | .fresh t info business =>
    pollFreshWith destructor t info business (business.pollWith destructor run)
  | .called part carrier business =>
    pollCalledWith destructor part carrier business (business.pollWith destructor run)
  | .ended => return (.ended, .unwound ⟨"task polled after it ended"⟩)

theorem destroy_of_trivial (t : Task κ) : t.destroy (fun _ => (return () : Action ρ Unit)) =
    return () := by
  induction t with
  | plain future => rfl
  | carried carrier inner ih => exact ih
  | fresh t info business ih => exact ih
  | called part carrier business ih => exact ih
  | ended => rfl

/-- With a destructor that does nothing, a task is dropped as ever. -/
theorem dropWith_of_trivial (t : Task κ) :
    t.dropWith (fun _ => (return () : Action ρ Unit)) = t.drop := by
  induction t with
  | plain future => rfl
  | carried carrier inner ih => exact ih
  | fresh t info business ih => exact ih
  | called part carrier business ih => rw [dropWith, ih, drop]
  | ended => rfl

theorem afterBusinessWith_of_trivial (part : Part) (carrier : Carrier) (polled : Polled κ α) :
    afterBusinessWith (fun _ => (return () : Action ρ Unit)) part carrier polled =
      afterBusiness part carrier polled := by
  obtain ⟨business, (_ | outcome) | p⟩ := polled
  · rfl
  · simp only [afterBusinessWith, destroy_of_trivial]
    rfl
  · simp only [afterBusinessWith, dropWith_of_trivial]
    rfl

/-- With a destructor that does nothing, a task is polled as ever. -/
theorem pollWith_of_trivial (run : κ → Action ρ (κ × Fate (Progress α))) (t : Task κ) :
    t.pollWith (fun _ => return ()) run = t.poll run := by
  have called (part : Part) (carrier : Carrier) (business : Task κ)
      (poll : Action ρ (Polled κ α)) :
      pollCalledWith (fun _ => return ()) part carrier business poll =
        pollCalled part carrier business poll := by
    simp only [pollCalledWith, pollCalled, afterBusinessWith_of_trivial]
  induction t with
  | plain future => rfl
  | carried carrier inner ih => rw [pollWith, ih, poll]
  | fresh t info business ih =>
    simp only [pollWith, pollFreshWith, ih, dropWith_of_trivial, called]
    rfl
  | called part carrier business ih => rw [pollWith, ih, called, poll]
  | ended => rfl

end Task

/-! ## Destructors that write to no slot -/

namespace World

/-- No slot changed. -/
def SameSlots (_ : Worker) (s t : World ρ) : Prop :=
  t.slots = s.slots

theorem sameSlots_repeats : Repeats (SameSlots (ρ := ρ)) where
  refl _ _ := rfl
  trans h k := k.trans h

theorem SameSlots.bound (h : SameSlots w s t) (v : Worker) : t.bound v = s.bound v := by
  rw [World.bound, World.bound, slot, slot, h]

end World

namespace Task

variable {destructor : κ → Action ρ Unit}

theorem destroy_sameSlots (spares : ∀ future, Keeps SameSlots (destructor future)) (t : Task κ) :
    Keeps SameSlots (t.destroy destructor) := by
  induction t with
  | plain future => exact spares future
  | carried carrier inner ih => exact ih
  | fresh t info business ih => exact ih
  | called part carrier business ih => exact ih
  | ended => exact Keeps.pure sameSlots_repeats ()

theorem dropWith_sameSlots (spares : ∀ future, Keeps SameSlots (destructor future)) (t : Task κ) :
    Keeps SameSlots (t.dropWith destructor) := by
  induction t with
  | plain future => exact spares future
  | carried carrier inner ih => exact ih
  | fresh t info business ih => exact ih
  | called part carrier business ih =>
    exact Keeps.ensuring sameSlots_repeats ih (part.abandon_silent.mono Silent.slots)
  | ended => exact Keeps.pure sameSlots_repeats ()

end Task

/-! ## Dropping a task -/

namespace World

/-- No manager will panic when it is asked to roll back. -/
def RollbacksReturn (s : World ρ) : Prop :=
  ∀ m, ∀ answer ∈ (s.managers m).rollbacks.next :: (s.managers m).rollbacks.later,
    ∀ p, answer ≠ .panicked p

/-- These transactions were rolled back, in this order; nothing else but events was recorded. -/
inductive RolledBack (w : Worker) : List Launch → World ρ → World ρ → Prop where
  | nil (s : World ρ) : RolledBack w [] s s
  | snoc {ls : List Launch} {l : Launch} {s t u : World ρ} (rest : RolledBack w ls s t)
      (closed : Closed w l false t u) : RolledBack w (ls ++ [l]) s u

theorem rolledBack_one {l : Launch} (closed : Closed w l false s t) : RolledBack w [l] s t :=
  .snoc (.nil s) closed

theorem RolledBack.append {ls ls' : List Launch} (first : RolledBack w ls s t)
    (later : RolledBack w ls' t u) : RolledBack w (ls ++ ls') s u := by
  induction later with
  | nil t => rwa [List.append_nil]
  | snoc rest closed ih =>
    rw [← List.append_assoc]
    exact .snoc (ih first) closed

theorem RolledBack.silent {ls : List Launch} (h : RolledBack w ls s t) : Silent w s t := by
  induction h with
  | nil s => exact silent_repeats.refl w s
  | snoc rest closed ih => exact silent_repeats.trans ih closed.silent

/-- A call that asks a manager to roll back this launch, with `bound` bound. -/
def RollsBack (bound : Option Xid) (c : Call) (l : Launch) : Prop :=
  ∃ answer, c = ⟨l.manager, bound, .rollback l.xid answer⟩

/-- The calls are those rollbacks, and what is bound stays bound for all of them. -/
theorem RolledBack.calls {ls : List Launch} (h : RolledBack w ls s t) :
    ∃ cs, t.calls = s.calls ++ cs ∧ List.Forall₂ (RollsBack (s.bound w)) cs ls := by
  induction h with
  | nil s => exact ⟨[], (List.append_nil _).symm, .nil⟩
  | snoc rest closed ih =>
    obtain ⟨cs, grown, each⟩ := ih
    have last := closed.calls
    rw [grown, List.append_assoc, rest.silent.bound w] at last
    exact ⟨_, last, List.rel_append each (.cons ⟨_, rfl⟩ .nil)⟩

/-- Answers that will not be panics are still so after one of them was given. -/
theorem RollbacksReturn.of_closed {l : Launch} (returns : s.RollbacksReturn)
    (closed : Closed w l false s t) : t.RollbacksReturn := by
  intro m answer mem p
  simp only [closed.managers, setManager, Manager.closed] at mem
  split at mem
  · next same =>
    subst same
    apply returns l.manager answer
    revert mem
    simp only [Bool.false_eq_true, if_false, Answers.advance]
    cases later : (s.managers l.manager).rollbacks.later with
    | nil => simp [later]
    | cons b bs =>
      intro mem
      exact List.mem_cons_of_mem _ mem
  · exact returns m answer mem p

theorem RollbacksReturn.closing (returns : s.RollbacksReturn) (m : ManagerName) :
    ∃ a, ((s.managers m).closing false).fate = .returned a := by
  have calm := returns m _ List.mem_cons_self
  show ∃ a, (s.managers m).rollbacks.next.fate = .returned a
  cases next : (s.managers m).rollbacks.next with
  | granted status => exact ⟨_, rfl⟩
  | refused failure => exact ⟨_, rfl⟩
  | panicked p => exact absurd next (calm p)

end World

/-- A destructor that comes to an end, writes to no slot, and leaves managers that return from
rollbacks. It may call managers, log and panic. -/
def Harmless (destructor : κ → Action ρ Unit) : Prop :=
  ∀ future w s, s.RollbacksReturn →
    ∃ r, destructor future w s = .ok r ∧ r.world.slots = s.slots ∧ r.world.RollbacksReturn

theorem Part.abandon_returns (part : Part) (w : Worker) (returns : s.RollbacksReturn) :
    ∃ t, part.abandon w s = .ok ⟨.returned (), t⟩ ∧ RolledBack w part.launches s t ∧
      t.RollbacksReturn := by
  cases part with
  | joined x => exact ⟨s, rfl, .nil s, returns⟩
  | launched l =>
    obtain ⟨t, ran, closed⟩ := l.abandon_run w s
    obtain ⟨a, returned⟩ := returns.closing l.manager
    rw [returned] at ran
    exact ⟨t, ran, rolledBack_one closed, returns.of_closed closed⟩

/-- Dropping a task runs the destructor of the future inside, and then rolls back what the calls in
the task launched, the innermost first. It ends as the destructor does. -/
theorem Task.dropWith_run {destructor : κ → Action ρ Unit} (harmless : Harmless destructor)
    (task : Task κ) (w : Worker) (returns : s.RollbacksReturn) :
    ∃ fate u t, task.destroy destructor w s = .ok ⟨fate, u⟩ ∧ u.slots = s.slots ∧
      RolledBack w task.launches u t ∧ task.dropWith destructor w s = .ok ⟨fate, t⟩ ∧
      t.RollbacksReturn := by
  induction task with
  | plain future =>
    obtain ⟨⟨fate, u⟩, ran, slots, kept⟩ := harmless future w s returns
    exact ⟨fate, u, u, ran, slots, .nil u, ran, kept⟩
  | carried carrier inner ih => exact ih
  | fresh template info business ih => exact ih
  | called part carrier business ih =>
    obtain ⟨fate, u, t, ran, slots, rolledBack, dropped, kept⟩ := ih
    obtain ⟨t', abandoned, last, kept'⟩ := part.abandon_returns w kept
    exact ⟨fate, u, t', ran, slots, rolledBack.append last,
      ensuring_of_returned dropped abandoned, kept'⟩
  | ended => exact ⟨_, s, s, rfl, rfl, .nil s, rfl, returns⟩

end AmbientTx
