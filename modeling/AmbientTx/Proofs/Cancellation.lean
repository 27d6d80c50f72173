import AmbientTx.Proofs.Lives

/-! # Dropping a call

A client cancels an asynchronous call by dropping it, at any stage and on any worker. What the call
then does itself is to roll back the transaction that it launched, if its business still waits, and
nothing otherwise (`Task.Stage.unfinished`). Before that its business is dropped, so that calls
inside the business roll back first. No slot changes.
-/

namespace AmbientTx

variable {ρ κ α : Type} {w : Worker} {s t : World ρ} {destructor : κ → Action ρ Unit}

open World AmbientTx.Action

namespace Task

/-- What a call at a stage has to complete itself. -/
def Stage.unfinished : Stage κ α → List Launch
  | .pending part _ _ => part.launches
  | .made _ | .refused | .settled _ _ => []

/-- Dropping a call drops its business first, and then rolls back what the call itself launched. -/
theorem Stage.dropWith_run (harmless : Harmless destructor) (template : Template) (info : CallInfo)
    (stage : Stage κ α) (w : Worker) (returns : s.RollbacksReturn) :
    ∃ fate u t, stage.business.dropWith destructor w s = .ok ⟨fate, u⟩ ∧ u.slots = s.slots ∧
      RolledBack w stage.unfinished u t ∧
      (stage.task template info).dropWith destructor w s = .ok ⟨fate, t⟩ := by
  obtain ⟨fate, v, u, -, slots, inside, dropped, kept⟩ :=
    stage.business.dropWith_run harmless w returns
  have same : u.slots = s.slots := inside.silent.slots.trans slots
  cases stage with
  | made business => exact ⟨fate, u, u, dropped, same, .nil u, dropped⟩
  | refused => exact ⟨fate, u, u, dropped, same, .nil u, dropped⟩
  | settled part fate' => exact ⟨fate, u, u, dropped, same, .nil u, dropped⟩
  | pending part span business =>
    obtain ⟨t, abandoned, last, -⟩ := part.abandon_returns w kept
    exact ⟨fate, u, t, dropped, same, last, ensuring_of_returned dropped abandoned⟩

/-- Dropping an asynchronous call at any stage, on any worker, rolls its transaction back if and
only if its business still waits, after the business was dropped, and changes no slot. Likewise,
dropping any task runs the destructor of the future inside and then rolls back what the calls in the
task launched, the innermost first; apart from that it only logs, so it polls nothing. Dropping a
carried task changes no slot in any state, whatever managers answer. -/
theorem drop_exact {ρ κ : Type} (destructor : κ → Action ρ Unit) :
    (Harmless destructor → ∀ (α : Type) (run : κ → Action ρ (κ × Fate (Progress α)))
      (template : Template) (info : CallInfo) (business task : Task κ) (visits : List (Visit ρ)),
      Polls destructor run (.fresh template info business) visits task →
        ∃ (stage : Stage κ α) (own : Trail),
          Lives destructor run template info business visits stage own ∧
          stage.Calls own.calls ∧ task = stage.task template info ∧
          ∀ (w : Worker) (s : World ρ), s.RollbacksReturn →
            ∃ fate u t closing, stage.business.dropWith destructor w s = .ok ⟨fate, u⟩ ∧
              task.dropWith destructor w s = .ok ⟨fate, t⟩ ∧
              RolledBack w stage.unfinished u t ∧ t.calls = u.calls ++ closing ∧
              List.Forall₂ (RollsBack (s.bound w)) closing stage.unfinished ∧
              u.slots = s.slots ∧ t.slots = s.slots) ∧
    (Harmless destructor → ∀ (task : Task κ) (w : Worker) (s : World ρ), s.RollbacksReturn →
      ∃ fate u t closing, task.destroy destructor w s = .ok ⟨fate, u⟩ ∧
        task.dropWith destructor w s = .ok ⟨fate, t⟩ ∧
        RolledBack w task.launches u t ∧ t.calls = u.calls ++ closing ∧
        List.Forall₂ (RollsBack (s.bound w)) closing task.launches ∧ t.slots = s.slots) ∧
    ((∀ future, Keeps SameSlots (destructor future)) →
      ∀ (carrier : Carrier) (inner : Task κ) (w : Worker) (s : World ρ) (r : Ran ρ Unit),
        (Task.carried carrier inner).dropWith destructor w s = .ok r →
          r.world.slots = s.slots) := by
  have bound {w : Worker} {s u : World ρ} (same : u.slots = s.slots) : u.bound w = s.bound w :=
    SameSlots.bound (w := w) same w
  refine ⟨?_, ?_, ?_⟩
  · intro harmless α run template info business task visits polls
    obtain ⟨stage, own, lives, rfl⟩ := polls.lives
    refine ⟨stage, own, lives, lives.calls, rfl, ?_⟩
    intro w s returns
    obtain ⟨fate, u, t, inside, slots, last, dropped⟩ :=
      Stage.dropWith_run harmless template info stage w returns
    obtain ⟨closing, grown, each⟩ := last.calls
    rw [bound slots] at each
    exact ⟨fate, u, t, closing, inside, dropped, last, grown, each, slots,
      last.silent.slots.trans slots⟩
  · intro harmless task w s returns
    obtain ⟨fate, u, t, destroyed, slots, last, dropped, -⟩ := task.dropWith_run harmless w returns
    obtain ⟨closing, grown, each⟩ := last.calls
    rw [bound slots] at each
    exact ⟨fate, u, t, closing, destroyed, dropped, last, grown, each,
      last.silent.slots.trans slots⟩
  · intro spares carrier inner w s r dropped
    exact dropWith_sameSlots spares (.carried carrier inner) dropped

/-- A call is polled once and then dropped on another worker, which has a transaction of its own
bound. The destructor of its future panics, and the transaction is rolled back all the same. -/
theorem drop_exact_of_panic :
    ∃ (task : Task Unit) (s t : World Unit) (c : Call), s.bound (.named "b") ≠ none ∧
      task.dropWith (fun _ => Action.panic ⟨"gone"⟩) (.named "b") s =
        .ok ⟨.unwound ⟨"gone"⟩, t⟩ ∧
      t.slots = s.slots ∧ t.calls = s.calls ++ [c] ∧
      RollsBack (s.bound (.named "b")) c ⟨"m", Manager.firstXid⟩ := by
  let destructor : Unit → Action Unit Unit := fun _ => Action.panic ⟨"gone"⟩
  let future : Unit → Action Unit (Unit × Fate (Progress Nat)) :=
    fun _ => return ((), .returned .waiting)
  have harmless : Harmless destructor :=
    fun _ w s returns => ⟨⟨.unwound ⟨"gone"⟩, s⟩, rfl, rfl, returns⟩
  have polls : Polls destructor future (.fresh { manager := some "m" } {} (.plain ()))
    [⟨.main, { rest := () }, _⟩] _ := .snoc .none rfl
  obtain ⟨stage, own, -, -, same, drops⟩ :=
    (drop_exact destructor).1 harmless Nat future _ _ _ _ _ polls
  obtain ⟨span, rfl⟩ := Stage.pending_of_called same.symm
  let s : World Unit :=
    World.mapSlot { rest := () } (.named "b") fun _ => { xid := some ⟨"other", by decide⟩ }
  have returns : s.RollbacksReturn := by
    intro m answer mem p
    obtain rfl := List.mem_singleton.1 mem
    exact nofun
  obtain ⟨fate, u, t, closing, inside, dropped, -, grown, each, slots, kept⟩ :=
    drops (.named "b") s returns
  cases inside
  obtain ⟨c, rest, rolledBack, none, rfl⟩ := List.forall₂_cons_right_iff.1 each
  cases none
  exact ⟨_, s, t, c, by decide, dropped, kept, grown, rolledBack⟩

end Task
end AmbientTx
