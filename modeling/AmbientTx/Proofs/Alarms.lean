import AmbientTx.Proofs.Lives
import AmbientTx.Proofs.Passage

/-! # What alarms tell

The alarms that a call raises itself, over its whole life, tell the outcome of its launch: there is
one exactly if a manager refused one of the calls that the call made or answered it with a status
that is not the one to expect, or if the business of a launcher unwound, was dropped unfinished, or
ended a synchronous call with another transaction bound. There is an error among them exactly if a
rollback was refused. A call that joined raises none.
-/

namespace AmbientTx

variable {ρ κ α ε : Type} {w : Worker} {s t : World ρ}

open World AmbientTx.Action

/-- Without a call and without anything odd there is no alarm. -/
theorem Trail.Explains.quiet {own : Trail} {odd : Prop} (explains : own.Explains odd)
    (uncalled : own.calls = []) (fine : ¬ odd) : own.alarms = [] := by
  by_contra raised
  obtain ⟨c, mem, -⟩ | wrong := explains.alarm.1 raised
  · rw [uncalled] at mem
    cases mem
  · exact fine wrong

/-- A synchronous call that joined raises no alarm. -/
theorem Template.Passes.quiet {template : Template} {info : CallInfo}
    {business : Action ρ (Except ε α)} {e : Ended ρ ε α} {own : Trail} {x : Xid}
    (passes : template.Passes info business w s t (some e) own) (joined : e.part = .joined x) :
    own.alarms = [] := by
  obtain ⟨request, answer, calls⟩ := passes.calls
  rw [joined] at calls
  refine passes.explains.quiet calls ?_
  rintro ⟨e', same, l, launched, -⟩
  cases same
  cases joined.symm.trans launched

namespace Task

variable {destructor : κ → Action ρ Unit} {run : κ → Action ρ (κ × Fate (Progress α))}
  {template : Template} {info : CallInfo} {business : Task κ} {visits : List (Visit ρ)}
  {stage : Stage κ α} {own : Trail}

/-- The part of a call in a transaction, if it has or had one. -/
def Stage.part? : Stage κ α → Option Part
  | .pending part _ _ | .settled part _ => some part
  | .made _ | .refused => none

/-- A call that joined makes no calls. -/
theorem Stage.Calls.of_joined {calls : List Call} {x : Xid} (made : stage.Calls calls)
    (joined : stage.part? = some (.joined x)) : calls = [] := by
  cases stage with
  | made business => exact made
  | refused => cases joined
  | pending part span business =>
    cases joined
    obtain ⟨request, rfl⟩ := made
    rfl
  | settled part fate =>
    cases joined
    obtain ⟨request, bound, answer, rfl⟩ := made
    rfl

/-- Neither does it make any when it is dropped. -/
theorem Drops.uncalled {x : Xid} (drops : Drops destructor w s t stage own)
    (joined : stage.part? = some (.joined x)) : own.calls = [] := by
  cases drops with
  | @pending part _ _ _ _ u _ dropped abandoned grown =>
    cases joined
    obtain ⟨answer, closed⟩ := Part.abandon_calls _ abandoned
    exact calls_of_trail grown closed
  | idle idle dropped => rfl

/-- So it raises no alarm in its polls. -/
theorem Lives.quiet {x : Xid}
    (lives : Lives destructor run template info business visits stage own)
    (joined : stage.part? = some (.joined x)) : own.alarms = [] := by
  refine lives.explains.quiet (lives.calls.of_joined joined) ?_
  rintro ⟨l, p, rfl⟩
  cases joined

/-- Nor does it when it is dropped. -/
theorem Drops.quiet {x : Xid} (drops : Drops destructor w s t stage own)
    (joined : stage.part? = some (.joined x)) : own.alarms = [] := by
  refine drops.explains.quiet (drops.uncalled joined) ?_
  rintro ⟨l, span, left, rfl⟩
  cases joined

end Task

/-- The alarms that a call raises itself tell the outcome of its launch, whether the call is
synchronous or polled any number of times on any workers, and dropped or not. -/
theorem alarms_tell_outcome :
    (∀ (ρ ε α : Type) (template : Template) (info : CallInfo) (business : Action ρ (Except ε α))
      (w : Worker) (s : World ρ),
      template.AlwaysPasses info business w s ∧
      ∀ s' ended own, template.Passes info business w s s' ended own →
        own.Explains (∃ e l, ended = some e ∧ e.part = .launched l ∧
          ((∃ p, e.fate = .unwound p) ∨ ∃ x, e.world.bound w = some x ∧ x ≠ l.xid)) ∧
        ∀ e x, ended = some e → e.part = .joined x → own.alarms = []) ∧
    (∀ (ρ κ α : Type) (destructor : κ → Action ρ Unit)
      (run : κ → Action ρ (κ × Fate (Progress α))) (template : Template) (info : CallInfo)
      (business : Task κ),
      Task.AlwaysLives destructor run template info business ∧
      ∀ visits (stage : Task.Stage κ α) own,
        Task.Lives destructor run template info business visits stage own →
          own.Explains (∃ l p, stage = .settled (.launched l) (.unwound p)) ∧
          (∀ w s t last, Task.Drops destructor w s t stage last →
            (own ++ last).Explains (∃ l, (∃ p, stage = .settled (.launched l) (.unwound p)) ∨
              ∃ span left, stage = .pending (.launched l) span left)) ∧
          ∀ x, stage.part? = some (.joined x) → own.alarms = [] ∧
            ∀ w s t last, Task.Drops destructor w s t stage last → (own ++ last).alarms = []) := by
  refine ⟨?_, ?_⟩
  · intro ρ ε α template info business w s
    refine ⟨template.alwaysPasses info business w s, ?_⟩
    intro s' ended own passes
    refine ⟨passes.explains.of_iff ?_, ?_⟩
    · constructor
      · rintro ⟨e, same, l, launched, odd⟩
        exact ⟨e, l, same, launched, odd⟩
      · rintro ⟨e, l, same, launched, odd⟩
        exact ⟨e, same, l, launched, odd⟩
    · rintro e x rfl joined
      exact passes.quiet joined
  · intro ρ κ α destructor run template info business
    refine ⟨Task.alwaysLives destructor run template info business, ?_⟩
    intro visits stage own lives
    have explains := lives.explains
    refine ⟨explains, ?_, ?_⟩
    · intro w s t last drops
      refine (explains.append drops.explains).of_iff ?_
      constructor
      · rintro (⟨l, odd⟩ | ⟨l, left⟩)
        · exact ⟨l, .inl odd⟩
        · exact ⟨l, .inr left⟩
      · rintro ⟨l, odd | left⟩
        · exact .inl ⟨l, odd⟩
        · exact .inr ⟨l, left⟩
    · intro x joined
      have quiet := lives.quiet joined
      refine ⟨quiet, ?_⟩
      intro w s t last drops
      rw [Trail.alarms_append, quiet, drops.quiet joined]
      rfl

/-- A launcher is dropped on another worker than that of its only poll, and there is an alarm. -/
theorem alarms_tell_outcome_of_drop :
    let future : Unit → Action Unit (Unit × Fate (Progress Nat)) :=
      fun _ => return ((), .returned .waiting)
    ∃ (visits : List (Visit Unit)) (stage : Task.Stage Unit Nat) (own last : Trail)
      (s t : World Unit), visits ≠ [] ∧
      Task.Lives (fun _ => return ()) future { manager := some "m" } {} (.plain ()) visits stage
        own ∧
      Task.Drops (fun _ => return ()) (.named "b") s t stage last ∧ (own ++ last).alarms ≠ [] := by
  intro future
  obtain ⟨alive, telling⟩ := alarms_tell_outcome.2 Unit Unit Nat (fun _ => return ()) future
    { manager := some "m" } {} (.plain ())
  obtain ⟨stage, own, lives, same, ends⟩ := alive [⟨.main, { rest := () }, _⟩] _ (.snoc .none rfl)
  obtain ⟨span, rfl⟩ := Task.Stage.pending_of_called same.symm
  obtain ⟨-, ⟨h, stuck⟩ | ⟨t, last, drops, -⟩⟩ := ends (.named "b") { rest := () }
  · cases stuck
  · refine ⟨_, _, own, last, { rest := () }, t, by simp, lives, drops, ?_⟩
    obtain ⟨-, dropped, -⟩ := telling _ _ _ lives
    exact (dropped _ _ _ _ drops).alarm.2 (.inr ⟨_, .inr ⟨span, _, rfl⟩⟩)

end AmbientTx
