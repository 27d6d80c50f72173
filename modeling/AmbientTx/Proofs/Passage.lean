import AmbientTx.Proofs.Reports
import AmbientTx.Proofs.Trail

/-! # What a synchronous call does

A synchronous call runs once: it gets no part in a transaction, or it runs its business and leaves
the transaction again (`Template.Passes`). The trail that it leaves itself is that of its start and
that of its end. In a launcher whose business returned, the end is to complete and then to unbind;
if the business unwound, it is to unbind and then to roll back (`Part.Leaves`).

A run that halts got as far as into the business, or it was aborted by the panic of that rollback
(`Template.execute_halts`).
-/

namespace AmbientTx

variable {ρ α ε : Type} {w : Worker} {s s' t v : World ρ}

open World AmbientTx.Action

/-! ## The end of a call -/

/-- The end of a call from the world in which its business ended, and the trail of it. -/
inductive Part.Leaves (w : Worker) (v s' : World ρ) :
    Part → Fate (Except ε α) → Trail → Prop where
  /-- What it joined is left alone. -/
  | joined {x : Xid} {fate : Fate (Except ε α)} (same : s' = v) : Leaves w v s' (.joined x) fate {}
  | returned {l : Launch} {outcome : Except ε α} {fate : Fate (Except (CallError ε) α)}
      {d : World ρ} {before after : Trail} (completed : l.complete outcome w v = .ok ⟨fate, d⟩)
      (told : d.trail = v.trail ++ before) (released : l.release w d = .ok ⟨.returned (), s'⟩)
      (grown : s'.trail = d.trail ++ after) :
      Leaves w v s' (.launched l) (.returned outcome) (before ++ after)
  | unwound {l : Launch} {p : Panic} {fate : Fate Unit} {d : World ρ} {before after : Trail}
      (released : l.release w v = .ok ⟨.returned (), d⟩) (told : d.trail = v.trail ++ before)
      (abandoned : l.abandon w d = .ok ⟨fate, s'⟩) (grown : s'.trail = d.trail ++ after) :
      Leaves w v s' (.launched l) (.unwound p) (before ++ after)

/-- What is bound when the end of a call closes its transaction. -/
def Fate.boundAfter (fate : Fate (Except ε α)) (w : Worker) (v : World ρ) : Option Xid :=
  match fate with
  | .returned _ => v.bound w
  | .unwound _ => none

namespace Part

variable {part : Part} {fate : Fate (Except ε α)} {own : Trail}

theorem Leaves.calls (leaves : part.Leaves w v s' fate own) :
    ∃ answer, own.calls = part.closing (fate.boundAfter w v) fate.succeeded answer := by
  cases leaves with
  | joined same => exact ⟨.granted .finished, rfl⟩
  | @returned l outcome _ d before after completed told released grown =>
    obtain ⟨answer, closed⟩ := complete_calls (.launched l) completed
    obtain ⟨quiet, t, released', grown', none, -⟩ := l.release_explained w d
    cases released.symm.trans released'
    obtain rfl := Trail.append_left_cancel (grown.symm.trans grown')
    refine ⟨answer, ?_⟩
    rw [Trail.calls_append, calls_of_trail told closed, none, List.append_nil]
    rfl
  | @unwound l p _ d before after released told abandoned grown =>
    obtain ⟨answer, closed⟩ := abandon_calls (.launched l) abandoned
    obtain ⟨quiet, t, released', grown', none, -⟩ := l.release_explained w v
    cases released.symm.trans released'
    obtain rfl := Trail.append_left_cancel (told.symm.trans grown')
    obtain ⟨t, unbound, -, slot⟩ := l.release_run w v
    cases released.symm.trans unbound
    have nothing : d.bound w = .none := congrArg Slot.xid slot
    rw [nothing] at closed
    refine ⟨answer, ?_⟩
    rw [Trail.calls_append, calls_of_trail grown closed, none, List.nil_append]
    rfl

/-- What is odd about the end of a call: the business of a launcher unwound, or it left another
transaction bound. -/
def Odd (part : Part) (fate : Fate (Except ε α)) (w : Worker) (v : World ρ) : Prop :=
  ∃ l, part = .launched l ∧ ((∃ p, fate = .unwound p) ∨ ∃ x, v.bound w = some x ∧ x ≠ l.xid)

theorem Leaves.explains (leaves : part.Leaves w v s' fate own) :
    own.Explains (part.Odd fate w v) := by
  cases leaves with
  | joined same => exact Trail.explains_empty.of_iff (by simp [Odd])
  | @returned l outcome _ d before after completed told released grown =>
    have completing := Explained.of_grown (l.complete_explained outcome completed) told
    obtain ⟨quiet, t, released', grown', -, releasing⟩ := l.release_explained w d
    cases released.symm.trans released'
    obtain rfl := Trail.append_left_cancel (grown.symm.trans grown')
    rw [(l.complete_silent outcome completed).bound w] at releasing
    exact (completing.append releasing).of_iff (by simp [Odd])
  | @unwound l p _ d before after released told abandoned grown =>
    have abandoning := Explained.of_grown (l.abandon_explained abandoned) grown
    obtain ⟨quiet, t, released', grown', -, releasing⟩ := l.release_explained w v
    cases released.symm.trans released'
    obtain rfl := Trail.append_left_cancel (told.symm.trans grown')
    exact (releasing.append abandoning).of_iff (by simp [Odd])

/-- The end of a call, whether it comes to an end or is aborted by the panic of its rollback. -/
theorem leave_leaves (part : Part) (fate : Fate (Except ε α)) (w : Worker) (v : World ρ) :
    ∃ s' own, part.Leaves w v s' fate own ∧
      ((∃ fate', part.leave fate w v = .ok ⟨fate', s'⟩) ∨
        part.leave fate w v = .error .aborted) := by
  cases part with
  | joined x => exact ⟨v, {}, .joined rfl, .inl ⟨_, leave_joined x fate w v⟩⟩
  | launched l =>
    cases fate with
    | returned outcome =>
      obtain ⟨d, completed, -⟩ := l.complete_run outcome w v
      obtain ⟨before, told, -⟩ := l.complete_explained outcome completed
      obtain ⟨after, s', released, grown, -⟩ := l.release_explained w d
      have left : (launched l).leave (.returned outcome) w v = .ok ⟨_, s'⟩ :=
        ensuring_of_returned completed released
      exact ⟨s', _, .returned completed told released grown, .inl ⟨_, left⟩⟩
    | unwound p =>
      obtain ⟨before, d, released, told, -⟩ := l.release_explained w v
      obtain ⟨s', abandoned, -⟩ := l.abandon_run w d
      obtain ⟨after, grown, -⟩ := l.abandon_explained abandoned
      refine ⟨s', _, .unwound released told abandoned grown, ?_⟩
      have panicked : (Action.panic p : Action ρ (Except (CallError ε) α)) w v =
        .ok ⟨.unwound p, v⟩ := rfl
      have cleaned := (bind_of_returned released fun _ => l.abandon).trans abandoned
      exact ensuring_ends panicked cleaned

end Part

/-! ## The whole call -/

/-- How the business of a call ran: the part of the call, the world in which the business began, how
it ended, and the world then. -/
structure Ended (ρ ε α : Type) where
  part : Part
  start : World ρ
  fate : Fate (Except ε α)
  world : World ρ

namespace Template

variable {template : Template} {info : CallInfo} {business : Action ρ (Except ε α)}
  {ended : Option (Ended ρ ε α)} {own : Trail}

/-- A synchronous call leads from `s` to `s'`; its business ended so, if it ran, and the call itself
leaves a trail. -/
inductive Passes (template : Template) (info : CallInfo) (business : Action ρ (Except ε α))
    (w : Worker) (s s' : World ρ) : Option (Ended ρ ε α) → Trail → Prop where
  /-- The call gets no part in a transaction, and would do the same with any other business. -/
  | refuses {fate : Fate (Except (CallError ε) Part)} {own : Trail}
      (started : template.start info w s = .ok ⟨fate, s'⟩)
      (refused : ∀ part, fate ≠ .returned (.ok part)) (grown : s'.trail = s.trail ++ own)
      (unrun : ∃ fate, ∀ other : Action ρ (Except ε α),
        template.execute info other w s = .ok ⟨fate, s'⟩) :
      Passes template info business w s s' none own
  /-- The business runs in the world `u`, where any other code would at its place, and ends in
  `v`. -/
  | runs {part : Part} {fate : Fate (Except ε α)} {t u v : World ρ} {before after : Trail}
      (started : (template.start info : Action ρ (Except (CallError ε) Part)) w s =
        .ok ⟨.returned (.ok part), t⟩)
      (told : t.trail = s.trail ++ before) (entered : Plain w t u)
      (bound : w.hasSlot → u.bound w = some part.xid)
      (once : RunsOnce (template.execute (ε := ε) (α := α) info) w s u)
      (ran : business w u = .ok ⟨fate, v⟩) (leaves : part.Leaves w v s' fate after) :
      Passes template info business w s s' (some ⟨part, u, fate, v⟩) (before ++ after)

/-- How a call begins: it gets no part, or it runs its business. -/
theorem execute_cases (template : Template) (info : CallInfo) (w : Worker) (s : World ρ) :
    (∃ (fate : Fate (Except (CallError ε) Part)) (fate' : Fate (Except (CallError ε) α))
        (s' : World ρ) (own : Trail), template.start info w s = .ok ⟨fate, s'⟩ ∧
        (∀ part, fate ≠ .returned (.ok part)) ∧ s'.trail = s.trail ++ own ∧
        ∀ other : Action ρ (Except ε α), template.execute info other w s = .ok ⟨fate', s'⟩) ∨
      ∃ part t before u,
        (template.start info : Action ρ (Except (CallError ε) Part)) w s =
          .ok ⟨.returned (.ok part), t⟩ ∧ t.trail = s.trail ++ before ∧ Plain w t u ∧
        (w.hasSlot → u.bound w = some part.xid) ∧ ∀ other : Action ρ (Except ε α),
          template.execute info other w s = (other.attempt >>= part.leave) w u := by
  obtain ⟨fate, t, started, starts⟩ := template.start_run (ε := ε) info w s
  obtain ⟨own, grown, -⟩ := template.start_explained info started
  rcases fate with (e | part) | p
  · exact .inl ⟨_, _, t, own, started, nofun, grown, execute_of_refused started⟩
  · have joined (x : Xid) (same : part = .joined x) : t.bound w = some x := by
      rw [starts.silent.bound, starts.found, same]
      rfl
    obtain ⟨u, bound, -, slot⟩ := part.bind_run w t joined
    have plain : Plain w t u := part.bind_plain.keeps bound
    exact .inr ⟨part, t, own, u, started, grown, plain,
      fun hasSlot => congrArg Slot.xid (slot hasSlot), execute_of_part started bound⟩
  · exact .inl ⟨_, _, t, own, started, nofun, grown, execute_of_unwound started⟩

/-- Every run of a call that comes to an end is such a passage. -/
theorem execute_passes {r : Ran ρ (Except (CallError ε) α)}
    (ran : template.execute info business w s = .ok r) :
    ∃ ended own, Passes template info business w s r.world ended own := by
  obtain ⟨fate, fate', t, own, started, refused, grown, same⟩ |
      ⟨part, t, before, u, started, told, entered, bound, runs⟩ :=
    template.execute_cases (ε := ε) (α := α) info w s
  · cases ran.symm.trans (same business)
    exact ⟨none, own, .refuses started refused grown ⟨_, same⟩⟩
  · rw [runs] at ran
    obtain ⟨⟨fate, v⟩, ended, left⟩ := bind_attempt_eq_ok.1 ran
    obtain ⟨s', after, leaves, ⟨fate', ends⟩ | aborts⟩ := part.leave_leaves fate w v
    · cases left.symm.trans ends
      exact ⟨_, _, .runs started told entered bound ⟨part.leave, runs⟩ ended leaves⟩
    · cases left.symm.trans aborts

/-- A run of a call that halts does so in its business, or it is aborted by the panic of its
rollback and got that far. -/
theorem execute_halts {h : Halt} (halted : template.execute info business w s = .error h) :
    (∃ u, RunsOnce (template.execute (ε := ε) (α := α) info) w s u ∧ business w u = .error h) ∨
      h = .aborted ∧ ∃ s' ended own, Passes template info business w s s' (some ended) own := by
  obtain ⟨fate, fate', t, own, started, refused, grown, same⟩ |
      ⟨part, t, before, u, started, told, entered, bound, runs⟩ :=
    template.execute_cases (ε := ε) (α := α) info w s
  · cases halted.symm.trans (same business)
  · have once : RunsOnce (template.execute (ε := ε) (α := α) info) w s u := ⟨part.leave, runs⟩
    cases ran : business w u with
    | error h' =>
      rw [runs, bind_run, attempt, ran] at halted
      cases halted
      exact .inl ⟨u, once, ran⟩
    | ok r =>
      obtain ⟨fate, v⟩ := r
      rw [runs, bind_of_returned (attempt_of_ran ran)] at halted
      obtain ⟨s', after, leaves, ⟨fate', ends⟩ | aborts⟩ := part.leave_leaves fate w v
      · cases halted.symm.trans ends
      · cases halted.symm.trans aborts
        exact .inr ⟨rfl, s', _, _, .runs started told entered bound once ran leaves⟩

/-- Every run of a call is a passage, even if its rollback aborts the process, unless the run halts
in the business. -/
def AlwaysPasses (template : Template) (info : CallInfo) (business : Action ρ (Except ε α))
    (w : Worker) (s : World ρ) : Prop :=
  (∀ r, template.execute info business w s = .ok r →
    ∃ ended own, Passes template info business w s r.world ended own) ∧
  ∀ h, template.execute info business w s = .error h →
    (∃ u, RunsOnce (template.execute (ε := ε) (α := α) info) w s u ∧ business w u = .error h) ∨
      h = .aborted ∧ ∃ s' ended own, Passes template info business w s s' (some ended) own

theorem alwaysPasses (template : Template) (info : CallInfo) (business : Action ρ (Except ε α))
    (w : Worker) (s : World ρ) : AlwaysPasses template info business w s :=
  ⟨fun _ ran => execute_passes ran, fun _ halted => execute_halts halted⟩

/-- The alarms of a call follow from its calls and the end of its business. -/
theorem Passes.explains (passes : Passes template info business w s s' ended own) :
    own.Explains (∃ e, ended = some e ∧ e.part.Odd e.fate w e.world) := by
  cases passes with
  | refuses started refused grown unrun =>
    exact (Explained.of_grown (template.start_explained info started) grown).of_iff (by simp)
  | runs started told entered bound once ran leaves =>
    have starting := Explained.of_grown (template.start_explained info started) told
    exact (starting.append leaves.explains).of_iff (by simp)

/-- The calls of a call: those that got it its part, and then the one that closed it. -/
theorem Passes.calls {e : Ended ρ ε α}
    (passes : Passes template info business w s s' (some e) own) :
    ∃ request answer, own.calls = e.part.opening request ++
      e.part.closing (e.fate.boundAfter w e.world) e.fate.succeeded answer := by
  cases passes with
  | runs started told entered bound once ran leaves =>
    have opened := calls_of_trail told (Starts.of_run started).opening
    obtain ⟨answer, closed⟩ := leaves.calls
    refine ⟨template.request info s.config (s.slot w), answer, ?_⟩
    rw [Trail.calls_append, opened, closed]

/-- If a call gets this part, its business runs, and with this part. -/
theorem Passes.of_part {part : Part}
    (passes : Passes template info business w s s' ended own)
    (begun : (template.start info : Action ρ (Except (CallError ε) Part)) w s =
      .ok ⟨.returned (.ok part), t⟩) :
    ∃ e, ended = some e ∧ e.part = part ∧ business w e.start = .ok ⟨e.fate, e.world⟩ := by
  cases passes with
  | refuses started refused grown unrun =>
    cases started.symm.trans begun
    exact absurd rfl (refused part)
  | runs started told entered bound once ran leaves =>
    cases started.symm.trans begun
    exact ⟨_, rfl, rfl, ran⟩

end Template
end AmbientTx
