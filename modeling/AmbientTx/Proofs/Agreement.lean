import AmbientTx.Proofs.Course
import AmbientTx.Proofs.Mirror
import AmbientTx.Proofs.Units

/-! # Calling at once and polling agree

A template runs the same business in two ways. Called at once it binds its transaction, runs the
business to the end, and unbinds. Polled it binds the transaction for each poll and puts back what
it found, and what it found is bound again when it completes. If the business leaves bound what it
finds, nobody can tell the two apart but by the log, and by what is bound while the launcher
completes its transaction.

Between two polls the worlds of the two ways differ in what is bound (`World.Apart`); during a poll
only the logs differ (`World.Alike`), which code cannot read (`Blind`).
-/

namespace AmbientTx

variable {ρ κ α β ε : Type} {w : Worker} {s t u : World ρ} {Q : ρ → ρ → Prop}

open World AmbientTx.Action

/-! ## Code that does not read the log -/

/-- Two runs halt for the same reason, or both end so that `R` relates their ends. -/
inductive Ends (R : Ran ρ α → Ran ρ β → Prop) :
    Except Halt (Ran ρ α) → Except Halt (Ran ρ β) → Prop where
  | halted (h : Halt) : Ends R (.error h) (.error h)
  | ended {r : Ran ρ α} {q : Ran ρ β} (related : R r q) : Ends R (.ok r) (.ok q)

namespace World

/-- Two worlds that differ in their events and spans only. What the program keeps is related. -/
structure Alike (Q : ρ → ρ → Prop) (s t : World ρ) : Prop where
  slot : ∀ v, t.slot v = s.slot v
  config : t.config = s.config
  installed : t.installed = s.installed
  managers : t.managers = s.managers
  calls : t.calls = s.calls
  rest : Q s.rest t.rest

/-- The same end, in worlds that are alike. -/
def SameEnd (Q : ρ → ρ → Prop) (r q : Ran ρ α) : Prop :=
  q.fate = r.fate ∧ Alike Q r.world q.world

theorem Alike.bound (h : Alike Q s t) (v : Worker) : t.bound v = s.bound v := by
  rw [World.bound, h.slot, World.bound]

end World

/-- Code that cannot tell worlds apart that are alike. -/
def Blind (Q : ρ → ρ → Prop) (x : Action ρ α) : Prop :=
  ∀ w s t, Alike Q s t → Ends (SameEnd Q) (x w s) (x w t)

namespace World

theorem Alike.mapSlot (h : Alike Q s t) (w : Worker) (f : Slot → Slot) :
    Alike Q (s.mapSlot w f) (t.mapSlot w f) := by
  have turned := turned_mapSlot w s f
  have turned' := turned_mapSlot w t f
  refine ⟨fun v => ?_, ?_, ?_, ?_, ?_, ?_⟩
  · by_cases hv : v = w
    · subst hv
      by_cases hasSlot : v.hasSlot
      · rw [slot_mapSlot_self t hasSlot, slot_mapSlot_self s hasSlot, h.slot]
      · rw [slot_of_not_hasSlot hasSlot, slot_of_not_hasSlot hasSlot]
    · rw [turned'.slot v hv, turned.slot v hv, h.slot]
  · rw [turned'.config, turned.config, h.config]
  · rw [turned'.installed, turned.installed, h.installed]
  · rw [turned'.managers, turned.managers, h.managers]
  · rw [turned'.calls, turned.calls, h.calls]
  · rw [turned'.rest, turned.rest]
    exact h.rest

/-- What changes no slot and calls no manager can be done apart on both sides. -/
theorem Alike.turned {s' t' : World ρ} (h : Alike Q s t) (left : Turned w s s')
    (right : Turned w t t') (same : s'.slot w = s.slot w) (same' : t'.slot w = t.slot w) :
    Alike Q s' t' := by
  refine ⟨fun v => ?_, ?_, ?_, ?_, ?_, ?_⟩
  · by_cases hv : v = w
    · rw [hv, same', same, h.slot]
    · rw [right.slot v hv, left.slot v hv, h.slot]
  · rw [right.config, left.config, h.config]
  · rw [right.installed, left.installed, h.installed]
  · rw [right.managers, left.managers, h.managers]
  · rw [right.calls, left.calls, h.calls]
  · rw [right.rest, left.rest]
    exact h.rest

/-- The library does not read the log. -/
theorem alike_mirrors (w : Worker) : Mirrors w (Alike Q) fun _ _ => True where
  bound h := h.bound w
  defaultMode h := by rw [h.config]
  defaultTimeout h := by rw [h.config]
  installed h := h.installed
  managers h := h.managers
  event e s t h := by
    refine ⟨h.slot, h.config, h.installed, h.managers, ?_, h.rest⟩
    rw [calls_event, calls_event, h.calls]
  call call s t h := by
    refine ⟨h.slot, h.config, h.installed, h.managers, ?_, h.rest⟩
    rw [calls_record, calls_record, h.calls]
  setManager m v s t h :=
    ⟨h.slot, h.config, h.installed, by simp only [setManager, h.managers], h.calls, h.rest⟩
  install m s t h := ⟨h.slot, h.config, rfl, h.managers, h.calls, h.rest⟩
  write f _ _ _ h := h.mapSlot w f
  create captured s t h := by
    obtain ⟨span, s', ran, left⟩ := Span.create_calm captured w s
    obtain ⟨span', t', ran', right⟩ := Span.create_calm captured w t
    have same := (Span.create_silent captured ran).slot w
    have same' := (Span.create_silent captured ran').slot w
    rw [ran, ran']
    exact .returned trivial (h.turned left right same same')
  mark phase a b _ s t h := by
    obtain ⟨s', ran, left, same⟩ := Span.mark_run phase a w s
    obtain ⟨t', ran', right, same'⟩ := Span.mark_run phase b w t
    rw [ran, ran']
    exact .returned rfl (h.turned left right same same')

end World

namespace Blind

variable {x : Action ρ α} {f : α → Action ρ β}

theorem of_coupled (h : ∀ w, Coupled w (Alike Q) Eq x x) : Blind Q x := by
  intro w s t alike
  have ends := h w alike
  generalize x w s = r at ends
  generalize x w t = q at ends
  cases ends with
  | halted h => exact .halted h
  | ended fates worlds => exact .ended ⟨fates.eq, worlds⟩

/-- Run in worlds that are alike, such code halts in both for the same reason, or ends the same way
and leaves worlds that are alike. -/
theorem run_cases (hx : Blind Q x) (alike : Alike Q s t) :
    (∃ h, x w s = .error h ∧ x w t = .error h) ∨
      ∃ fate s' t', x w s = .ok ⟨fate, s'⟩ ∧ x w t = .ok ⟨fate, t'⟩ ∧ Alike Q s' t' := by
  have ends := hx w s t alike
  generalize x w s = r at ends
  generalize x w t = q at ends
  cases ends with
  | halted h => exact .inl ⟨h, rfl, rfl⟩
  | @ended r q related =>
    obtain ⟨fate, s'⟩ := r
    obtain ⟨fate', t'⟩ := q
    obtain ⟨same, alike'⟩ := related
    have same : fate' = fate := same
    subst same
    exact .inr ⟨fate', s', t', rfl, rfl, alike'⟩

theorem coupled (hx : Blind Q x) (w : Worker) : Coupled w (Alike Q) Eq x x := by
  intro s t alike
  rcases hx.run_cases (w := w) alike with ⟨h, halts, halts'⟩ | ⟨fate, s', t', ran, ran', alike'⟩
  · rw [halts, halts']
    exact .halted h
  · rw [ran, ran']
    exact .ended (.refl fate) alike'

theorem resume (fate : Fate α) : Blind Q (Action.resume fate) :=
  of_coupled fun _ => Coupled.resume (.refl fate)

theorem pure (a : α) : Blind Q (Pure.pure a) :=
  resume (.returned a)

theorem bind (hx : Blind Q x) (hf : ∀ a, Blind Q (f a)) : Blind Q (x >>= f) :=
  of_coupled fun w => (hx.coupled w).bind_eq fun a => (hf a).coupled w

theorem current : Blind Q (Ambient.current : Action ρ (Option Xid)) :=
  of_coupled fun w => (alike_mirrors w).current

/-- Changing what the program keeps, in a way that keeps it related. -/
theorem keep {f : ρ → ρ} (related : ∀ a b, Q a b → Q (f a) (f b)) :
    Blind Q (Action.modify fun _ s => { s with rest := f s.rest }) := by
  intro w s t alike
  exact .ended ⟨rfl, alike.slot, alike.config, alike.installed, alike.managers, alike.calls,
    related _ _ alike.rest⟩

/-- A call does not read the log, if its business does not. -/
theorem execute (t : Template) (info : CallInfo) {business : Action ρ (Except ε α)}
    (h : Blind Q business) : Blind Q (t.execute info business) :=
  of_coupled fun w => (alike_mirrors w).execute (fun _ _ alike => alike.slot w) t info (h.coupled w)

end Blind

/-- What is bound stays bound. -/
def World.Steady (w : Worker) (s t : World ρ) : Prop :=
  t.bound w = s.bound w

theorem World.steady_repeats : Repeats (Steady (ρ := ρ)) where
  refl _ _ := rfl
  trans h k := Eq.trans k h

/-- A call leaves bound what it found, if its business does. -/
theorem Template.execute_steady (t : Template) (info : CallInfo)
    {business : Action ρ (Except ε α)} (h : Keeps Steady business) :
    Keeps Steady (t.execute info business) := by
  intro w s r ran
  obtain ⟨fate, u, started, starts⟩ := t.start_run (ε := ε) info w s
  have unchanged := starts.silent.bound w
  obtain ⟨e | part⟩ | p := fate
  · rw [Template.execute_of_refused started] at ran
    obtain rfl := Except.ok.inj ran
    exact unchanged
  · cases part with
    | joined x =>
      rw [Template.execute_of_part started rfl] at ran
      obtain ⟨q, ended, left⟩ := bind_attempt_eq_ok.1 ran
      rw [Part.leave_joined] at left
      obtain rfl := Except.ok.inj left
      have steady : Steady w u q.world := h ended
      exact steady.trans unchanged
    | launched l =>
      obtain ⟨_, v, bound, -⟩ := Part.bind_calm (.launched l) w u
      rw [Template.execute_of_part started bound] at ran
      have unbound : r.world.bound w = none :=
        Triple.bind_attempt (N := fun _ _ => True) (P := fun _ => True) (fun _ _ _ _ => trivial)
          (fun fate => Part.leave_launched l fate) trivial ran
      exact unbound.trans starts.found.symm
  · rw [Template.execute_of_unwound started] at ran
    obtain rfl := Except.ok.inj ran
    exact unchanged

/-! ## Between two polls -/

namespace World

/-- `s` is in the middle of a business at once, where `x` is bound, and `t` is between two polls of
the same business, where `found` is bound. -/
structure Apart (Q : ρ → ρ → Prop) (w : Worker) (x : Xid) (found : Option Xid) (s t : World ρ) :
    Prop where
  elsewhere : ∀ v, v ≠ w → t.slot v = s.slot v
  inside : w.hasSlot → s.slot w = { t.slot w with xid := some x }
  found : t.bound w = found
  config : t.config = s.config
  installed : t.installed = s.installed
  managers : t.managers = s.managers
  calls : t.calls = s.calls
  rest : Q s.rest t.rest

variable {x : Xid} {found : Option Xid}

/-- The way into a poll makes the worlds alike. -/
theorem Apart.resume (apart : Apart Q w x found s t) (span : Option Span) :
    ∃ u, Carrier.hook.resume ⟨.carrying (some x), span⟩ w t =
        .ok ⟨.returned (⟨⟨some x, some found⟩, span⟩, .returned ()), u⟩ ∧ Alike Q s u := by
  obtain ⟨u, resumed, turned, slot⟩ := Carrier.resume_run (some x) span w t
  rw [apart.found] at resumed
  refine ⟨u, resumed, fun v => ?_, ?_, ?_, ?_, ?_, ?_⟩
  · by_cases hv : v = w
    · subst hv
      by_cases hasSlot : v.hasSlot
      · rw [slot hasSlot, apart.inside hasSlot]
        rfl
      · rw [slot_of_not_hasSlot hasSlot, slot_of_not_hasSlot hasSlot]
    · rw [turned.slot v hv, apart.elsewhere v hv]
  · rw [turned.config, apart.config]
  · rw [turned.installed, apart.installed]
  · rw [turned.managers, apart.managers]
  · rw [turned.calls, apart.calls]
  · rw [turned.rest]
    exact apart.rest

/-- The way out of a poll sets them apart again. -/
theorem Alike.suspend (fate : Fate α) (alike : Alike Q s t) (bound : w.hasSlot → s.bound w = some x)
    (lost : ¬ w.hasSlot → found = none) (span : Option Span) :
    ∃ u, Carrier.hook.finish ⟨⟨some x, some found⟩, span⟩ fate w t =
        .ok ⟨.returned (⟨.carrying (some x), span⟩, fate), u⟩ ∧ Apart Q w x found s u := by
  obtain ⟨u, finished, turned, slot⟩ := Carrier.finish_run (some x) found span fate w t
  refine ⟨u, finished, fun v hv => ?_, fun hasSlot => ?_, ?_, ?_, ?_, ?_, ?_, ?_⟩
  · rw [turned.slot v hv, alike.slot]
  · rw [slot hasSlot, alike.slot, ← bound hasSlot]
    rfl
  · by_cases hasSlot : w.hasSlot
    · exact congrArg Slot.xid (slot hasSlot)
    · rw [bound_of_not_hasSlot hasSlot, lost hasSlot]
  · rw [turned.config, alike.config]
  · rw [turned.installed, alike.installed]
  · rw [turned.managers, alike.managers]
  · rw [turned.calls, alike.calls]
  · rw [turned.rest]
    exact alike.rest

theorem Apart.bound (apart : Apart Q w x found s t) (hasSlot : w.hasSlot) : s.bound w = some x :=
  congrArg Slot.xid (apart.inside hasSlot)

theorem Apart.lost (apart : Apart Q w x found s t) (hasSlot : ¬ w.hasSlot) : found = none :=
  apart.found.symm.trans (bound_of_not_hasSlot hasSlot t)

end World

/-! ## The end -/

/-- The same calls; only the last may differ in what was bound, if it is how a launcher closed its
transaction. -/
inductive SameCalls (launches : Prop) : List Call → List Call → Prop where
  | same (cs : List Call) : SameCalls launches cs cs
  | closing (launched : launches) (cs : List Call) (l : Launch) (bound bound' : Option Xid)
      (succeeded : Bool) (answer : Answer GlobalStatus) :
      SameCalls launches (cs ++ [⟨l.manager, bound, .closing succeeded l.xid answer⟩])
        (cs ++ [⟨l.manager, bound', .closing succeeded l.xid answer⟩])

namespace World

/-- Two worlds after the same call, at once and polled. -/
structure Agree (Q : ρ → ρ → Prop) (launches : Prop) (s t : World ρ) : Prop where
  slot : ∀ v, t.slot v = s.slot v
  config : t.config = s.config
  installed : t.installed = s.installed
  managers : t.managers = s.managers
  calls : SameCalls launches s.calls t.calls
  rest : Q s.rest t.rest

end World

/-- A call at once and the same call polled end the same way: the task is over, and it reports what
the call reports. -/
def SameReport (Q : ρ → ρ → Prop) (launches : Prop) (r : Ran ρ (Except (CallError TaskFailure) α))
    (q : Ran ρ (Polled κ α)) : Prop :=
  q.fate = .returned (.ended, r.fate.map fun o => .ready (o.mapError .call)) ∧
    Agree Q launches r.world q.world

/-- Nothing to drop, and then a clean-up. -/
theorem Action.ensuring_pure (x : Action ρ Unit) :
    (Pure.pure () : Action ρ Unit).ensuring x = x := by
  funext w s
  have nothing : (Pure.pure () : Action ρ Unit) w s = .ok ⟨.returned (), s⟩ := rfl
  rw [Action.ensuring, bind_of_returned (attempt_of_ran nothing), bind_run, attempt]
  rcases x w s with h | ⟨⟨⟩ | p, t⟩ <;> rfl

namespace Part

variable {launches : Prop} {left : κ} {carrier : Carrier}

/-- A participant ends without a call, and leaves the world alone. -/
theorem leave_agrees_of_joined {x : Xid} (apart : Apart Q w x (some x) s t)
    (fate : Fate (Except TaskFailure α)) :
    Ends (SameReport Q launches) ((joined x).leave fate w s)
      (Task.afterBusiness (joined x) carrier (.plain left, fate.map .ready) w t) := by
  have ended : Task.afterBusiness (joined x) carrier (.plain left, fate.map .ready) w t =
      .ok ⟨.returned (.ended, (fate.map fun o => o.mapError .business).map fun o =>
        .ready (o.mapError .call)), t⟩ := by
    rcases fate with outcome | p
    · rfl
    · rfl
  rw [leave_joined, ended]
  refine .ended ⟨rfl, fun v => ?_, apart.config, apart.installed, apart.managers, ?_, apart.rest⟩
  · by_cases hv : v = w
    · subst hv
      by_cases hasSlot : v.hasSlot
      · rw [apart.inside hasSlot, ← apart.found]
        rfl
      · rw [slot_of_not_hasSlot hasSlot, slot_of_not_hasSlot hasSlot]
    · exact apart.elsewhere v hv
  · rw [apart.calls]
    exact .same _

/-- A launcher unbinds at once what is not bound between polls. -/
theorem slot_of_released {l : Launch} (apart : Apart Q w l.xid none s t)
    (elsewhere : ∀ v, v ≠ w → u.slot v = s.slot v)
    (released : u.slot w = { s.slot w with xid := none })
    (v : Worker) : t.slot v = u.slot v := by
  by_cases hv : v = w
  · subst hv
    rw [released]
    by_cases hasSlot : v.hasSlot
    · rw [apart.inside hasSlot, ← apart.found]
      rfl
    · rw [slot_of_not_hasSlot hasSlot, slot_of_not_hasSlot hasSlot]
  · rw [elsewhere v hv, apart.elsewhere v hv]

/-- A launcher whose business returned closes its transaction in both ways, and reports the same. -/
theorem leave_agrees_of_returned {l : Launch} (launched : launches)
    (apart : Apart Q w l.xid none s t) (outcome : Except TaskFailure α) :
    Ends (SameReport Q launches) ((Part.launched l).leave (.returned outcome) w s)
      (Task.afterBusiness (.launched l) carrier (.plain left, .returned (.ready outcome)) w t) := by
  obtain ⟨s', u, left', closed, turned, slot⟩ := leave_of_returned l outcome w s
  obtain ⟨t', completed, closed'⟩ := l.complete_run outcome w t
  have ended : Task.afterBusiness (.launched l) carrier
      (.plain left, .returned (.ready outcome)) w t =
      .ok ⟨.returned (.ended, (Launch.report outcome ((t.managers l.manager).closing
        outcome.isOk)).map fun o => .ready (o.mapError .call)), t'⟩ :=
    bind_of_returned (attempt_of_ran completed) _
  rw [left', ended, apart.managers]
  refine .ended ⟨rfl, fun v => ?_, ?_, ?_, ?_, ?_, ?_⟩
  · rw [closed'.silent.slot]
    refine slot_of_released apart (fun v hv => ?_) ?_ v
    · rw [turned.slot v hv, closed.silent.slot]
    · rw [slot, closed.silent.slot]
  · rw [closed'.config, turned.config, closed.config, apart.config]
  · rw [closed'.installed, turned.installed, closed.installed, apart.installed]
  · rw [closed'.managers, turned.managers, closed.managers]
    simp only [setManager, apart.managers]
  · rw [closed'.calls, turned.calls, closed.calls, apart.calls, apart.managers]
    exact .closing launched _ l _ _ _ _
  · rw [closed'.rest, turned.rest, closed.rest]
    exact apart.rest

/-- A launcher whose business unwound rolls its transaction back in both ways, with nothing
bound. -/
theorem leave_agrees_of_unwound {l : Launch} (apart : Apart Q w l.xid none s t) (p : Panic) :
    Ends (SameReport (α := α) Q launches) ((Part.launched l).leave (.unwound p) w s)
      (Task.afterBusiness (.launched l) carrier (.plain left, .unwound p) w t) := by
  obtain ⟨s', u, turned, slot, closed, left'⟩ :=
    leave_of_unwound (ε := TaskFailure) (α := α) l p w s
  obtain ⟨t', abandoned, closed'⟩ := l.abandon_run w t
  have dropped : (Task.drop (.plain left)).ensuring (Part.abandon (.launched l)) w t =
      .ok ⟨((t.managers l.manager).closing false).fate.map fun _ => (), t'⟩ := by
    rw [Task.drop, ensuring_pure]
    exact abandoned
  have ended : Task.afterBusiness (α := α) (.launched l) carrier (.plain left, .unwound p) w t =
      (do return (.ended, ← Action.settle (.unwound p)
        (((t.managers l.manager).closing false).fate.map fun _ => ())) :
        Action ρ (Polled κ α)) w t' :=
    bind_of_returned (attempt_of_ran dropped) _
  rw [left', ended, turned.managers, apart.managers]
  have agree : Agree Q launches u t' := by
    refine ⟨fun v => ?_, ?_, ?_, ?_, ?_, ?_⟩
    · rw [closed'.silent.slot]
      refine slot_of_released apart (fun v hv => ?_) ?_ v
      · rw [closed.silent.slot, turned.slot v hv]
      · rw [closed.silent.slot, slot]
    · rw [closed'.config, closed.config, turned.config, apart.config]
    · rw [closed'.installed, closed.installed, turned.installed, apart.installed]
    · rw [closed'.managers, closed.managers]
      simp only [setManager, turned.managers, apart.managers]
    -- a launcher that unwinds unbinds before it rolls back, so even this call is the same
    · have unbound : s'.bound w = t.bound w := by
        rw [apart.found, World.bound, slot]
      rw [closed'.calls, closed.calls, turned.calls, apart.calls, turned.managers, apart.managers,
        unbound]
      exact .same _
    · rw [closed'.rest, closed.rest, turned.rest]
      exact apart.rest
  cases (s.managers l.manager).closing false with
  | granted status => exact .ended ⟨rfl, agree⟩
  | refused e => exact .ended ⟨rfl, agree⟩
  | panicked q => exact .halted .aborted

/-- However a business ended, its call ends the same way at once and polled. -/
theorem leave_agrees (part : Part) (launched : part.found = none → launches)
    (apart : Apart Q w part.xid part.found s t) (fate : Fate (Except TaskFailure α)) :
    Ends (SameReport Q launches) (part.leave fate w s)
      (Task.afterBusiness part carrier (.plain left, fate.map .ready) w t) := by
  cases part with
  | joined x => exact leave_agrees_of_joined apart fate
  | launched l =>
    cases fate with
    | returned outcome => exact leave_agrees_of_returned (launched rfl) apart outcome
    | unwound p => exact leave_agrees_of_unwound apart p

end Part

/-! ## Poll by poll -/

variable {run : κ → Action ρ Unit}

/-- How code ends that does what the work does after its last piece. There is no code that waits
without end and goes on. -/
def Finish.conclude : Finish α → Action ρ (Except TaskFailure α)
  | .succeed a => return .ok a
  | .fail message => return .error (.text message)
  | .panic p => Action.panic p
  | .never => Action.halt .exhausted

/-- The pieces of some work back to back. -/
def Work.whole (run : κ → Action ρ Unit) (work : Work κ α) : Action ρ (Except TaskFailure α) := do
  work.pieces.forM run
  work.finish.conclude

theorem Work.whole_nil (finish : Finish α) :
    Work.whole run ⟨[], finish⟩ = (finish.conclude : Action ρ (Except TaskFailure α)) :=
  pure_bind () fun _ => (finish.conclude : Action ρ (Except TaskFailure α))

theorem Work.whole_cons (k : κ) (pieces : List κ) (finish : Finish α) :
    Work.whole run ⟨k :: pieces, finish⟩ = (do
      run k
      Work.whole run ⟨pieces, finish⟩) :=
  bind_assoc (run k) (fun _ => pieces.forM run) fun _ => finish.conclude

theorem Finish.conclude_eq {finish : Finish α} (ends : finish ≠ .never) :
    ∃ fate, (finish.conclude : Action ρ (Except TaskFailure α)) = Action.resume fate ∧
      finish.poll = fate.map .ready := by
  cases finish with
  | succeed a => exact ⟨.returned (.ok a), rfl, rfl⟩
  | fail message => exact ⟨.returned (.error (.text message)), rfl, rfl⟩
  | panic p => exact ⟨.unwound p, rfl, rfl⟩
  | never => exact absurd rfl ends

/-- A poll of a call whose business is some work: the work is polled in a world that is alike, and
afterwards the call goes on or ends in a world that is apart again. -/
theorem Task.poll_called (run : κ → Action ρ Unit) (part : Part) (span : Option Span)
    (work : Work κ α) {found : Option Xid}
    (apart : Apart Q w part.xid found s t) :
    let task := Task.called part ⟨.carrying (some part.xid), span⟩ (.plain work)
    ∃ t', Alike Q s t' ∧
      (∀ h, work.poll run w t' = .error h → task.poll (Work.poll run) w t = .error h) ∧
      (∀ left fate u s', work.poll run w t' = .ok ⟨.returned (left, fate), u⟩ → Alike Q s' u →
        s'.bound w = s.bound w → ∃ u', Apart Q w part.xid found s' u' ∧
          task.poll (Work.poll run) w t =
            afterBusiness part ⟨.carrying (some part.xid), span⟩ (.plain left, fate) w u') := by
  intro task
  obtain ⟨t', resumed, alike⟩ := apart.resume span
  refine ⟨t', alike, fun h halts => ?_, fun left fate u s' ran alike' same => ?_⟩
  · have inner : (Task.plain work).poll (Work.poll run) w t' = .error h := by
      rw [poll, bind_run, halts]
    show pollCalled part _ _ _ w t = _
    rw [pollCalled, Hook.around, bind_run, bind_of_returned resumed]
    simp only
    rw [bind_run, inner]
  · have inner : (Task.plain work).poll (Work.poll run) w t' =
        .ok ⟨.returned (.plain left, fate), u⟩ := bind_of_returned ran _
    have bound (hasSlot : w.hasSlot) : s'.bound w = some part.xid :=
      same.trans (apart.bound hasSlot)
    obtain ⟨u', finished, apart'⟩ := alike'.suspend fate bound apart.lost span
    exact ⟨u', apart', bind_of_returned (Hook.around_run resumed inner finished) _⟩

/-- A task that is over after a poll is not polled again. -/
theorem Task.pollUpTo_agrees {launches : Prop} {poll : κ → Action ρ (κ × Fate (Progress α))}
    {task : Task κ} {r : Except Halt (Ran ρ (Except (CallError TaskFailure) α))}
    (agrees : Ends (SameReport Q launches) r (task.poll poll w t)) (n : Nat) :
    Ends (SameReport Q launches) r (task.pollUpTo poll (n + 1) w t) := by
  rw [pollUpTo, bind_run]
  generalize task.poll poll w t = q at agrees
  cases agrees with
  | halted h => exact .halted h
  | @ended r q related =>
    obtain ⟨reported, u⟩ := q
    obtain ⟨same, agree⟩ := related
    have same : reported = _ := same
    subst same
    obtain ⟨outcome | p, s'⟩ := r
    · exact .ended ⟨rfl, agree⟩
    · exact .ended ⟨rfl, agree⟩

/-- Tasks whose first polls are the same go on in the same way. -/
theorem Task.pollUpTo_congr {poll : κ → Action ρ (κ × Fate (Progress α))} {task task' : Task κ}
    (same : task.poll poll w s = task'.poll poll w t) (n : Nat) :
    task.pollUpTo poll (n + 1) w s = task'.pollUpTo poll (n + 1) w t := by
  rw [pollUpTo, bind_run, same]
  rfl

/-- The poll in which a business ends ends its call as the business at once does. -/
theorem Work.last_poll_agrees {part : Part} {launches : Prop}
    (launched : part.found = none → launches) {work : Work κ α} {task : Task (Work κ α)}
    {carrier : Carrier} {left : Work κ α} {fate : Fate (Except TaskFailure α)} {s' u : World ρ}
    (whole : Work.whole run work w s = .ok ⟨fate, s'⟩)
    (polled : task.poll (Work.poll run) w t =
      Task.afterBusiness part carrier (.plain left, fate.map .ready) w u)
    (apart : Apart Q w part.xid part.found s' u) (n : Nat) :
    Ends (SameReport Q launches) (((Work.whole run work).attempt >>= part.leave) w s)
      (task.pollUpTo (Work.poll run) (n + 1) w t) := by
  rw [bind_of_returned (attempt_of_ran whole)]
  apply Task.pollUpTo_agrees
  rw [polled]
  exact part.leave_agrees launched apart fate

/-- A business at once and poll by poll, and the end of its call. The induction is on the pieces:
each poll runs one of them, in worlds that are alike. -/
theorem Work.whole_agrees {finish : Finish α} {fate : Fate (Except TaskFailure α)}
    (concludes : (finish.conclude : Action ρ (Except TaskFailure α)) = Action.resume fate)
    (polls : finish.poll = fate.map .ready) {part : Part} (span : Option Span) {launches : Prop}
    (launched : part.found = none → launches) (pieces : List κ)
    (blind : ∀ k ∈ pieces, Blind Q (run k))
    (steady : ∀ k ∈ pieces, Keeps Steady (run k))
    (apart : Apart Q w part.xid part.found s t) {n : Nat} (enough : pieces.length ≤ n + 1) :
    Ends (SameReport Q launches) (((Work.whole run ⟨pieces, finish⟩).attempt >>= part.leave) w s)
      ((Task.called part ⟨.carrying (some part.xid), span⟩ (.plain ⟨pieces, finish⟩)).pollUpTo
        (Work.poll run) (n + 1) w t) := by
  induction pieces generalizing s t n with
  | nil =>
    obtain ⟨t', alike, -, polled⟩ := Task.poll_called run part span ⟨[], finish⟩ apart
    have ended : Work.poll run ⟨[], finish⟩ w t' =
        .ok ⟨.returned (⟨[], finish⟩, fate.map .ready), t'⟩ := by
      rw [← polls]
      rfl
    obtain ⟨u, apart', task⟩ := polled _ _ _ s ended alike rfl
    have whole : Work.whole run ⟨[], finish⟩ w s = .ok ⟨fate, s⟩ := by
      rw [Work.whole_nil, concludes]
      exact resume_run fate w s
    exact Work.last_poll_agrees launched whole task apart' n
  | cons k pieces ih =>
    obtain ⟨t', alike, halted, polled⟩ :=
      Task.poll_called run part span ⟨k :: pieces, finish⟩ apart
    rcases (blind k List.mem_cons_self).run_cases (w := w) alike with
      ⟨h, halts, halts'⟩ | ⟨⟨⟩ | p, s', u, ran, ran', alike'⟩
    -- the piece halts everything
    · have whole : Work.whole run ⟨k :: pieces, finish⟩ w s = .error h := by
        rw [Work.whole_cons, bind_run, halts]
      have stops : Work.poll run ⟨k :: pieces, finish⟩ w t' = .error h := by
        simp only [Work.poll]
        rw [bind_run, Action.attempt, halts']
      rw [bind_run, Action.attempt, whole, Task.pollUpTo, bind_run, halted h stops]
      exact .halted h
    · have same : s'.bound w = s.bound w := steady k List.mem_cons_self ran
      cases pieces with
      -- the poll that runs the last piece does not wait after it: it ends the work
      | nil =>
        have ended : Work.poll run ⟨[k], finish⟩ w t' =
            .ok ⟨.returned (⟨[], finish⟩, fate.map .ready), u⟩ := by
          rw [← polls]
          exact bind_of_returned (attempt_of_ran ran') _
        obtain ⟨u', apart', task⟩ := polled _ _ _ s' ended alike' same
        have whole : Work.whole run ⟨[k], finish⟩ w s = .ok ⟨fate, s'⟩ := by
          rw [Work.whole_cons, bind_of_returned ran, Work.whole_nil, concludes]
          exact resume_run fate w s'
        exact Work.last_poll_agrees launched whole task apart' n
      -- the task waits, and its worker has what it had before, so the worlds are apart again
      | cons k' pieces =>
        have waits : Work.poll run ⟨k :: k' :: pieces, finish⟩ w t' =
            .ok ⟨.returned (⟨k' :: pieces, finish⟩, .returned .waiting), u⟩ :=
          bind_of_returned (attempt_of_ran ran') _
        obtain ⟨u', apart', task⟩ := polled _ _ _ s' waits alike' same
        obtain ⟨n, rfl⟩ : ∃ n', n = n' + 1 :=
          Nat.exists_eq_succ_of_ne_zero (by rintro rfl; simp at enough)
        have next := ih (fun j mem => blind j (List.mem_cons_of_mem _ mem))
          (fun j mem => steady j (List.mem_cons_of_mem _ mem)) apart'
          (Nat.le_of_succ_le_succ enough)
        have whole : (Work.whole run ⟨k :: k' :: pieces, finish⟩).attempt w s =
            (Work.whole run ⟨k' :: pieces, finish⟩).attempt w s' := by
          rw [Work.whole_cons, Action.attempt, Action.attempt, bind_of_returned ran]
        rw [bind_run, whole, ← bind_run, Task.pollUpTo, bind_of_returned task]
        exact next
    -- the piece panics
    · have whole : Work.whole run ⟨k :: pieces, finish⟩ w s = .ok ⟨.unwound p, s'⟩ := by
        rw [Work.whole_cons]
        exact bind_of_unwound ran _
      have same : s'.bound w = s.bound w := steady k List.mem_cons_self ran
      have panics : Work.poll run ⟨k :: pieces, finish⟩ w t' =
          .ok ⟨.returned (⟨pieces, finish⟩, .unwound p), u⟩ :=
        bind_of_returned (attempt_of_ran ran') _
      obtain ⟨u', apart', task⟩ := polled _ _ _ s' panics alike' same
      exact Work.last_poll_agrees launched whole task apart' n

/-! ## From the start -/

/-- Before the business runs at once, and before it is polled for the first time, the worlds are
apart. -/
theorem Part.apart (part : Part) (found : s.bound w = part.found) (same : Q s.rest s.rest) :
    ∃ t span u, part.bind w s = .ok ⟨.returned (), t⟩ ∧
      Carrier.create (.carrying (some part.xid)) w s =
        .ok ⟨.returned ⟨.carrying (some part.xid), span⟩, u⟩ ∧
      Apart Q w part.xid part.found t u := by
  have joined (x : Xid) (eq : part = .joined x) : s.bound w = some x := by
    rw [found, eq]
    rfl
  obtain ⟨t, bound, turned, slot⟩ := part.bind_run w s joined
  obtain ⟨span, u, created, turned', slot'⟩ := Carrier.create_run (.carrying (some part.xid)) w s
  refine ⟨t, span, u, bound, created, fun v hv => ?_, fun hasSlot => ?_, ?_, ?_, ?_, ?_, ?_, ?_⟩
  · rw [turned'.slot v hv, turned.slot v hv]
  · rw [slot hasSlot, slot']
  · rw [World.bound, slot', ← found, World.bound]
  · rw [turned'.config, turned.config]
  · rw [turned'.installed, turned.installed]
  · rw [turned'.managers, turned.managers]
  · rw [turned'.calls, turned.calls]
  · rw [turned'.rest, turned.rest]
    exact same

/-- The two ways to call a template agree. A business of pieces that do not read the log, and that
leave bound what they find, is called at once, or it is polled until it ends. Then both halt for the
same reason, or both end: with the same report, with the same slots on all workers, with the same
answers left, and with the same of what the pieces keep, which includes what they saw. They made the
same calls; only a launcher may have had something else bound when it closed its transaction. -/
theorem Work.execute_agrees (t : Template) (info : CallInfo) (work : Work κ α)
    (blind : ∀ k ∈ work.pieces, Blind Q (run k))
    (steady : ∀ k ∈ work.pieces, Keeps Steady (run k))
    (ends : work.finish ≠ .never) (w : Worker) (s : World ρ) (same : Q s.rest s.rest) {n : Nat}
    (enough : work.stays ≤ n) :
    Ends (SameReport Q (s.bound w = none)) (t.execute info (work.whole run) w s)
      ((Task.fresh t info (.plain work)).pollUpTo (Work.poll run) n w s) := by
  obtain ⟨n, rfl⟩ : ∃ n', n = n' + 1 :=
    Nat.exists_eq_succ_of_ne_zero (by rintro rfl; simp [stays] at enough)
  have enough : work.pieces.length ≤ n + 1 := Nat.le_trans (Nat.le_max_right _ _) enough
  obtain ⟨fate, u, started, starts⟩ := t.start_run (ε := TaskFailure) info w s
  have agree : Agree Q (s.bound w = none) u u :=
    ⟨fun _ => rfl, rfl, rfl, rfl, .same _, starts.silent.rest ▸ same⟩
  obtain ⟨e | part⟩ | p := fate
  · have polled : (Task.fresh t info (.plain work)).poll (Work.poll run) w s =
        .ok ⟨.returned (.ended, .returned (.ready (.error (.call e)))), u⟩ :=
      bind_of_returned (attempt_of_ran started) _
    apply Task.pollUpTo_agrees
    rw [Template.execute_of_refused started, polled]
    exact .ended ⟨rfl, agree⟩
  · have found : u.bound w = part.found := (starts.silent.bound w).trans starts.found
    obtain ⟨s', span, v, bound, created, apart⟩ :=
      part.apart (Q := Q) found (starts.silent.rest ▸ same)
    let task := Task.called part ⟨.carrying (some part.xid), span⟩ (.plain work)
    have polled : (Task.fresh t info (.plain work)).poll (Work.poll run) w s =
        task.poll (Work.poll run) w v :=
      (bind_of_returned (attempt_of_ran started) _).trans (bind_of_returned created _)
    obtain ⟨fate, concludes, polls⟩ := Finish.conclude_eq (ρ := ρ) ends
    have launched : part.found = none → s.bound w = none := starts.found.trans
    have agrees :=
      Work.whole_agrees concludes polls span launched work.pieces blind steady apart enough
    rw [Template.execute_of_part started bound, Task.pollUpTo_congr polled]
    exact agrees
  · have polled : (Task.fresh t info (.plain work)).poll (Work.poll run) w s =
        .ok ⟨.returned (.ended, .unwound p), u⟩ :=
      bind_of_returned (attempt_of_ran started) _
    apply Task.pollUpTo_agrees
    rw [Template.execute_of_unwound started, polled]
    exact .ended ⟨rfl, agree⟩

/-- Three pieces note what is bound; the second does so in a call of its own, and the last panics.
Called at once or polled, they see the same, and the launcher rolls back. -/
theorem Work.execute_agrees_of_panic :
    let start : World (List (Option Xid)) := { rest := [] }
    let x := Manager.firstXid
    let t : Template := { manager := some "m" }
    let see : Action (List (Option Xid)) Unit := do
      let bound ← Ambient.current
      Action.modify fun _ s => { s with rest := s.rest ++ [bound] }
    let join : Action (List (Option Xid)) Unit := do
      let _ ← t.execute {} (do see; return (.ok () : Except Unit Unit))
    let fail : Action (List (Option Xid)) Unit := do see; Action.panic ⟨"failed"⟩
    let work : Work (Action (List (Option Xid)) Unit) Unit := ⟨[see, join, fail], .succeed ()⟩
    ∃ r q, t.execute {} (work.whole id) .main start = .ok r ∧
      (Task.fresh t {} (.plain work)).pollUpTo (Work.poll id) 3 .main start = .ok q ∧
      SameReport Eq (start.bound .main = none) r q ∧
      r.world.rest = [some x, some x, some x] ∧ r.world.calls.length = 2 := by
  intro start x t see join fail work
  have sees : Blind Eq see := by
    refine .bind .current fun bound => ?_
    exact .keep (f := fun seen => seen ++ [bound]) fun _ _ same => by rw [same]
  have stays : Keeps Steady see := by
    intro w s r ran
    obtain rfl := Except.ok.inj ran
    rfl
  have blind : ∀ k ∈ work.pieces, Blind Eq (id k) := by
    intro k mem
    simp only [work, List.mem_cons, List.not_mem_nil, or_false] at mem
    rcases mem with rfl | rfl | rfl
    · exact sees
    · exact .bind (.execute t {} (.bind sees fun _ => .pure _)) fun _ => .pure ()
    · exact .bind sees fun _ => .resume (.unwound ⟨"failed"⟩)
  have steady : ∀ k ∈ work.pieces, Keeps Steady (id k) := by
    intro k mem
    simp only [work, List.mem_cons, List.not_mem_nil, or_false] at mem
    rcases mem with rfl | rfl | rfl
    · exact stays
    · have joined := t.execute_steady {} (Keeps.bind steady_repeats stays fun _ =>
        Keeps.pure steady_repeats (.ok () : Except Unit Unit))
      exact Keeps.bind steady_repeats joined fun _ => Keeps.pure steady_repeats ()
    · exact Keeps.bind steady_repeats stays fun _ => Keeps.panic steady_repeats _
  have agrees := Work.execute_agrees t {} work blind steady nofun .main start rfl
    (n := 3) (by decide)
  obtain ⟨r, ran⟩ : ∃ r, t.execute {} (work.whole id) .main start = .ok r := ⟨_, rfl⟩
  obtain ⟨q, polled⟩ :
    ∃ q, (Task.fresh t {} (.plain work)).pollUpTo (Work.poll id) 3 .main start = .ok q := ⟨_, rfl⟩
  rw [ran, polled] at agrees
  cases agrees with
  | ended related =>
    refine ⟨r, q, ran, polled, related, ?_, ?_⟩
    · obtain rfl := Except.ok.inj ran
      rfl
    · obtain rfl := Except.ok.inj ran
      rfl

end AmbientTx
