import AmbientTx.Proofs.Call

/-! # The course of a call

How a transactional call starts and how it ends, exactly. A call joins what is bound, or it asks a
manager for a transaction and gets what the manager answers (`Template.Starts`). One that launched a
transaction makes one more call in the end, to the same manager: a commit after success, and a
rollback after failure or a panic (`World.Closed`).
-/

namespace AmbientTx

variable {ρ α ε : Type} {w : Worker} {s t : World ρ}

open World AmbientTx.Action

/-! ## The last call of a launcher -/

/-- The call that closes a transaction after its business, and the answer. -/
def Exchange.closing (succeeded : Bool) (x : Xid) (answer : Answer GlobalStatus) : Exchange :=
  if succeeded then .commit x answer else .rollback x answer

/-- What a manager answers next to such a call. -/
def Manager.closing (v : Manager) (succeeded : Bool) : Answer GlobalStatus :=
  if succeeded then v.commits.next else v.rollbacks.next

/-- A manager after such a call. -/
def Manager.closed (v : Manager) (succeeded : Bool) : Manager :=
  if succeeded then { v with commits := v.commits.advance }
  else { v with rollbacks := v.rollbacks.advance }

/-- Whether a business ended with success. -/
def Fate.succeeded : Fate (Except ε α) → Bool
  | .returned outcome => outcome.isOk
  | .unwound _ => false

namespace World

/-- The transaction of a launcher was closed; nothing else but events was recorded. -/
structure Closed (w : Worker) (l : Launch) (succeeded : Bool) (s t : World ρ) : Prop where
  slots : t.slots = s.slots
  config : t.config = s.config
  installed : t.installed = s.installed
  managers : t.managers =
    (s.setManager l.manager ((s.managers l.manager).closed succeeded)).managers
  calls : t.calls = s.calls ++ [⟨l.manager, s.bound w,
    .closing succeeded l.xid ((s.managers l.manager).closing succeeded)⟩]
  rest : t.rest = s.rest

variable {l : Launch} {succeeded : Bool}

theorem calls_event (s : World ρ) (w : Worker) (e : Event) :
    (s.record w (.event e)).calls = s.calls :=
  (calls_record s w (.event e)).trans (List.append_nil _)

theorem Called.then_event {m : ManagerName} {e : Exchange} (h : Called w m e s t) (told : Event) :
    Called w m e s (t.record w (.event told)) :=
  ⟨h.slots, h.config, h.installed, (calls_event t w told).trans h.calls, h.rest⟩

theorem Closed.then_event (h : Closed w l succeeded s t) (e : Event) :
    Closed w l succeeded s (t.record w (.event e)) :=
  ⟨h.slots, h.config, h.installed, h.managers, (calls_event t w e).trans h.calls, h.rest⟩

theorem Closed.of_event {e : Event} (h : Closed w l succeeded (s.record w (.event e)) t) :
    Closed w l succeeded s t :=
  ⟨h.slots, h.config, h.installed, h.managers, calls_event s w e ▸ h.calls, h.rest⟩

theorem Closed.silent (h : Closed w l succeeded s t) : Silent w s t :=
  ⟨h.slots, h.config, h.installed, h.rest⟩

end World

theorem Manager.commit_run_closed (l : Launch) (w : Worker) (s : World ρ) :
    ∃ t, commit l.manager l.xid w s = .ok ⟨((s.managers l.manager).closing true).fate, t⟩ ∧
      Closed w l true s t :=
  ⟨_, settle_run _ w _, rfl, rfl, rfl, rfl, calls_record _ w _, rfl⟩

theorem Manager.rollback_run_closed (l : Launch) (w : Worker) (s : World ρ) :
    ∃ t, rollback l.manager l.xid w s = .ok ⟨((s.managers l.manager).closing false).fate, t⟩ ∧
      Closed w l false s t :=
  ⟨_, settle_run _ w _, rfl, rfl, rfl, rfl, calls_record _ w _, rfl⟩

namespace Launch

/-- What a call reports when its business returned, by the answer of the manager. -/
def report : Except ε α → Answer GlobalStatus → Fate (Except (CallError ε) α)
  | _, .panicked p => .unwound p
  | .ok a, .granted _ => .returned (.ok a)
  | .ok _, .refused e => .returned (.error (.commitFailed e))
  | .error b, .granted _ => .returned (.error (.business b))
  | .error b, .refused e => .returned (.error (.rollbackFailed e b))

/-- Completing closes the transaction, and reports by the answer. -/
theorem complete_run (l : Launch) (outcome : Except ε α) (w : Worker) (s : World ρ) :
    ∃ t, l.complete outcome w s =
        .ok ⟨report outcome ((s.managers l.manager).closing outcome.isOk), t⟩ ∧
      Closed w l outcome.isOk s t := by
  cases outcome with
  | ok a =>
    obtain ⟨t, asked, closed⟩ := Manager.commit_run_closed l w s
    simp only [complete, Except.isOk, Except.toBool]
    generalize (s.managers l.manager).closing true = answer at asked
    cases answer with
    | granted status => exact ⟨_, bind_of_returned asked _, closed.then_event _⟩
    | refused e => exact ⟨_, bind_of_returned asked _, closed.then_event _⟩
    | panicked p => exact ⟨t, bind_of_unwound asked _, closed⟩
  | error b =>
    obtain ⟨t, asked, closed⟩ := Manager.rollback_run_closed l w s
    simp only [complete, Except.isOk, Except.toBool]
    generalize (s.managers l.manager).closing false = answer at asked
    cases answer with
    | granted status => exact ⟨_, bind_of_returned asked _, closed.then_event _⟩
    | refused e => exact ⟨_, bind_of_returned asked _, closed.then_event _⟩
    | panicked p => exact ⟨t, bind_of_unwound asked _, closed⟩

/-- Abandoning rolls the transaction back, and unwinds only if the manager does. -/
theorem abandon_run (l : Launch) (w : Worker) (s : World ρ) :
    ∃ t, l.abandon w s =
        .ok ⟨((s.managers l.manager).closing false).fate.map fun _ => (), t⟩ ∧
      Closed w l false s t := by
  obtain ⟨t, asked, closed⟩ :=
    Manager.rollback_run_closed l w (s.record w (.event (.abandoned l.xid)))
  have closed := closed.of_event
  have told : (Action.log (.abandoned l.xid) : Action ρ Unit) w s =
    .ok ⟨.returned (), s.record w (.event (.abandoned l.xid))⟩ := rfl
  rw [abandon, bind_of_returned told]
  change Manager.rollback l.manager l.xid w _ =
    .ok ⟨((s.managers l.manager).closing false).fate, t⟩ at asked
  generalize (s.managers l.manager).closing false = answer at asked
  cases answer with
  | granted status => exact ⟨_, bind_of_returned asked _, closed.then_event _⟩
  | refused e => exact ⟨_, bind_of_returned asked _, closed.then_event _⟩
  | panicked p => exact ⟨t, bind_of_unwound asked _, closed⟩

end Launch

/-! ## The end of a call -/

namespace Part

/-- A call that joined leaves the world alone. -/
theorem leave_joined (x : Xid) (fate : Fate (Except ε α)) (w : Worker) (s : World ρ) :
    (joined x).leave fate w s = .ok ⟨fate.map fun o => o.mapError .business, s⟩ := by
  cases fate <;> rfl

/-- A launcher whose business returned closes its transaction and then unbinds. -/
theorem leave_of_returned (l : Launch) (outcome : Except ε α) (w : Worker) (s : World ρ) :
    ∃ t u, (launched l).leave (.returned outcome) w s =
        .ok ⟨Launch.report outcome ((s.managers l.manager).closing outcome.isOk), u⟩ ∧
      Closed w l outcome.isOk s t ∧ Turned w t u ∧ u.slot w = { t.slot w with xid := none } := by
  obtain ⟨t, completed, closed⟩ := l.complete_run outcome w s
  obtain ⟨u, released, turned, slot⟩ := l.release_run w t
  refine ⟨t, u, ?_, closed, turned, slot⟩
  show ((l.complete outcome).ensuring l.release) w s = _
  rw [Action.ensuring, bind_of_returned (attempt_of_ran completed),
    bind_of_returned (attempt_of_ran released)]
  exact resume_run _ w u

/-- A launcher whose business unwound unbinds and then rolls its transaction back; if the manager
panics as well, everything ends. -/
theorem leave_of_unwound (l : Launch) (p : Panic) (w : Worker) (s : World ρ) :
    ∃ t u, Turned w s t ∧ t.slot w = { s.slot w with xid := none } ∧ Closed w l false t u ∧
      (launched l).leave (ε := ε) (α := α) (.unwound p) w s =
        match (t.managers l.manager).closing false with
        | .panicked _ => .error .aborted
        | _ => .ok ⟨.unwound p, u⟩ := by
  obtain ⟨t, released, turned, slot⟩ := l.release_run w s
  obtain ⟨u, abandoned, closed⟩ := l.abandon_run w t
  refine ⟨t, u, turned, slot, closed, ?_⟩
  have cleanup : (do l.release; l.abandon : Action ρ Unit) w s =
      .ok ⟨((t.managers l.manager).closing false).fate.map fun _ => (), u⟩ := by
    rw [bind_of_returned released, abandoned]
  show ((Action.panic p).ensuring (do l.release; l.abandon)) w s = _
  have panicked : (Action.panic p : Action ρ (Except (CallError ε) α)) w s =
    .ok ⟨.unwound p, s⟩ := rfl
  rw [Action.ensuring, bind_of_returned (attempt_of_ran panicked),
    bind_of_returned (attempt_of_ran cleanup)]
  cases (t.managers l.manager).closing false <;> rfl

/-- However the business of a launcher ended, the transaction of the launcher is closed by one call
to its manager, and nothing else is called; unless the process is aborted, because the business
unwound and so does the rollback. -/
theorem leave_launched_calls (l : Launch) (fate : Fate (Except ε α)) (w : Worker) (s : World ρ) :
    ((launched l).leave fate w s = .error .aborted ∧
        ∃ p, (s.managers l.manager).closing false = .panicked p) ∨
      ∃ r bound answer, (launched l).leave fate w s = .ok r ∧
        r.world.calls = s.calls ++ [⟨l.manager, bound, .closing fate.succeeded l.xid answer⟩] ∧
        r.world.rest = s.rest := by
  cases fate with
  | returned outcome =>
    obtain ⟨t, u, left, closed, turned, -⟩ := leave_of_returned l outcome w s
    have calls := turned.calls.trans closed.calls
    have rest := turned.rest.trans closed.rest
    exact .inr ⟨_, _, _, left, calls, rest⟩
  | unwound p =>
    obtain ⟨t, u, turned, -, closed, left⟩ := leave_of_unwound (ε := ε) (α := α) l p w s
    have calls := closed.calls
    have rest := closed.rest.trans turned.rest
    rw [turned.calls] at calls
    rw [left, turned.managers]
    cases (s.managers l.manager).closing false with
    | panicked q => exact .inl ⟨rfl, q, rfl⟩
    | granted status => exact .inr ⟨_, _, _, rfl, calls, rest⟩
    | refused e => exact .inr ⟨_, _, _, rfl, calls, rest⟩

end Part

/-! ## The start of a call -/

/-- What comes of asking this manager for a transaction, by the answer. -/
def Answer.launched (m : ManagerName) : Answer Xid → Fate (Except (CallError ε) Launch)
  | .granted x => .returned (.ok ⟨m, x⟩)
  | .refused e => .returned (.error (.beginFailed e))
  | .panicked p => .unwound p

/-- How the start of a call ends that asked this manager for a transaction. -/
def Answer.begun (m : ManagerName) (answer : Answer Xid) : Fate (Except (CallError ε) Part) :=
  (answer.launched m).map fun outcome => outcome.map .launched

/-- What was bound where a call of this part started. -/
def Part.found : Part → Option Xid
  | .joined x => some x
  | .launched _ => none

namespace Template

/-- What a manager is told when a call begins a transaction in this slot. -/
def request (t : Template) (info : CallInfo) (config : ContextConfig) (slot : Slot) :
    BeginRequest where
  application := t.options.application
  group := t.options.group
  name := info.name
  timeout := (info.timeout.or (slot.timeout.or config.defaultTimeout)).getD t.options.defaultTimeout

/-- How a call starts, and the world that it leaves. -/
inductive Starts (t : Template) (info : CallInfo) (w : Worker) (s : World ρ) :
    Fate (Except (CallError ε) Part) → World ρ → Prop where
  /-- It joins what is bound. -/
  | joins {x : Xid} (bound : s.bound w = some x) :
      Starts t info w s (.returned (.ok (.joined x))) (s.record w (.event (.joined x info.name)))
  /-- There is no manager to ask. -/
  | unmanaged (unbound : s.bound w = none) (missing : t.manager.or s.installed = none) :
      Starts t info w s (.returned (.error (.setup .noManager))) s
  /-- It asks a manager for a transaction. -/
  | asks {m : ManagerName} {answer : Answer Xid} {u : World ρ} (unbound : s.bound w = none)
      (found : t.manager.or s.installed = some m)
      (called : Called w m (.launch (t.request info s.config (s.slot w)) answer) s u) :
      Starts t info w s (answer.begun m) u

theorem launch_run (t : Template) (info : CallInfo) {m : ManagerName} (w : Worker) (s : World ρ)
    (found : t.manager.or s.installed = some m) :
    ∃ answer u, (t.launch info : Action ρ (Except (CallError ε) Launch)) w s =
        .ok ⟨answer.launched m, u⟩ ∧
      Called w m (.launch (t.request info s.config (s.slot w)) answer) s u := by
  obtain ⟨answer, u, asked, called⟩ :=
    Manager.launch_run m (t.request info s.config (s.slot w)) w s
  refine ⟨answer, ?_⟩
  rw [launch, bind_of_returned (t.managerInUse_run w s), found]
  simp only
  rw [bind_of_returned (t.timeoutInUse_run info w s)]
  cases answer with
  | granted x => exact ⟨_, bind_of_returned asked _, called.then_event _⟩
  | refused e => exact ⟨_, bind_of_returned asked _, called.then_event _⟩
  | panicked p => exact ⟨u, bind_of_unwound asked _, called⟩

/-- Every call starts in one of these ways. -/
theorem start_run (t : Template) (info : CallInfo) (w : Worker) (s : World ρ) :
    ∃ fate u, (t.start info : Action ρ (Except (CallError ε) Part)) w s = .ok ⟨fate, u⟩ ∧
      t.Starts info w s fate u := by
  cases bound : s.bound w with
  | some x =>
    refine ⟨_, _, ?_, .joins bound⟩
    rw [start, bind_of_returned (Ambient.current_run w s), bound]
    rfl
  | none =>
    have begins : t.start info w s =
        ((do return (← t.launch info).map .launched :
          Action ρ (Except (CallError ε) Part)) w s) := by
      rw [start, bind_of_returned (Ambient.current_run w s), bound]
    cases found : t.manager.or s.installed with
    | none =>
      refine ⟨_, _, ?_, .unmanaged bound found⟩
      rw [begins, launch, bind_assoc, bind_of_returned (t.managerInUse_run w s), found]
      rfl
    | some m =>
      obtain ⟨answer, u, launched, called⟩ := t.launch_run (ε := ε) info w s found
      refine ⟨_, u, ?_, .asks bound found called⟩
      rw [begins]
      cases answer with
      | granted x => exact bind_of_returned launched _
      | refused e => exact bind_of_returned launched _
      | panicked p => exact bind_of_unwound launched _

theorem Starts.of_run {t : Template} {info : CallInfo} {u : World ρ}
    {fate : Fate (Except (CallError ε) Part)} (ran : t.start info w s = .ok ⟨fate, u⟩) :
    t.Starts info w s fate u := by
  obtain ⟨fate', u', started, starts⟩ := t.start_run (ε := ε) info w s
  cases started.symm.trans ran
  exact starts

theorem Starts.silent {t : Template} {info : CallInfo} {u : World ρ}
    {fate : Fate (Except (CallError ε) Part)} (h : t.Starts info w s fate u) : Silent w s u := by
  cases h with
  | joins bound => exact silent_record w s _
  | unmanaged unbound missing => exact silent_repeats.refl w s
  | asks unbound found called => exact called.silent

/-- The part that a call gets tells what was bound when it started. -/
theorem Starts.found {t : Template} {info : CallInfo} {part : Part} {u : World ρ}
    (starts : t.Starts (ε := ε) info w s (.returned (.ok part)) u) : s.bound w = part.found := by
  generalize reached : (.returned (.ok part) : Fate (Except (CallError ε) Part)) = fate at starts
  cases starts with
  | joins bound =>
    cases reached
    exact bound
  | unmanaged unbound missing => cases reached
  | @asks m answer _ unbound found called =>
    cases answer with
    | granted x =>
      cases reached
      exact unbound
    | refused e => cases reached
    | panicked p => cases reached

end Template

/-- Before its business a call binds its transaction, if it is not bound already. -/
theorem Part.bind_run (part : Part) (w : Worker) (s : World ρ)
    (joined : ∀ x, part = .joined x → s.bound w = some x) :
    Rebinds part.bind w s () (some part.xid) := by
  cases part with
  | joined x =>
    refine ⟨s, rfl, turned_repeats.refl w s, fun _ => ?_⟩
    show s.slot w = { s.slot w with xid := some x }
    rw [← joined x rfl]
    rfl
  | launched l =>
    obtain ⟨t, bound, turned, slot⟩ := Ambient.bind_run l.xid w s
    exact ⟨t, bind_of_returned bound _, turned, slot⟩

/-! ## A whole call -/

namespace Template

variable {t : Template} {info : CallInfo} {u v : World ρ}

/-- A call that gets no part in a transaction does not run its business. -/
theorem execute_of_refused {e : CallError ε}
    (started : t.start info w s = .ok ⟨.returned (.error e), u⟩)
    (business : Action ρ (Except ε α)) :
    t.execute info business w s = .ok ⟨.returned (.error e), u⟩ := by
  have entered : t.enter info w s = .ok ⟨.returned (.error e), u⟩ := bind_of_returned started _
  exact bind_of_returned entered _

theorem execute_of_unwound {p : Panic}
    (started : (t.start info : Action ρ (Except (CallError ε) Part)) w s = .ok ⟨.unwound p, u⟩)
    (business : Action ρ (Except ε α)) :
    t.execute info business w s = .ok ⟨.unwound p, u⟩ := by
  have entered : (t.enter info : Action ρ (Except (CallError ε) Part)) w s =
    .ok ⟨.unwound p, u⟩ := bind_of_unwound started _
  exact bind_of_unwound entered _

/-- A call that gets a part in a transaction runs its business with the transaction bound. -/
theorem execute_of_part {part : Part}
    (started : (t.start info : Action ρ (Except (CallError ε) Part)) w s =
      .ok ⟨.returned (.ok part), u⟩)
    (bound : part.bind w u = .ok ⟨.returned (), v⟩) (business : Action ρ (Except ε α)) :
    t.execute info business w s = (business.attempt >>= part.leave) w v := by
  have entered : (t.enter info : Action ρ (Except (CallError ε) Part)) w s =
      .ok ⟨.returned (.ok part), v⟩ := by
    rw [enter, bind_of_returned started]
    exact bind_of_returned bound _
  exact bind_of_returned entered _

end Template

end AmbientTx
