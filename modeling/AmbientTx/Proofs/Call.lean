import AmbientTx.Proofs.Ambient
import AmbientTx.Stay

/-! # What a transactional call does to the slots

Calls to a manager are recorded before their answers take effect, and change no slot. Everything
that a template does around its business changes no slot either, apart from binding and unbinding
what it launched (`World.Silent`).
-/

namespace AmbientTx

variable {ρ κ α ε : Type} {w : Worker} {s t : World ρ}

/-! ## Calls to a manager -/

/-- How a call with this answer ends. -/
def Answer.fate : Answer α → Fate (Except ManagerFailure α)
  | .granted a => .returned (.ok a)
  | .refused e => .returned (.error e)
  | .panicked p => .unwound p

namespace World

/-- Only a call was recorded, and the answers of its manager may have moved on. -/
structure Called (w : Worker) (m : ManagerName) (e : Exchange) (s t : World ρ) : Prop where
  slots : t.slots = s.slots
  config : t.config = s.config
  installed : t.installed = s.installed
  calls : t.calls = s.calls ++ [⟨m, s.bound w, e⟩]
  rest : t.rest = s.rest

theorem called_record (w : Worker) (s : World ρ) (m : ManagerName) (v : Manager) (e : Exchange) :
    Called w m e s ((s.setManager m v).record w (.call ⟨m, s.bound w, e⟩)) :=
  ⟨rfl, rfl, rfl, calls_record (s.setManager m v) w _, rfl⟩

/-- No slot changed, and neither did what all workers share. -/
structure Silent (_ : Worker) (s t : World ρ) : Prop where
  slots : t.slots = s.slots
  config : t.config = s.config
  installed : t.installed = s.installed
  rest : t.rest = s.rest

theorem silent_repeats : Repeats (Silent (ρ := ρ)) where
  refl _ _ := ⟨rfl, rfl, rfl, rfl⟩
  trans h k :=
    ⟨k.slots.trans h.slots, k.config.trans h.config, k.installed.trans h.installed,
      k.rest.trans h.rest⟩

theorem Called.silent {m : ManagerName} {e : Exchange} (h : Called w m e s t) : Silent w s t :=
  ⟨h.slots, h.config, h.installed, h.rest⟩

theorem Silent.slot (h : Silent w s t) (v : Worker) : t.slot v = s.slot v := by
  simp only [World.slot, h.slots]

theorem Silent.bound (h : Silent w s t) (v : Worker) : t.bound v = s.bound v := by
  rw [World.bound, h.slot, World.bound]

theorem silent_record (w : Worker) (s : World ρ) (h : Happening) : Silent w s (s.record w h) :=
  ⟨rfl, rfl, rfl, rfl⟩

end World

open World AmbientTx.Action

namespace Manager

theorem settle_run (answer : Answer α) (w : Worker) (s : World ρ) :
    (settle answer : Action ρ (Except ManagerFailure α)) w s = .ok ⟨answer.fate, s⟩ := by
  cases answer <;> rfl

/-- A manager is asked to begin a transaction, and answers somehow. -/
theorem launch_run (m : ManagerName) (request : BeginRequest) (w : Worker) (s : World ρ) :
    ∃ answer t, launch m request w s = .ok ⟨answer.fate, t⟩ ∧
      Called w m (.launch request answer) s t :=
  ⟨_, _, settle_run _ w _, called_record w s m _ _⟩

/-- A manager is asked to commit a transaction, and answers somehow. -/
theorem commit_run (m : ManagerName) (x : Xid) (w : Worker) (s : World ρ) :
    ∃ answer t, commit m x w s = .ok ⟨answer.fate, t⟩ ∧ Called w m (.commit x answer) s t :=
  ⟨_, _, settle_run _ w _, called_record w s m _ _⟩

/-- A manager is asked to roll a transaction back, and answers somehow. -/
theorem rollback_run (m : ManagerName) (x : Xid) (w : Worker) (s : World ρ) :
    ∃ answer t, rollback m x w s = .ok ⟨answer.fate, t⟩ ∧ Called w m (.rollback x answer) s t :=
  ⟨_, _, settle_run _ w _, called_record w s m _ _⟩

/-- A call that is only recorded changes no slot. -/
theorem silent_of_called {x : Action ρ (Except ManagerFailure α)} {m : ManagerName}
    {e : Answer α → Exchange}
    (h : ∀ w s, ∃ answer t, x w s = .ok ⟨answer.fate, t⟩ ∧ Called w m (e answer) s t) :
    Keeps Silent x := by
  intro w s r ran
  obtain ⟨answer, t, hrun, hcall⟩ := h w s
  obtain rfl := Except.ok.inj (hrun.symm.trans ran)
  exact hcall.silent

theorem launch_silent (m : ManagerName) (request : BeginRequest) :
    Keeps Silent (launch m request : Action ρ (Except ManagerFailure Xid)) :=
  silent_of_called (launch_run m request)

theorem commit_silent (m : ManagerName) (x : Xid) :
    Keeps Silent (commit m x : Action ρ (Except ManagerFailure GlobalStatus)) :=
  silent_of_called (commit_run m x)

theorem rollback_silent (m : ManagerName) (x : Xid) :
    Keeps Silent (rollback m x : Action ρ (Except ManagerFailure GlobalStatus)) :=
  silent_of_called (rollback_run m x)

end Manager

/-- What changes no slot leaves bound what was bound. -/
theorem bound_of_silent {x : Action ρ α} (h : Keeps Silent x) (v : Option Xid) :
    Triple w (fun s => s.bound w = v) x fun _ s => s.bound w = v :=
  Triple.of_keeps h fun silent bound => (silent.bound _).trans bound

theorem log_silent (e : Event) : Keeps Silent (Action.log e : Action ρ Unit) :=
  (Calm.modify (R := Silent) fun w s => silent_record w s (.event e)).keeps

/-! ## Completing and beginning -/

namespace Launch

theorem logCommit_calm (x : Xid) (status : GlobalStatus) :
    Calm Turned (logCommit x status : Action ρ Unit) := by
  refine log_calm ?_
  split <;> rfl

theorem logRollback_calm (x : Xid) (status : GlobalStatus) :
    Calm Turned (logRollback x status : Action ρ Unit) := by
  refine log_calm ?_
  split <;> rfl

theorem complete_silent (l : Launch) (outcome : Except ε α) :
    Keeps Silent (l.complete outcome : Action ρ (Except (CallError ε) α)) := by
  cases outcome with
  | ok a =>
    refine Keeps.bind silent_repeats (Manager.commit_silent _ _) fun answer => ?_
    cases answer with
    | error e =>
      exact Keeps.bind silent_repeats (log_silent _) fun _ => Keeps.pure silent_repeats _
    | ok status =>
      exact Keeps.bind silent_repeats (log_silent _) fun _ => Keeps.pure silent_repeats _
  | error b =>
    refine Keeps.bind silent_repeats (Manager.rollback_silent _ _) fun answer => ?_
    cases answer with
    | error e =>
      exact Keeps.bind silent_repeats (log_silent _) fun _ => Keeps.pure silent_repeats _
    | ok status =>
      exact Keeps.bind silent_repeats (log_silent _) fun _ =>
        Keeps.pure silent_repeats _

theorem abandon_silent (l : Launch) : Keeps Silent (l.abandon : Action ρ Unit) := by
  refine Keeps.bind silent_repeats (log_silent _) fun _ =>
    Keeps.bind silent_repeats (Manager.rollback_silent _ _) fun answer => ?_
  cases answer with
  | error e => exact log_silent _
  | ok status => exact log_silent _

/-- Releasing leaves nothing bound. -/
theorem release_run (l : Launch) (w : Worker) (s : World ρ) :
    ∃ t, l.release w s = .ok ⟨.returned (), t⟩ ∧ Turned w s t ∧
      t.slot w = { s.slot w with xid := none } := by
  obtain ⟨t, hrun, hturn, hslot⟩ := Ambient.unbind_run w s
  rw [release, bind_of_returned hrun]
  cases s.bound w with
  | none => exact ⟨t, rfl, hturn, hslot⟩
  | some found =>
    by_cases h : found = l.xid
    · exact ⟨t, by simp only [if_pos h]; rfl, hturn, hslot⟩
    · refine ⟨t.record w (.event (.rebound l.xid found)), by simp only [if_neg h]; rfl,
        turned_repeats.trans hturn (turned_event w t rfl), hslot⟩

theorem release_calm (l : Launch) : Calm Turned (l.release : Action ρ Unit) := by
  intro w s
  obtain ⟨t, hrun, hturn, -⟩ := l.release_run w s
  exact ⟨(), t, hrun, hturn⟩

end Launch

namespace Part

theorem bind_calm (part : Part) : Calm Turned (part.bind : Action ρ Unit) := by
  cases part with
  | joined x => exact Calm.pure turned_repeats ()
  | launched l =>
    exact Calm.bind turned_repeats (Ambient.bind_calm l.xid) fun _ => Calm.pure turned_repeats ()

theorem release_calm (part : Part) : Calm Turned (part.release : Action ρ Unit) := by
  cases part with
  | joined x => exact Calm.pure turned_repeats ()
  | launched l => exact l.release_calm

theorem complete_silent (part : Part) (outcome : Except ε α) :
    Keeps Silent (part.complete outcome : Action ρ (Except (CallError ε) α)) := by
  cases part with
  | joined x => exact Keeps.pure silent_repeats _
  | launched l => exact l.complete_silent outcome

theorem abandon_silent (part : Part) : Keeps Silent (part.abandon : Action ρ Unit) := by
  cases part with
  | joined x => exact Keeps.pure silent_repeats _
  | launched l => exact l.abandon_silent

end Part

namespace Template

theorem managerInUse_run (t : Template) (w : Worker) (s : World ρ) :
    t.managerInUse w s = .ok ⟨.returned (t.manager.or s.installed), s⟩ := by
  unfold managerInUse
  cases t.manager <;> rfl

theorem managerInUse_calm (t : Template) :
    Calm Turned (t.managerInUse : Action ρ (Option ManagerName)) :=
  Calm.read turned_repeats _ t.managerInUse_run

theorem timeoutInUse_run (t : Template) (info : CallInfo) (w : Worker) (s : World ρ) :
    t.timeoutInUse info w s = .ok ⟨.returned ((info.timeout.or ((s.slot w).timeout.or
      s.config.defaultTimeout)).getD t.options.defaultTimeout), s⟩ := by
  unfold timeoutInUse
  cases info.timeout with
  | some n => rfl
  | none =>
    exact bind_of_returned (Ambient.timeout_run w s) fun n =>
      (Pure.pure (n.getD t.options.defaultTimeout) : Action ρ UInt64)

theorem timeoutInUse_calm (t : Template) (info : CallInfo) :
    Calm Turned (t.timeoutInUse info : Action ρ UInt64) :=
  Calm.read turned_repeats _ (t.timeoutInUse_run info)

theorem launch_silent (t : Template) (info : CallInfo) :
    Keeps Silent (t.launch info : Action ρ (Except (CallError ε) Launch)) := by
  have found := Calm.read silent_repeats (ρ := ρ) _ t.managerInUse_run
  have timeout := Calm.read silent_repeats (ρ := ρ) _ (t.timeoutInUse_run info)
  refine Keeps.bind silent_repeats found.keeps fun found => ?_
  cases found with
  | none => exact Keeps.pure silent_repeats _
  | some m =>
    refine Keeps.bind silent_repeats timeout.keeps fun timeout =>
      Keeps.bind silent_repeats (Manager.launch_silent _ _) fun answer => ?_
    cases answer with
    | error e =>
      exact Keeps.bind silent_repeats (log_silent _) fun _ => Keeps.pure silent_repeats _
    | ok x =>
      exact Keeps.bind silent_repeats (log_silent _) fun _ => Keeps.pure silent_repeats _

theorem start_silent (t : Template) (info : CallInfo) :
    Keeps Silent (t.start info : Action ρ (Except (CallError ε) Part)) := by
  refine Keeps.bind silent_repeats
    (Calm.read silent_repeats (fun w s => s.bound w) fun _ _ => rfl).keeps fun bound => ?_
  cases bound with
  | some x => exact Keeps.bind silent_repeats (log_silent _) fun _ => Keeps.pure silent_repeats _
  | none =>
    exact Keeps.bind silent_repeats (t.launch_silent info) fun _ => Keeps.pure silent_repeats _

end Template
end AmbientTx
