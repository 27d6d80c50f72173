import AmbientTx.Failure.Fault
import AmbientTx.Proofs.Course
import AmbientTx.Proofs.Poll

/-! # What a call reports

The outcome of a transactional call tells exactly what happened: whether its business ran and how
that ended, and whether a manager refused one of the calls that it made itself (`Account.Explains`).
A call of its own is one that it makes before or after its business, not one that is made while the
business runs, or on any worker between two polls.
-/

namespace AmbientTx

variable {ρ κ α β ε : Type} {w : Worker} {s t : World ρ}

open World AmbientTx.Action

/-! ## Accounts -/

/-- The failure that a request was refused with. -/
def Answer.refusal? : Answer α → Option ManagerFailure
  | .refused e => some e
  | .granted _ | .panicked _ => none

/-- The failure that a call was refused with. -/
def Call.refusal? (c : Call) : Option ManagerFailure :=
  match c.exchange with
  | .launch _ answer => answer.refusal?
  | .commit _ answer | .rollback _ answer => answer.refusal?

/-- Whether a manager granted a commit, with whatever status. -/
def Call.commits (c : Call) : Bool :=
  match c.exchange with
  | .commit _ (.granted _) => true
  | _ => false

theorem Call.refusal?_closing {m : ManagerName} {bound : Option Xid} {succeeded : Bool} {x : Xid}
    {answer : Answer GlobalStatus} :
    Call.refusal? ⟨m, bound, .closing succeeded x answer⟩ = answer.refusal? := by
  cases succeeded <;> rfl

/-- The role of a call that is made on a worker. -/
def World.role (s : World ρ) (w : Worker) : Role :=
  if (s.bound w).isSome then .participant else .launcher

/-- What happened in a call that returned. -/
structure Account (ε α : Type) where
  role : Role
  /-- The manager of the template, or else the one that was installed. -/
  manager : Option ManagerName
  /-- The calls to a manager that the call made itself, in order. -/
  own : List Call
  /-- How the business ended, if it ran. -/
  business : Option (Except ε α)

/-- The outcome of a call tells what happened. -/
structure Account.Explains (a : Account ε α) (outcome : Except (CallError ε) α) : Prop where
  /-- It is a value if the business returned it and, in a launcher, was committed. -/
  ok : ∀ v, outcome = .ok v ↔
    a.business = some (.ok v) ∧ (a.role = .participant ∨ ∃ c ∈ a.own, c.commits)
  /-- An error carries what the business failed with, if it did. -/
  business : ∀ e, outcome = .error e → ∀ b, e.business? = some b ↔ a.business = some (.error b)
  /-- An error carries the failure of a call of its own, if one was refused. -/
  failure : ∀ e, outcome = .error e → ∀ f, e.failure? = some f ↔ ∃ c ∈ a.own, c.refusal? = some f
  unmanaged : ∀ e, outcome = .error e →
    (e = .setup .noManager ↔ a.role = .launcher ∧ a.manager = none)
  unrun : ∀ e, outcome = .error e → (e = .setup .noManager ∨ ∃ f, e = .beginFailed f) →
    a.business = none

theorem Account.explains_ok {a : Account ε α} {v : α} (ended : a.business = some (.ok v))
    (kept : a.role = .participant ∨ ∃ c ∈ a.own, c.commits) : a.Explains (.ok v) where
  ok v' := by
    constructor
    · intro same
      cases same
      exact ⟨ended, kept⟩
    · rintro ⟨ended', -⟩
      cases ended.symm.trans ended'
      rfl
  business := nofun
  failure := nofun
  unmanaged := nofun
  unrun := nofun

theorem Account.explains_error {a : Account ε α} {e : CallError ε}
    (failed : ∀ v, a.business = some (.ok v) → ¬ (a.role = .participant ∨ ∃ c ∈ a.own, c.commits))
    (business : ∀ b, e.business? = some b ↔ a.business = some (.error b))
    (failure : ∀ f, e.failure? = some f ↔ ∃ c ∈ a.own, c.refusal? = some f)
    (unmanaged : e = .setup .noManager ↔ a.role = .launcher ∧ a.manager = none)
    (unrun : (e = .setup .noManager ∨ ∃ f, e = .beginFailed f) → a.business = none) :
    a.Explains (.error e) where
  ok v := by
    constructor
    · exact nofun
    · rintro ⟨ended, kept⟩
      exact absurd kept (failed v ended)
  business e' same := by
    cases same
    exact business
  failure e' same := by
    cases same
    exact failure
  unmanaged e' same := by
    cases same
    exact unmanaged
  unrun e' same := by
    cases same
    exact unrun

/-- What a launcher reports, by the answer to its last call. -/
theorem Account.explains_report {a : Account ε α} {outcome : Except ε α}
    {reported : Except (CallError ε) α} {m : ManagerName} {bound bound' : Option Xid} {x x' : Xid}
    {request : BeginRequest} {answer : Answer GlobalStatus} (role : a.role = .launcher)
    (managed : a.manager ≠ none) (ended : a.business = some outcome)
    (own : a.own = [⟨m, bound, .launch request (.granted x)⟩,
      ⟨m, bound', .closing outcome.isOk x' answer⟩])
    (reports : Launch.report outcome answer = .returned reported) : a.Explains reported := by
  -- the begin was granted, so the last call is the only one that may have been refused
  have begun : Call.refusal? ⟨m, bound, .launch request (.granted x)⟩ = none := rfl
  have failures (f : ManagerFailure) :
      (∃ c ∈ a.own, c.refusal? = some f) ↔ answer.refusal? = some f := by
    rw [own]
    simp [begun, Call.refusal?_closing]
  cases outcome with
  | ok v =>
    cases answer with
    | granted status =>
      cases reports
      refine Account.explains_ok ended (.inr ?_)
      rw [own]
      exact ⟨_, List.mem_cons_of_mem _ List.mem_cons_self, rfl⟩
    | refused f =>
      cases reports
      refine Account.explains_error ?_ ?_ ?_ ?_ (by simp)
      · simp [role, own, Call.commits, Exchange.closing, Except.isOk, Except.toBool]
      · simp [CallError.business?, ended]
      · simp [CallError.failure?, failures, Answer.refusal?]
      · simp [managed]
    | panicked p => cases reports
  | error b =>
    have failed (v : α) (succeeded : a.business = some (.ok v)) :
        ¬ (a.role = .participant ∨ ∃ c ∈ a.own, c.commits) := by
      rw [ended] at succeeded
      cases succeeded
    cases answer with
    | granted status =>
      cases reports
      refine Account.explains_error failed ?_ ?_ ?_ (by simp)
      · simp [CallError.business?, ended]
      · simp [CallError.failure?, failures, Answer.refusal?]
      · simp [managed]
    | refused f =>
      cases reports
      refine Account.explains_error failed ?_ ?_ ?_ (by simp)
      · simp [CallError.business?, ended]
      · simp [CallError.failure?, failures, Answer.refusal?]
      · simp [managed]
    | panicked p => cases reports

/-- What a part in a transaction makes of the outcome of a business, and the calls that it makes for
that. -/
inductive Part.Completes : Part → Except ε α → Except (CallError ε) α → List Call → Prop where
  | joined (x : Xid) (outcome : Except ε α) :
      Completes (.joined x) outcome (outcome.mapError .business) []
  | launched (l : Launch) (bound : Option Xid) (answer : Answer GlobalStatus)
      {outcome : Except ε α} {reported : Except (CallError ε) α}
      (reports : Launch.report outcome answer = .returned reported) :
      Completes (.launched l) outcome reported
        [⟨l.manager, bound, .closing outcome.isOk l.xid answer⟩]

theorem Part.complete_run (part : Part) (outcome : Except ε α) (w : Worker) (s : World ρ) :
    ∃ fate t own, part.complete outcome w s = .ok ⟨fate, t⟩ ∧ t.calls = s.calls ++ own ∧
      ∀ reported, fate = .returned reported → part.Completes outcome reported own := by
  cases part with
  | joined x =>
    refine ⟨_, s, [], rfl, (List.append_nil _).symm, ?_⟩
    intro reported same
    cases same
    exact .joined x outcome
  | launched l =>
    obtain ⟨t, ran, closed⟩ := l.complete_run outcome w s
    exact ⟨_, t, _, ran, closed.calls, fun reported reports => .launched l _ _ reports⟩

theorem Part.leave_run (part : Part) (outcome : Except ε α) (w : Worker) (s : World ρ) :
    ∃ fate t own, part.leave (.returned outcome) w s = .ok ⟨fate, t⟩ ∧
      t.calls = s.calls ++ own ∧
      ∀ reported, fate = .returned reported → part.Completes outcome reported own := by
  cases part with
  | joined x =>
    refine ⟨_, s, [], leave_joined x _ w s, (List.append_nil _).symm, ?_⟩
    intro reported same
    cases same
    exact .joined x outcome
  | launched l =>
    obtain ⟨t, u, left, closed, turned, -⟩ := leave_of_returned l outcome w s
    exact ⟨_, u, _, left, turned.calls.trans closed.calls,
      fun reported reports => .launched l _ _ reports⟩

/-- A call whose business unwound does not return. -/
theorem Part.leave_unwound {part : Part} {p : Panic} {reported : Except (CallError ε) α} :
    part.leave (.unwound p) w s ≠ .ok ⟨.returned reported, t⟩ := by
  intro left
  cases part with
  | joined x =>
    rw [leave_joined] at left
    cases left
  | launched l =>
    obtain ⟨u, v, -, -, -, left'⟩ := leave_of_unwound (ε := ε) (α := α) l p w s
    rw [left'] at left
    cases h : (u.managers l.manager).closing false <;> rw [h] at left <;> cases left

theorem World.role_of_bound {x : Xid} (bound : s.bound w = some x) : s.role w = .participant := by
  rw [World.role, bound]
  rfl

theorem World.role_of_unbound (unbound : s.bound w = none) : s.role w = .launcher := by
  rw [World.role, unbound]
  rfl

namespace Template

variable {t : Template} {info : CallInfo} {u : World ρ}

/-- A call that takes no part tells why. -/
theorem Starts.refused {e : CallError ε}
    (starts : t.Starts info w s (.returned (.error e)) u) :
    ∃ own, u.calls = s.calls ++ own ∧
      Account.Explains (α := α) ⟨s.role w, t.manager.or s.installed, own, none⟩ (.error e) := by
  generalize refused : (.returned (.error e) : Fate (Except (CallError ε) Part)) = fate at starts
  cases starts with
  | joins bound => cases refused
  | unmanaged unbound missing =>
    cases refused
    refine ⟨[], (List.append_nil _).symm, Account.explains_error nofun ?_ ?_ ?_ fun _ => rfl⟩
    · simp [CallError.business?]
    · simp [CallError.failure?]
    · simp [World.role_of_unbound unbound, missing]
  | asks unbound found called =>
    rename_i m answer
    cases answer with
    | granted x => cases refused
    | panicked p => cases refused
    | refused f =>
      cases refused
      refine ⟨_, called.calls, Account.explains_error nofun ?_ ?_ ?_ fun _ => rfl⟩
      · simp [CallError.business?]
      · simp [CallError.failure?, Call.refusal?, Answer.refusal?]
      · simp [found]

/-- A call that takes part tells what its business and its manager did. -/
theorem Starts.completed {part : Part}
    (starts : t.Starts (ε := ε) info w s (.returned (.ok part)) u) :
    ∃ before, u.calls = s.calls ++ before ∧
      ∀ (outcome : Except ε α) (reported : Except (CallError ε) α) (after : List Call),
        part.Completes outcome reported after →
          Account.Explains ⟨s.role w, t.manager.or s.installed, before ++ after, some outcome⟩
            reported := by
  generalize started : (.returned (.ok part) : Fate (Except (CallError ε) Part)) = fate at starts
  cases starts with
  | unmanaged unbound missing => cases started
  | joins bound =>
    cases started
    have role := World.role_of_bound bound
    refine ⟨[], (calls_event s w _).trans (List.append_nil _).symm, ?_⟩
    rintro outcome reported after ⟨⟩
    cases outcome with
    | ok v => exact Account.explains_ok rfl (.inl role)
    | error b =>
      refine Account.explains_error nofun ?_ ?_ ?_ (by simp)
      · simp [CallError.business?]
      · simp [CallError.failure?]
      · simp [role]
  | asks unbound found called =>
    rename_i m answer
    have role := World.role_of_unbound unbound
    cases answer with
    | refused f => cases started
    | panicked p => cases started
    | granted x =>
      cases started
      refine ⟨_, called.calls, ?_⟩
      rintro outcome reported after (_ | ⟨_, _, _, reports⟩)
      refine Account.explains_report role ?_ rfl rfl reports
      simp [found]

end Template

/-! ## Code in the middle of a call -/

/-- Whatever code stands at its place, `around` runs it once in this world, and all that it does
with it then depends on how the code ended. -/
def RunsOnce (around : Action ρ α → Action ρ β) (w : Worker) (s u : World ρ) : Prop :=
  ∃ closing : Fate α → Action ρ β, ∀ x, around x w s = (x.attempt >>= closing) w u

/-- From `s` to `t`, `around x` runs `x` once, which ends so; the calls to a manager around it are
`before` and `after`. -/
inductive RunsWithin (around : Action ρ α → Action ρ β) (x : Action ρ α) (w : Worker)
    (s t : World ρ) (fate : Fate α) (before after : List Call) : Prop where
  | intro {u v : World ρ} (once : RunsOnce around w s u) (ran : x w u = .ok ⟨fate, v⟩)
      (ahead : u.calls = s.calls ++ before) (behind : t.calls = v.calls ++ after)

theorem RunsOnce.of_bind {around : Action ρ α → Action ρ β} {u : World ρ} {f : α → Action ρ β}
    (runs : ∀ x, around x w s = (x >>= f) w u) : RunsOnce around w s u := by
  refine ⟨fun fate => Action.resume fate >>= f, fun x => ?_⟩
  rw [runs, bind_run, bind_run, Action.attempt]
  rcases x w u with halt | ⟨a | p, v⟩ <;> rfl

/-! ## Synchronous calls -/

/-- How a synchronous call came to this outcome. -/
inductive Template.Executes (t : Template) (info : CallInfo) (business : Action ρ (Except ε α))
    (w : Worker) (s s' : World ρ) (outcome : Except (CallError ε) α) (a : Account ε α) : Prop where
  /-- The same would have happened with any other business. -/
  | skipped (unrun : a.business = none)
      (same : ∀ other, t.execute info other w s = .ok ⟨.returned outcome, s'⟩)
      (calls : s'.calls = s.calls ++ a.own)
  /-- The business ran once, and the call made its own calls around it. -/
  | ran {result : Except ε α} {before after : List Call} (ended : a.business = some result)
      (own : a.own = before ++ after)
      (within : RunsWithin (t.execute info) business w s s' (.returned result) before after)

namespace Template

variable {t : Template} {info : CallInfo} {s' : World ρ}

/-- A synchronous call that returns tells what happened. -/
theorem execute_explained {business : Action ρ (Except ε α)} {outcome : Except (CallError ε) α}
    (ran : t.execute info business w s = .ok ⟨.returned outcome, s'⟩) :
    ∃ a : Account ε α, a.Explains outcome ∧ a.role = s.role w ∧
      a.manager = t.manager.or s.installed ∧ t.Executes info business w s s' outcome a := by
  obtain ⟨fate, u, started, starts⟩ := t.start_run (ε := ε) info w s
  rcases fate with (e | part) | p
  · have same := t.execute_of_refused (α := α) started
    cases ran.symm.trans (same business)
    obtain ⟨own, calls, explains⟩ := starts.refused (α := α)
    exact ⟨_, explains, rfl, rfl, .skipped rfl same calls⟩
  · obtain ⟨⟨⟩, v, bound, turned⟩ := part.bind_calm w u
    have runs := t.execute_of_part (α := α) started bound
    rw [runs] at ran
    obtain ⟨⟨result | p, v'⟩, ended, left⟩ := bind_attempt_eq_ok.1 ran
    · obtain ⟨fate, u', after, leaves, behind, completes⟩ := part.leave_run result w v'
      cases left.symm.trans leaves
      obtain ⟨before, calls, explains⟩ := starts.completed (α := α)
      have ahead : v.calls = s.calls ++ before := turned.calls.trans calls
      have within : RunsWithin (t.execute info) business w s s' (.returned result) before after :=
        .intro ⟨part.leave, runs⟩ ended ahead behind
      exact ⟨_, explains _ _ _ (completes outcome rfl), rfl, rfl, .ran rfl rfl within⟩
    · exact absurd left Part.leave_unwound
  · cases ran.symm.trans (t.execute_of_unwound started business)

end Template

/-! ## Asynchronous calls -/

/-- A poll: the worker that polls, and the world before and after. -/
structure Visit (ρ : Type) where
  worker : Worker
  before : World ρ
  after : World ρ

namespace Task

/-- These polls of a task, wherever they are and whatever happens between them, end it with this
outcome. -/
inductive Resolves (run : κ → Action ρ (κ × Fate (Progress α))) :
    Task κ → List (Visit ρ) → Except TaskFailure α → Prop where
  | ready {w : Worker} {task task' : Task κ} {s s' : World ρ} {outcome : Except TaskFailure α}
      (polled : task.poll run w s = .ok ⟨.returned (task', .returned (.ready outcome)), s'⟩) :
      Resolves run task [⟨w, s, s'⟩] outcome
  | waits {w : Worker} {task task' : Task κ} {s s' : World ρ} {visits : List (Visit ρ)}
      {outcome : Except TaskFailure α}
      (polled : task.poll run w s = .ok ⟨.returned (task', .returned .waiting), s'⟩)
      (rest : Resolves run task' visits outcome) :
      Resolves run task (⟨w, s, s'⟩ :: visits) outcome

/-- These polls of a call, which are `around` a business at first, poll the business once each
until it ends with this outcome; the calls to a manager around the business are `own`. -/
inductive Pursues (run : κ → Action ρ (κ × Fate (Progress α))) :
    (Action ρ (Polled κ α) → Action ρ (Polled κ α)) → Task κ → List (Visit ρ) →
      Except TaskFailure α → List Call → Prop where
  | ready {around : Action ρ (Polled κ α) → Action ρ (Polled κ α)} {business business' : Task κ}
      {w : Worker} {s s' : World ρ} {result : Except TaskFailure α} {before after : List Call}
      (within : RunsWithin around (business.poll run) w s s'
        (.returned (business', .returned (.ready result))) before after) :
      Pursues run around business [⟨w, s, s'⟩] result (before ++ after)
  | waits {around : Action ρ (Polled κ α) → Action ρ (Polled κ α)} {business business' : Task κ}
      {w : Worker} {s s' : World ρ} {part : Part} {carrier : Carrier} {visits : List (Visit ρ)}
      {result : Except TaskFailure α} {before after own : List Call}
      (within : RunsWithin around (business.poll run) w s s'
        (.returned (business', .returned .waiting)) before after)
      (polled : around (business.poll run) w s =
        .ok ⟨.returned (.called part carrier business', .returned .waiting), s'⟩)
      (rest : Pursues run (pollCalled part carrier business') business' visits result own) :
      Pursues run around business (⟨w, s, s'⟩ :: visits) result (before ++ after ++ own)

/-- How an asynchronous call came to this outcome. -/
inductive Executes (run : κ → Action ρ (κ × Fate (Progress α))) (t : Template) (info : CallInfo)
    (business : Task κ) (visits : List (Visit ρ)) (reported : Except (CallError TaskFailure) α)
    (a : Account TaskFailure α) : Prop where
  /-- The first poll ended the call, and would have done so with any poll of the business. The
  business was dropped. -/
  | skipped {w : Worker} {s s' u : World ρ} (unrun : a.business = none)
      (visited : visits = [⟨w, s, s'⟩])
      (same : ∀ other, pollFresh t info business other w s =
        .ok ⟨.returned (.ended, .returned (.ready (reported.mapError .call))), s'⟩)
      (calls : u.calls = s.calls ++ a.own) (dropped : business.drop w u = .ok ⟨.returned (), s'⟩)
  /-- The business was polled until it ended, and the call made its own calls around it. -/
  | polled {result : Except TaskFailure α} (ended : a.business = some result)
      (pursues : Pursues run (pollFresh t info business) business visits result a.own)

variable {run : κ → Action ρ (κ × Fate (Progress α))}

/-- What a call does after a poll of its business: it suspends, and goes on with the result. -/
def finishing (part : Part) (active : Carrier) (polled : Polled κ α) : Action ρ (Polled κ α) := do
  let (carrier, fate) ← Carrier.hook.finish active polled.2
  afterBusiness part carrier (polled.1, fate)

/-- A poll of a call resumes its carrier, polls its business and suspends the carrier. -/
theorem pollCalled_run (part : Part) (captured : Option Xid) (span : Option Span)
    (business : Task κ) (w : Worker) (s : World ρ) :
    ∃ u active, Turned w s u ∧
      (∀ poll : Action ρ (Polled κ α),
        pollCalled part ⟨.carrying captured, span⟩ business poll w s =
          (poll >>= finishing part active) w u) ∧
      ∀ polled v, ∃ t, Turned w v t ∧
        (finishing part active polled : Action ρ (Polled κ α)) w v =
          afterBusiness part ⟨.carrying captured, span⟩ polled w t := by
  obtain ⟨u, resumed, turned, -⟩ := Carrier.resume_run captured span w s
  refine ⟨u, ⟨⟨captured, some (s.bound w)⟩, span⟩, turned, ?_, ?_⟩
  · intro poll
    rw [pollCalled, Hook.around, bind_assoc, bind_of_returned resumed]
    simp only [bind_assoc, pure_bind]
    rfl
  · intro polled v
    obtain ⟨t, finished, turned', -⟩ :=
      Carrier.finish_run captured (s.bound w) span polled.2 w v
    exact ⟨t, turned', bind_of_returned finished _⟩

/-- If a call ends without a panic after its business was dropped, then dropping did not panic. -/
theorem endWith_returned {fate : Fate (Progress α)} {dropped : Action ρ Unit} {task : Task κ}
    {progress : Progress α}
    (ran : endWith fate dropped w s = .ok ⟨.returned (task, .returned progress), t⟩) :
    task = .ended ∧ fate = .returned progress ∧ dropped w s = .ok ⟨.returned (), t⟩ := by
  obtain ⟨⟨after, u⟩, is_dropped, joins⟩ := bind_attempt_eq_ok.1 ran
  obtain ⟨joined, v, settled, ended⟩ := bind_eq_returned.1 joins
  cases ended
  obtain ⟨same, ⟨unharmed, kept⟩ | ⟨a, p, -, -, replaced⟩⟩ := settle_eq_ok settled
  · cases same
    cases unharmed
    cases kept
    exact ⟨rfl, rfl, is_dropped⟩
  · cases replaced

theorem afterBusiness_ready (part : Part) (carrier : Carrier) (business : Task κ)
    (result : Except TaskFailure α) (w : Worker) (s : World ρ) :
    ∃ (fate : Fate (Except (CallError TaskFailure) α)) (t : World ρ) (own : List Call),
      afterBusiness part carrier (business, .returned (.ready result)) w s =
        .ok ⟨.returned (.ended, fate.map fun o => .ready (o.mapError .call)), t⟩ ∧
      t.calls = s.calls ++ own ∧
      ∀ reported, fate = .returned reported → part.Completes result reported own := by
  obtain ⟨fate, t, own, completed, calls, completes⟩ := part.complete_run result w s
  exact ⟨fate, t, own, bind_of_returned (attempt_of_ran completed) _, calls, completes⟩

/-- A poll that gets to the business of a call, and does not unwind. Either the business waits, and
so does the call, or the business ended and the call completes. -/
theorem visit_run {around : Action ρ (Polled κ α) → Action ρ (Polled κ α)} {part : Part}
    {captured : Option Xid} {span : Option Span} {business task' : Task κ} {u s' : World ρ}
    {before : List Call} {progress : Progress α}
    (reaches : ∀ poll, around poll w s =
      pollCalled part ⟨.carrying captured, span⟩ business poll w u)
    (calls : u.calls = s.calls ++ before)
    (polled : around (business.poll run) w s =
      .ok ⟨.returned (task', .returned progress), s'⟩) :
    (∃ business', progress = .waiting ∧
        task' = .called part ⟨.carrying captured, span⟩ business' ∧
        RunsWithin around (business.poll run) w s s'
          (.returned (business', .returned .waiting)) before []) ∨
      ∃ business' result reported after, progress = .ready (reported.mapError .call) ∧
        part.Completes result reported after ∧
        RunsWithin around (business.poll run) w s s'
          (.returned (business', .returned (.ready result))) before after := by
  obtain ⟨u', active, turned, runs, finishes⟩ := pollCalled_run part captured span business w u
  have once : RunsOnce around w s u' := .of_bind fun poll => (reaches poll).trans (runs poll)
  have ahead : u'.calls = s.calls ++ before := turned.calls.trans calls
  rw [reaches, runs] at polled
  obtain ⟨⟨business', fate⟩, v, ran, finished⟩ := bind_eq_returned.1 polled
  obtain ⟨v', turned', same⟩ := finishes (business', fate) v
  rw [same] at finished
  rcases fate with (_ | result) | p
  · cases finished
    have behind : s'.calls = v.calls ++ [] := turned'.calls.trans (List.append_nil _).symm
    exact .inl ⟨business', rfl, rfl, .intro once ran ahead behind⟩
  · obtain ⟨fate, t, own, ends, behind, completes⟩ :=
      afterBusiness_ready part ⟨.carrying captured, span⟩ business' result w v'
    rw [ends] at finished
    rw [turned'.calls] at behind
    cases fate with
    | unwound p => cases finished
    | returned reported =>
      cases finished
      exact .inr ⟨business', result, reported, own, rfl, completes reported rfl,
        .intro once ran ahead behind⟩
  · obtain ⟨-, unwound, -⟩ := endWith_returned finished
    cases unwound

/-- Once a call takes part in a transaction, it polls its business until that ends, and then
completes. -/
theorem Resolves.pursues {part : Part} {captured : Option Xid} {span : Option Span}
    {business : Task κ} {visits : List (Visit ρ)} {outcome : Except TaskFailure α}
    (resolves : Resolves run (.called part ⟨.carrying captured, span⟩ business) visits outcome) :
    ∃ result reported own, outcome = reported.mapError .call ∧
      part.Completes result reported own ∧
      Pursues run (pollCalled part ⟨.carrying captured, span⟩ business) business visits result
        own := by
  generalize is_call : Task.called part ⟨.carrying captured, span⟩ business = call at resolves
  induction resolves generalizing business with
  | ready polled =>
    subst is_call
    obtain ⟨business', waits, -⟩ | ⟨business', result, reported, own, ready, completes, within⟩ :=
      visit_run (fun _ => rfl) (List.append_nil _).symm polled
    · cases waits
    · cases ready
      exact ⟨result, reported, own, rfl, completes, .ready within⟩
  | waits polled rest ih =>
    subst is_call
    obtain ⟨business', -, rfl, within⟩ | ⟨_, _, _, _, ready, -⟩ :=
      visit_run (fun _ => rfl) (List.append_nil _).symm polled
    · obtain ⟨result, reported, own, same, completes, pursues⟩ := ih rfl
      exact ⟨result, reported, own, same, completes, .waits within polled pursues⟩
    · cases ready

variable {t : Template} {info : CallInfo} {business : Task κ} {u : World ρ}

/-- The first poll of a call that takes part makes a carrier, and goes on as every other poll. -/
theorem pollFresh_of_part (business : Task κ) {part : Part}
    (started : (t.start info : Action ρ (Except (CallError TaskFailure) Part)) w s =
      .ok ⟨.returned (.ok part), u⟩) :
    ∃ span u', Turned w u u' ∧ ∀ poll : Action ρ (Polled κ α),
      pollFresh t info business poll w s =
        pollCalled part ⟨.carrying (some part.xid), span⟩ business poll w u' := by
  obtain ⟨span, u', created, turned, -⟩ := Carrier.create_run (.carrying (some part.xid)) w u
  refine ⟨span, u', turned, fun poll => ?_⟩
  rw [pollFresh, bind_of_returned (attempt_of_ran started)]
  exact bind_of_returned created _

/-- A first poll that does not unwind. Either the call takes no part and drops its business, or it
takes part and polls it. -/
theorem pollFresh_cases {poll : Action ρ (Polled κ α)} {task' : Task κ} {progress : Progress α}
    {s' : World ρ}
    (polled : pollFresh t info business poll w s =
      .ok ⟨.returned (task', .returned progress), s'⟩) :
    (∃ e u, t.Starts info w s (.returned (.error e)) u ∧ progress = .ready (.error (.call e)) ∧
        business.drop w u = .ok ⟨.returned (), s'⟩ ∧
        ∀ other, pollFresh t info business other w s =
          .ok ⟨.returned (.ended, .returned progress), s'⟩) ∨
      ∃ part u span u', t.Starts (ε := TaskFailure) info w s (.returned (.ok part)) u ∧
        Turned w u u' ∧ ∀ other : Action ρ (Polled κ α),
          pollFresh t info business other w s =
            pollCalled part ⟨.carrying (some part.xid), span⟩ business other w u' := by
  obtain ⟨fate, u, started, starts⟩ := t.start_run (ε := TaskFailure) info w s
  rcases fate with (e | part) | p
  · have ends (other : Action ρ (Polled κ α)) : pollFresh t info business other w s =
        endWith (.returned (.ready (.error (.call e)))) business.drop w u :=
      bind_of_returned (attempt_of_ran started) _
    obtain ⟨rfl, same, is_dropped⟩ := endWith_returned ((ends poll).symm.trans polled)
    cases same
    exact .inl ⟨e, u, starts, rfl, is_dropped,
      fun other => (ends other).trans ((ends poll).symm.trans polled)⟩
  · obtain ⟨span, u', turned, reaches⟩ :=
      pollFresh_of_part (α := α) business started
    exact .inr ⟨part, u, span, u', starts, turned, reaches⟩
  · have ends : pollFresh t info business poll w s = endWith (.unwound p) business.drop w u :=
      bind_of_returned (attempt_of_ran started) _
    obtain ⟨-, unwound, -⟩ := endWith_returned (ends.symm.trans polled)
    cases unwound

/-- An asynchronous call that ends tells what happened. -/
theorem Resolves.explained {visits : List (Visit ρ)} {outcome : Except TaskFailure α}
    (resolves : Resolves run (.fresh t info business) visits outcome) :
    ∃ first rest, visits = first :: rest ∧
      ∃ (a : Account TaskFailure α) (reported : Except (CallError TaskFailure) α),
        outcome = reported.mapError .call ∧ a.Explains reported ∧
        a.role = first.before.role first.worker ∧
        a.manager = t.manager.or first.before.installed ∧
        Executes run t info business visits reported a := by
  cases resolves with
  | ready polled =>
    rename_i w task' s s'
    refine ⟨_, _, rfl, ?_⟩
    obtain ⟨e, u, starts, ready, is_dropped, same⟩ | ⟨part, u, span, u', starts, turned, reaches⟩ :=
      pollFresh_cases polled
    · cases ready
      obtain ⟨own, calls, explains⟩ := starts.refused (α := α)
      exact ⟨_, _, rfl, explains, rfl, rfl, .skipped rfl rfl same calls is_dropped⟩
    · obtain ⟨before, calls, explains⟩ := starts.completed (α := α)
      obtain ⟨_, waits, -⟩ | ⟨business', result, reported, after, ready, completes, within⟩ :=
        visit_run reaches (turned.calls.trans calls) polled
      · cases waits
      · cases ready
        exact ⟨_, reported, rfl, explains result reported after completes, rfl, rfl,
          .polled rfl (.ready within)⟩
  | waits polled rest =>
    rename_i w task' s s' visits
    refine ⟨_, _, rfl, ?_⟩
    obtain ⟨e, u, starts, ready, -⟩ | ⟨part, u, span, u', starts, turned, reaches⟩ :=
      pollFresh_cases polled
    · cases ready
    · obtain ⟨before, calls, explains⟩ := starts.completed (α := α)
      obtain ⟨business', -, rfl, within⟩ | ⟨_, _, _, _, ready, -⟩ :=
        visit_run reaches (turned.calls.trans calls) polled
      · obtain ⟨result, reported, own, rfl, completes, pursues⟩ := rest.pursues
        have pursued := Pursues.waits within polled pursues
        rw [List.append_nil] at pursued
        exact ⟨_, reported, rfl, explains result reported own completes, rfl, rfl,
          .polled rfl pursued⟩
      · cases ready

end Task

/-! ## Outcomes tell what happened -/

/-- As a fault, too, an error of a call tells whether the business and the manager failed. -/
theorem CallError.fault_tells (wording : ε → String) (e : CallError ε) :
    (Fault.ofCall wording e).isBusiness = e.business?.isSome ∧
      (Fault.ofCall wording e).isManagerFailure = e.failure?.isSome ∧
      (Fault.ofCall wording e).isMisuse = false := by
  cases e with
  | setup e => cases e <;> exact ⟨rfl, rfl, rfl⟩
  | _ => exact ⟨rfl, rfl, rfl⟩

/-- The outcome of a call that returns tells exactly what happened, whether the call is synchronous
or polled any number of times on any workers; and so does the fault for an error. -/
theorem Template.outcome_tells :
    (∀ (ρ ε α : Type) (t : Template) (info : CallInfo) (business : Action ρ (Except ε α))
      (w : Worker) (s s' : World ρ) (outcome : Except (CallError ε) α),
      t.execute info business w s = .ok ⟨.returned outcome, s'⟩ →
        ∃ a : Account ε α, a.Explains outcome ∧ a.role = s.role w ∧
          a.manager = t.manager.or s.installed ∧ t.Executes info business w s s' outcome a) ∧
    (∀ (ρ κ α : Type) (run : κ → Action ρ (κ × Fate (Progress α))) (t : Template)
      (info : CallInfo) (business : Task κ) (visits : List (Visit ρ))
      (outcome : Except TaskFailure α),
      Task.Resolves run (.fresh t info business) visits outcome →
        ∃ first rest, visits = first :: rest ∧
          ∃ (a : Account TaskFailure α) (reported : Except (CallError TaskFailure) α),
            outcome = reported.mapError .call ∧ a.Explains reported ∧
            a.role = first.before.role first.worker ∧
            a.manager = t.manager.or first.before.installed ∧
            Task.Executes run t info business visits reported a) ∧
    ∀ (ε : Type) (wording : ε → String) (e : CallError ε),
      (Fault.ofCall wording e).isBusiness = e.business?.isSome ∧
        (Fault.ofCall wording e).isManagerFailure = e.failure?.isSome ∧
        (Fault.ofCall wording e).isMisuse = false := by
  refine ⟨?_, ?_, ?_⟩
  · intro ρ ε α t info business w s s' outcome ran
    exact execute_explained ran
  · intro ρ κ α run t info business visits outcome resolves
    exact resolves.explained
  · intro ε wording e
    exact e.fault_tells wording

/-- A launcher whose business is polled on two workers: its value is reported after a commit. -/
theorem Template.outcome_tells_of_commit :
    ∃ a : Account TaskFailure Nat, a.business = some (.ok 7) ∧ a.role = .launcher ∧
      ∃ c ∈ a.own, c.commits := by
  let future (again : Bool) : Action Unit (Bool × Fate (Progress Nat)) :=
    return (false, .returned (if again then .waiting else .ready (.ok 7)))
  have resolves : Task.Resolves future (.fresh { manager := some "m" } {} (.plain true))
      [⟨.main, { rest := () }, _⟩, ⟨.named "b", { rest := () }, _⟩] (.ok 7) :=
    .waits rfl (.ready rfl)
  obtain ⟨first, rest, same, a, reported, outcome, explains, role, -⟩ :=
    outcome_tells.2.1 _ _ _ _ _ _ _ _ _ resolves
  cases same
  cases reported with
  | error e => cases outcome
  | ok v =>
    cases outcome
    obtain ⟨ended, kept⟩ := (explains.ok 7).1 rfl
    refine ⟨a, ended, role, kept.resolve_left ?_⟩
    rw [role]
    exact nofun

end AmbientTx
