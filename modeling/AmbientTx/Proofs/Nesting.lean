import AmbientTx.Proofs.Business

/-! # Nested calls

A business may be given by its code: operations, calls, guards, jobs and polls, one inside the other
and on any workers. If none of the operations removes the binding, the code is that of a business
that takes care (`Business.Conducts`). Whatever such a business does, the manager of its launcher
sees one call that begins the transaction and one that closes it (`Business.nested_calls_join`).
-/

namespace AmbientTx

variable {ρ κ α ε : Type} {v home : Worker} {s : World ρ}

open World AmbientTx.Action

/-- The guard of a scope deactivates it. -/
theorem Scope.release_of_deactivated {active scope : Scope} {t : World ρ}
    (deactivated : active.deactivate v s = .ok ⟨.returned (.ok scope), t⟩) :
    active.release v s = .ok ⟨.returned scope, t⟩ := by
  rw [Scope.release, bind_of_returned deactivated]
  rfl

/-! ## Code that is run by a business -/

namespace Business

variable {b e : Business ρ κ}

theorem Runs.trans {d : Business ρ κ} (runs : Runs home b e) (runs' : Runs home e d) :
    Runs home b d := by
  induction runs' with
  | refl => exact runs
  | step _ hasSlot step ih => exact ih.step hasSlot step

/-- A business after code that ended in this world, in the stays that it began in. -/
structure Back (home : Worker) (b : Business ρ κ) (t : World ρ) (tasks : List (Task κ))
    (e : Business ρ κ) : Prop where
  runs : Runs home b e
  world : e.world = t
  stays : e.stays = b.stays
  tasks : e.tasks = tasks
  handed : e.handed = b.handed

/-- Wherever a business runs this code on a worker, the run is one of the business. -/
def Conducts (κ : Type) (home v : Worker) (x : Action ρ α) : Prop :=
  ∀ ⦃b : Business ρ κ⦄ ⦃r : Ran ρ α⦄, b.Inside home v → x v b.world = .ok r →
    ∃ e, Back home b r.world b.tasks e

theorem Back.inside {t : World ρ} {tasks : List (Task κ)} (back : Back home b t tasks e)
    (inside : b.Inside home v) : e.Inside home v := by
  rw [Inside, System.stack, back.stays, back.handed]
  exact inside

theorem Back.trans {t u : World ρ} {tasks tasks' : List (Task κ)} {d : Business ρ κ}
    (back : Back home b t tasks e) (back' : Back home e u tasks' d) : Back home b u tasks' d :=
  ⟨back.runs.trans back'.runs, back'.world, back'.stays.trans back.stays, back'.tasks,
    back'.handed.trans back.handed⟩

namespace Conducts

variable {β : Type} {x : Action ρ α} {f : α → Action ρ β}

/-- Code that leaves the world alone. -/
theorem of_same (same : ∀ s r, x v s = .ok r → r.world = s) : Conducts κ home v x := by
  intro b r _ ran
  exact ⟨b, .refl b, (same b.world r ran).symm, rfl, rfl, rfl⟩

theorem pure (a : α) : Conducts κ home v (Pure.pure a : Action ρ α) :=
  of_same fun _ _ ran => congrArg Ran.world (pure_eq_ok.1 ran)

theorem panic (p : Panic) : Conducts κ home v (Action.panic p : Action ρ α) :=
  of_same fun _ _ ran => congrArg Ran.world (Except.ok.inj ran).symm

theorem resume (fate : Fate α) : Conducts κ home v (Action.resume fate : Action ρ α) := by
  cases fate with
  | returned a => exact pure a
  | unwound p => exact panic p

theorem bind (hx : Conducts κ home v x) (hf : ∀ a, Conducts κ home v (f a)) :
    Conducts κ home v (x >>= f) := by
  intro b r inside ran
  rcases bind_eq_ok.1 ran with ⟨a, t, first, second⟩ | ⟨p, t, first, rfl⟩
  · obtain ⟨e, back⟩ := hx inside first
    rw [← show e.world = t from back.world] at second
    obtain ⟨d, back'⟩ := hf a (back.inside inside) second
    exact ⟨d, back.trans (back.tasks ▸ back')⟩
  · exact hx inside first

theorem attempt (hx : Conducts κ home v x) : Conducts κ home v x.attempt := by
  intro b r inside ran
  obtain ⟨q, first, rfl⟩ := attempt_eq_ok.1 ran
  exact hx inside first

/-- An operation that removes no binding. -/
theorem operate {op : Operation} (retains : op.Retains []) (hasSlot : v.hasSlot) :
    Conducts κ home v (op.perform : Action ρ Unit) := by
  intro b r inside ran
  have weaker : op.Retains b.held := by
    cases op with
    | slot op => exact retains
    | shared op | activate scope | resume scope => trivial
    | deactivate scope | suspend scope => exact fun active => nomatch retains active
  exact ⟨_, .step (.refl b) hasSlot (.operate inside op weaker ran), rfl, rfl, rfl, rfl⟩

/-- Code that runs in a stay which a business began. -/
theorem staying {stay : Stay} {t : World ρ} {tasks : List (Task κ)} {b : Business ρ κ}
    (hx : Conducts κ home v x) (hasSlot : v.hasSlot)
    (begins : Step home v b { b with world := t, stays := (v, stay) :: b.stays, tasks })
    {q : Ran ρ α} (ran : x v t = .ok q) :
    ∃ e, Runs home b e ∧ e.world = q.world ∧ e.tasks = tasks ∧ e.handed = b.handed ∧
      e.Inside home v ∧ e.Innermost v stay [] b.stays := by
  have inside : Inside home
      { b with world := t, stays := (v, stay) :: b.stays, tasks : Business ρ κ } v := by
    refine .inr ?_
    simp [System.stack]
  obtain ⟨e, back⟩ := hx inside ran
  exact ⟨e, (Runs.step (.refl b) hasSlot begins).trans back.runs, back.world, back.tasks,
    back.handed, back.inside inside, ⟨back.stays, fun _ mem => absurd mem List.not_mem_nil⟩⟩

/-- A call, whether it gets to its business or not. -/
theorem execute {business : Action ρ (Except ε α)} (hx : Conducts κ home v business)
    (hasSlot : v.hasSlot) (t : Template) (info : CallInfo) :
    Conducts κ home v (t.execute info business) := by
  intro b r inside ran
  have refuses {q : Ran ρ (Except (CallError ε) Part)} (entered : t.enter info v b.world = .ok q)
      (refused : ∀ part, q.fate ≠ .returned (.ok part)) :
      Runs home b { b with world := q.world } :=
    .step (.refl b) hasSlot (.work inside (.refuse t info entered refused) rfl)
  rcases bind_eq_ok.1 ran with ⟨outcome, u, entered, after⟩ | ⟨p, u, entered, rfl⟩
  · cases outcome with
    | error failure =>
      obtain rfl := pure_eq_ok.1 after
      exact ⟨_, refuses entered fun _ same => (nomatch same), rfl, rfl, rfl, rfl⟩
    | ok part =>
      obtain ⟨q, body, left⟩ := bind_attempt_eq_ok.1 after
      obtain ⟨e, runs, world, tasks, handed, inside, top⟩ := hx.staying hasSlot
        (.work inside (.call t info entered) rfl) body
      rw [← world] at left
      have leaves := Step.work inside (.leave top q.fate left) rfl
      exact ⟨_, runs.step hasSlot leaves, rfl, rfl, tasks, handed⟩
  · exact ⟨_, refuses entered fun _ same => (nomatch same), rfl, rfl, rfl, rfl⟩

/-- A body under a guard over an inactive scope, where the business runs or on another worker if
the scope carries a transaction. -/
theorem guarded (hx : Conducts κ home v x) (hasSlot : v.hasSlot) {b : Business ρ κ}
    {captured : Option Xid} (leads : b.Inside home v ∨ captured ≠ none) {t : World ρ} {q : Ran ρ α}
    (activated : (Scope.carrying captured).activate v b.world =
      .ok ⟨.returned (.ok ⟨captured, some (b.world.bound v)⟩), t⟩)
    (ran : x v t = .ok q) :
    ∃ e t', Scope.deactivate ⟨captured, some (b.world.bound v)⟩ v q.world =
        .ok ⟨.returned (.ok (Scope.carrying captured)), t'⟩ ∧ Back home b t' b.tasks e := by
  have begins : Step home v b { b with
      world := t, stays := (v, .guarded ⟨captured, some (b.world.bound v)⟩) :: b.stays } := by
    by_cases inside : b.Inside home v
    · exact .work inside (.enter activated) rfl
    · exact .guardAway inside (leads.resolve_left inside) (.enter activated)
  obtain ⟨e, runs, world, tasks, handed, inside, top⟩ := hx.staying hasSlot begins ran
  obtain ⟨t', deactivated, -, -⟩ := Scope.deactivate_run captured (b.world.bound v) v q.world
  have released := Scope.release_of_deactivated deactivated
  rw [← world] at released
  have releases := Step.work inside (.release top released) rfl
  exact ⟨_, t', deactivated, runs.step hasSlot releases, rfl, rfl, tasks, handed⟩

/-- A body with a scope active. -/
theorem within_back (hx : Conducts κ home v x) (hasSlot : v.hasSlot) {b : Business ρ κ}
    {scope : Scope} (leads : b.Inside home v ∨ scope.captured ≠ none)
    {r : Ran ρ (Scope × Except ScopeError (Fate α))} (ran : scope.within x v b.world = .ok r) :
    ∃ e, Back home b r.world b.tasks e := by
  obtain ⟨captured, _ | saved⟩ := scope
  · obtain ⟨t, activated, -, -⟩ := Scope.activate_run captured v b.world
    change (Scope.carrying captured).within x v b.world = .ok r at ran
    rw [Scope.within, bind_of_returned activated] at ran
    simp only at ran
    obtain ⟨q, body, after⟩ := bind_attempt_eq_ok.1 ran
    obtain ⟨e, t', deactivated, back⟩ := hx.guarded hasSlot leads activated body
    rw [bind_of_returned (Scope.release_of_deactivated deactivated)] at after
    obtain rfl := pure_eq_ok.1 after
    exact ⟨e, back⟩
  -- an active scope is refused, and the body is not run
  · rw [Scope.within, bind_of_returned (Scope.activate_active rfl v b.world)] at ran
    obtain rfl := pure_eq_ok.1 ran
    exact ⟨b, .refl b, rfl, rfl, rfl, rfl⟩

theorem within (hx : Conducts κ home v x) (hasSlot : v.hasSlot) (scope : Scope) :
    Conducts κ home v (scope.within x) :=
  fun _ _ inside ran => hx.within_back hasSlot (.inl inside) ran

/-- The body goes on on another worker, where the scope brings the transaction. -/
theorem onWorker_within {u : Worker} (hx : Conducts κ home u x) (hasSlot : u.hasSlot)
    {scope : Scope} (carries : scope.captured ≠ none) :
    Conducts κ home v (Action.onWorker u (scope.within x)) :=
  fun _ _ _ ran => hx.within_back hasSlot (.inr carries) ran

/-- A job that carries a scope made by the business, inactive as it is. -/
theorem call_back {γ : Type} {run : γ → Action ρ α} {body : γ} {captured : Option Xid}
    (hx : Conducts κ home v (run body)) (hasSlot : v.hasSlot) {b : Business ρ κ}
    (leads : b.Inside home v ∨ captured ≠ none) {r : Ran ρ α}
    (ran : Job.call run ⟨.carrying captured, body⟩ v b.world = .ok r) :
    ∃ e, Back home b r.world b.tasks e := by
  obtain ⟨t, resumed, -, -⟩ := Scope.resume_run captured v b.world
  cases ran' : run body v t with
  | error halt =>
    have stops : (run body).attempt v t = .error halt := by
      rw [Action.attempt, ran']
    simp [Job.call, Hook.guarding, Hook.around, bind_run, resumed, stops] at ran
  | ok q =>
    obtain ⟨e, t', deactivated, back⟩ :=
      hx.guarded hasSlot leads (Scope.activate_of_resume resumed) ran'
    have suspended : Hook.scope.suspend ⟨captured, some (b.world.bound v)⟩ v q.world =
        .ok ⟨.returned (Scope.carrying captured, .returned ()), t'⟩ :=
      bind_of_returned deactivated _
    have called := Hook.guarding_run resumed ran' (Hook.finish_run suspended q.fate)
    rw [Job.call, bind_of_returned called] at ran
    obtain rfl := Except.ok.inj ((resume_run q.fate v t').symm.trans ran)
    exact ⟨e, back⟩

theorem call {γ : Type} {run : γ → Action ρ α} {body : γ} (hx : Conducts κ home v (run body))
    (hasSlot : v.hasSlot) (captured : Option Xid) :
    Conducts κ home v (Job.call run ⟨.carrying captured, body⟩) :=
  fun _ _ inside ran => hx.call_back hasSlot (.inl inside) ran

theorem onWorker_call {γ : Type} {run : γ → Action ρ α} {body : γ} {u : Worker}
    (hx : Conducts κ home u (run body)) (hasSlot : u.hasSlot) {captured : Option Xid}
    (carries : captured ≠ none) :
    Conducts κ home v (Action.onWorker u (Job.call run ⟨.carrying captured, body⟩)) :=
  fun _ _ _ ran => hx.call_back hasSlot (.inr carries) ran

/-- A poll of a task of the business. -/
theorem poll_back {run : κ → Action ρ (κ × Fate (Progress α))}
    (hr : ∀ future, Conducts κ home v (run future)) (hasSlot : v.hasSlot) {b : Business ρ κ}
    {task task' : Task κ} {tasks : List (Task κ)} (perm : b.tasks.Perm (task :: tasks))
    (leads : b.Inside home v ∨ task.captured? ≠ none) {fate : Fate (Progress α)} {u : World ρ}
    (ran : task.poll run v b.world = .ok ⟨.returned (task', fate), u⟩) :
    ∃ e, Back home b u (task' :: tasks) e := by
  rw [Task.poll_eq] at ran
  rcases bind_eq_ok.1 ran with ⟨⟨layers, reached⟩, t, reach, after⟩ | ⟨p, t, -, same⟩
  · cases reached with
    | inside future =>
      have begins : Step home v b { b with
          world := t, stays := (v, .poll layers) :: b.stays, tasks } := by
        by_cases inside : b.Inside home v
        · exact .work inside (.poll perm reach) rfl
        · exact .pollAway inside (leads.resolve_left inside) perm reach
      rcases bind_eq_ok.1 after with ⟨polled, middle, turn, closed⟩ | ⟨p, middle, -, same⟩
      · rcases bind_eq_ok.1 turn with ⟨⟨future', fate'⟩, last, body, same⟩ | ⟨p, last, -, same⟩
        · cases pure_eq_ok.1 same
          obtain ⟨e, runs, world, kept, handed, inside, top⟩ :=
            (hr future).staying hasSlot begins body
          subst kept
          rw [← show e.world = middle from world] at closed
          have finishes := Step.work inside (.finish top future' fate' closed) rfl
          exact ⟨_, runs.step hasSlot finishes, rfl, rfl, rfl, handed⟩
        · cases same
      · cases same
    | ended polled =>
      have passes : Step home v b { b with world := u, tasks := task' :: tasks } := by
        by_cases inside : b.Inside home v
        · exact .work inside (.pass perm reach after) rfl
        · exact .passAway inside (leads.resolve_left inside) perm reach after
      exact ⟨_, (Runs.refl b).step hasSlot passes, rfl, rfl, rfl, rfl⟩
  · cases same

/-- Polls until the task does not wait any more. -/
theorem pollUpTo_back {run : κ → Action ρ (κ × Fate (Progress α))}
    (hr : ∀ future, Conducts κ home v (run future)) (hasSlot : v.hasSlot) (n : Nat)
    {b : Business ρ κ} {task task' : Task κ} {tasks : List (Task κ)}
    (perm : b.tasks.Perm (task :: tasks)) (inside : b.Inside home v) {fate : Fate (Progress α)}
    {u : World ρ} (ran : task.pollUpTo run n v b.world = .ok ⟨.returned (task', fate), u⟩) :
    ∃ e, Back home b u e.tasks e ∧ e.tasks.Perm (task' :: tasks) := by
  induction n generalizing b task with
  | zero =>
    cases pure_eq_ok.1 ran
    exact ⟨b, ⟨.refl b, rfl, rfl, rfl, rfl⟩, perm⟩
  | succ n ih =>
    rcases bind_eq_ok.1 ran with ⟨⟨middle, turn⟩, t, polled, after⟩ | ⟨p, t, -, same⟩
    · obtain ⟨e, back⟩ := poll_back hr hasSlot perm (.inl inside) polled
      have owned : e.tasks.Perm (middle :: tasks) := back.tasks ▸ List.Perm.refl _
      rw [← show e.world = t from back.world] at after
      obtain (_ | outcome) | p := turn
      · obtain ⟨d, back', owned'⟩ := ih owned (back.inside inside) after
        exact ⟨d, back.trans back', owned'⟩
      · cases pure_eq_ok.1 after
        exact ⟨e, ⟨back.runs, rfl, back.stays, rfl, back.handed⟩, owned⟩
      · cases pure_eq_ok.1 after
        exact ⟨e, ⟨back.runs, rfl, back.stays, rfl, back.handed⟩, owned⟩
    · cases same

/-- An asynchronous call that the business makes, polls and drops in the end. -/
theorem awaits {run : κ → Action ρ (κ × Fate (Progress α))}
    (hr : ∀ future, Conducts κ home v (run future)) (reports : ∀ future, Reports v (run future))
    (hasSlot : v.hasSlot) (n : Nat) (template : Template) (info : CallInfo) (future : κ) :
    Conducts κ home v (do
      let (task, fate) ← (Task.fresh template info (.plain future)).pollUpTo run n
      task.drop
      return fate) := by
  intro b r inside ran
  let made : Business ρ κ := { b with tasks := .fresh template info (.plain future) :: b.tasks }
  have makes : Runs home b made :=
    .step (.step (.refl b) hasSlot (.work inside (.future future) rfl)) hasSlot
      (.work inside (.wrap (.refl _) template info) rfl)
  rcases bind_eq_ok.1 ran with ⟨⟨task, fate⟩, t, polled, after⟩ | ⟨p, t, unwound, -⟩
  · obtain ⟨e, back, owned⟩ := pollUpTo_back hr hasSlot n (b := made) (.refl _) inside polled
    rw [← show e.world = t from back.world] at after
    have runs := makes.trans back.runs
    rcases bind_eq_ok.1 after with ⟨u, last, dropped, same⟩ | ⟨p, last, dropped, rfl⟩
    · obtain rfl := pure_eq_ok.1 same
      exact ⟨_, runs.step hasSlot (.drop owned dropped), rfl, back.stays, rfl, back.handed⟩
    · exact ⟨_, runs.step hasSlot (.drop owned dropped), rfl, back.stays, rfl, back.handed⟩
  · obtain ⟨polled, same⟩ := Task.pollUpTo_reports reports n _ trivial unwound
    cases same

end Conducts

/-! ## The calls of a launcher -/

end Business

/-- A call that launched a transaction made one call to a manager, and left the transaction
bound. -/
theorem Template.enter_launched {t : Template} {info : CallInfo} {l : Launch} {u : World ρ}
    (entered : (t.enter info : Action ρ (Except (CallError ε) Part)) v s =
      .ok ⟨.returned (.ok (.launched l)), u⟩) :
    u.calls = s.calls ++ [⟨l.manager, none, .launch (t.request info s.config (s.slot v))
      (.granted l.xid)⟩] ∧ (v.hasSlot → u.bound v = some l.xid) := by
  obtain ⟨fate, middle, started, starts⟩ := t.start_run (ε := ε) info v s
  rcases bind_eq_ok.1 entered with ⟨outcome, middle', started', bound⟩ | ⟨p, middle', -, same⟩
  · cases started.symm.trans started'
    cases outcome with
    | error e => cases pure_eq_ok.1 bound
    | ok part =>
      have joined : ∀ x, part = .joined x → middle.bound v = some x := by
        rintro x rfl
        exact (starts.silent.bound v).trans starts.found
      obtain ⟨last, hbind, turned, hslot⟩ := part.bind_run v middle joined
      cases (bind_of_returned hbind fun _ =>
        (Pure.pure (.ok part) : Action ρ (Except (CallError ε) Part))).symm.trans bound
      refine ⟨?_, fun hasSlot => congrArg Slot.xid (hslot hasSlot)⟩
      rw [turned.calls]
      generalize reached : (.returned (.ok (.launched l)) : Fate (Except (CallError ε) Part)) = fate
        at starts
      cases starts with
      | joins bound => cases reached
      | unmanaged unbound missing => cases reached
      | @asks m answer _ unbound found called =>
        cases answer with
        | granted x =>
          cases reached
          rw [called.calls, unbound]
        | refused e | panicked p => cases reached
  · cases same

namespace Business

/-- The calls of a business join, and the launcher makes one call to begin its transaction and one
to close it. More generally, no call of any run begins a transaction where one is bound. -/
theorem nested_calls_join :
    (∀ (home : Worker) (t : Template) (info : CallInfo) (l : Launch) (s u : World ρ)
        (tasks : List (Task κ)), home.hasSlot →
      (t.enter info : Action ρ (Except (CallError ε) Part)) home s =
        .ok ⟨.returned (.ok (.launched l)), u⟩ →
      (∀ task ∈ tasks, task.launches = []) →
      let begun : Call :=
        ⟨l.manager, none, .launch (t.request info s.config (s.slot home)) (.granted l.xid)⟩
      ∀ b : Business ρ κ, Runs home { world := u, tasks } b →
        b.world.calls = s.calls ++ [begun] ∧
        (∀ v, b.Inside home v → b.world.bound v ≠ none) ∧
        ∀ (business : Action ρ (Except ε α)) (fate : Fate (Except ε α)),
          business home u = .ok ⟨fate, b.world⟩ →
          (t.execute info business home s = .error .aborted ∧
            ∃ p, (b.world.managers l.manager).closing false = .panicked p) ∨
          ∃ r bound answer, t.execute info business home s = .ok r ∧
            r.world.calls =
              s.calls ++ [begun, ⟨l.manager, bound, .closing fate.succeeded l.xid answer⟩]) ∧
    (∀ c d : System ρ κ, System.Runs c d →
      ∃ new, d.world.calls = c.world.calls ++ new ∧
        ∀ call ∈ new, ∀ request answer, call.exchange = .launch request answer →
          call.bound = none) := by
  constructor
  · intro home t info l s u tasks hasSlot entered free begun b runs
    obtain ⟨begins, bound⟩ := Template.enter_launched entered
    have start : Sound home { world := u, tasks : Business ρ κ } := by
      refine ⟨fun v inside => ?_, fun _ => trivial, (fun _ mem => nomatch mem),
        (fun _ mem => nomatch mem), free⟩
      -- it runs on the worker of the launcher alone
      have here : v = home := by
        rcases inside with (here | ⟨scope, mem⟩) | stays
        · exact here
        · cases mem
        · exact absurd rfl stays
      subst here
      show u.bound v ≠ none
      rw [bound hasSlot]
      exact Option.some_ne_none _
    obtain ⟨calls, sound⟩ := runs.sound start
    have calls : b.world.calls = s.calls ++ [begun] := calls.trans begins
    refine ⟨calls, sound.bound, fun business fate ran => ?_⟩
    have executed : t.execute info business home s = (Part.launched l).leave fate home b.world := by
      rw [Template.execute, bind_of_returned entered]
      exact bind_of_returned (attempt_of_ran ran) _
    rw [executed]
    rcases Part.leave_launched_calls l fate home b.world with aborted | left
    · exact .inl aborted
    · obtain ⟨r, found, answer, left, closed, -⟩ := left
      refine .inr ⟨r, found, answer, left, ?_⟩
      rw [closed, calls, List.append_assoc]
      rfl
  · intro c d runs
    exact runs.orderly (w := .main)

/-- A business that binds another transaction, then makes a call that panics, and then one on
another worker, under a guard over a scope with a transaction. -/
theorem nested_calls_join_of_guard :
    let t : Template := { manager := some "m" }
    let scope : Scope := .carrying (some Manager.firstXid)
    let panicking : Action Unit (Except (CallError Unit) Unit) :=
      t.execute {} (Action.panic ⟨"inner"⟩)
    let succeeding : Action Unit (Except (CallError Unit) Unit) :=
      t.execute {} (Pure.pure (.ok ()))
    let business : Action Unit (Except Unit Unit) := do
      (Operation.slot (.bind "tx-9")).perform
      let _ ← panicking.attempt
      let _ ← Action.onWorker (.fresh 0) (scope.within succeeding)
      return .ok ()
    ∃ r request bound answer answer', t.execute {} business .main { rest := () } = .ok r ∧
      r.world.calls = [⟨"m", none, .launch request answer⟩,
        ⟨"m", bound, .commit Manager.firstXid answer'⟩] := by
  intro t scope panicking succeeding business
  let u : World Unit := match t.enter (ε := Unit) {} .main { rest := () } with
    | .ok r => r.world
    | .error _ => { rest := () }
  have elsewhere : Conducts Unit .main .main
      (Action.onWorker (.fresh 0) (scope.within succeeding)) :=
    .onWorker_within (.execute (.pure _) rfl t {}) rfl (Option.some_ne_none _)
  have conducts : Conducts Unit .main .main business :=
    .bind (.operate rfl rfl) fun _ => .bind (.attempt (.execute (.panic _) rfl t {})) fun _ =>
      .bind elsewhere fun _ => .pure _
  obtain ⟨after, ran⟩ : ∃ after, business .main u = .ok ⟨.returned (.ok ()), after⟩ := ⟨_, rfl⟩
  obtain ⟨b, back⟩ := conducts (b := { world := u }) (.inl (.inl rfl)) ran
  rw [← show b.world = after from back.world] at ran
  obtain ⟨-, -, executes⟩ := (nested_calls_join (κ := Unit) (ε := Unit) (α := Unit)).1 .main t {}
    ⟨"m", Manager.firstXid⟩ { rest := () } u [] rfl rfl (fun _ mem => nomatch mem) b back.runs
  rcases executes business (.returned (.ok ())) ran with ⟨aborts, -⟩ | executed
  · cases aborts
  · obtain ⟨r, bound, answer, ran, calls⟩ := executed
    exact ⟨r, _, bound, _, answer, ran, calls⟩

/-- A worker that read its slot has lost it when it ends. A launcher binds nothing there, so a call
in its business launches another transaction. So does a call after the business removed the binding
by hand, deactivating a scope that it had activated on another worker, where nothing was bound. -/
theorem exists_nested_launch :
    let t : Template := { manager := some "m" }
    let nested : Action Unit (Except (CallError Unit) Unit) := t.execute {} (Pure.pure (.ok ()))
    let ending : Action Unit (Except (CallError (CallError Unit)) Unit) := do
      let _ ← Action.onWorker (.fresh 0) Ambient.current
      Action.onWorker (.ending 0 true) (t.execute {} nested)
    let unbinding : Action Unit (Except (CallError Unit) Unit) := do
      match ← Action.onWorker (.fresh 0) (Scope.carrying (← Ambient.current)).activate with
      | .ok active => let _ ← active.deactivate
      | .error _ => return .ok ()
      nested
    let x := Manager.firstXid
    let twice (request : BeginRequest) : List Exchange :=
      [.launch request (.granted x), .launch request (.granted x),
        .commit x (.granted .committed), .commit x (.granted .committed)]
    (∃ r request, ending .main { rest := () } = .ok r ∧
      r.world.calls.map Call.exchange = twice request) ∧
    (∃ r request, t.execute {} unbinding .main { rest := () } = .ok r ∧
      r.world.calls.map Call.exchange = twice request) :=
  ⟨⟨_, _, rfl, rfl⟩, ⟨_, _, rfl, rfl⟩⟩

end Business
end AmbientTx
