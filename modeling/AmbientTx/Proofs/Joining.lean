import AmbientTx.Proofs.Completion
import AmbientTx.Proofs.Course
import AmbientTx.Proofs.Effect
import AmbientTx.Proofs.Units

/-! # Nested calls join

A call begins a transaction only where none is bound (`World.Orderly`). A launcher binds its own
while its business runs, and a business that takes care of the binding keeps it: every guard and
every poll inside it saves a transaction, and so puts one back (`Stay.Retains`). The same goes for
what the business hands to other workers over scopes that carry a transaction. So whatever calls it
makes, on whichever worker and however they end, join; and since none of them launched anything,
none of them has anything to complete. Between the call that begins the transaction of the launcher
and the one that closes it, no manager is called.
-/

namespace AmbientTx

variable {ρ κ α ε : Type} {w v : Worker} {s t : World ρ} {cs : List Call}

open World AmbientTx.Action

/-! ## Transactions begin where none is bound -/

namespace World

/-- Whatever transactions were begun, none was bound on the worker that called the manager. -/
def Orderly : Effect ρ := fun _ s t =>
  ∃ new, t.calls = s.calls ++ new ∧
    ∀ call ∈ new, ∀ request answer, call.exchange = .launch request answer → call.bound = none

theorem orderly_of_same (same : t.calls = s.calls) : Orderly w s t :=
  ⟨[], same.trans (List.append_nil _).symm, fun _ mem => nomatch mem⟩

theorem orderly_repeats : Repeats (Orderly (ρ := ρ)) where
  refl _ _ := orderly_of_same rfl
  trans := by
    rintro w s t u ⟨new, calls, orderly⟩ ⟨new', calls', orderly'⟩
    refine ⟨new ++ new', ?_, fun call mem => ?_⟩
    · rw [calls', calls, List.append_assoc]
    · rcases List.mem_append.1 mem with mem | mem
      · exact orderly call mem
      · exact orderly' call mem

theorem Called.orderly {m : ManagerName} {e : Exchange} (called : Called w m e s t)
    (unbound : ∀ request answer, e = .launch request answer → s.bound w = none) :
    Orderly w s t := by
  refine ⟨[⟨m, s.bound w, e⟩], called.calls, fun call mem => ?_⟩
  obtain rfl := List.mem_singleton.1 mem
  exact unbound

theorem orderly_pervades : Pervades (Orderly (ρ := ρ)) where
  repeats := orderly_repeats
  event w s e _ := orderly_of_same (calls_event s w e)
  span w s phase span n := orderly_of_same (turned_span w s phase span n).calls
  bind x := (Ambient.bind_calm x).keeps.mono fun turned => orderly_of_same turned.calls
  unbind := Ambient.unbind_calm.keeps.mono fun turned => orderly_of_same turned.calls
  launch m request w s r unbound ran := by
    obtain ⟨answer, t, hrun, called⟩ := Manager.launch_run m request w s
    obtain rfl := Except.ok.inj (hrun.symm.trans ran)
    exact called.orderly fun _ _ _ => unbound
  commit m x w s r ran := by
    obtain ⟨answer, t, hrun, called⟩ := Manager.commit_run m x w s
    obtain rfl := Except.ok.inj (hrun.symm.trans ran)
    exact called.orderly fun _ _ same => nomatch same
  rollback m x w s r ran := by
    obtain ⟨answer, t, hrun, called⟩ := Manager.rollback_run m x w s
    obtain rfl := Except.ok.inj (hrun.symm.trans ran)
    exact called.orderly fun _ _ same => nomatch same

end World

theorem System.Step.orderly {mark : Mark} {c d : System ρ κ} (step : Step w mark c d) :
    Orderly w c.world d.world :=
  orderly_pervades.step step (fun _ _ _ _ => orderly_of_same rfl) fun op _ ran _ =>
    orderly_of_same (op.perform_calm.keeps ran).calls

theorem System.Runs.orderly {c d : System ρ κ} (runs : Runs c d) :
    Orderly w c.world d.world := by
  induction runs with
  | refl => exact orderly_repeats.refl w _
  | step runs step ih => exact orderly_repeats.trans ih step.orderly

/-! ## Work that has nothing to complete

Where a transaction is bound, a poll of a task without launchers calls no manager, and leaves the
task without launchers. -/

/-- A launcher has something to complete, and a call that joined has nothing. -/
theorem Part.eq_joined {part : Part} (free : part.launches = []) : ∃ x, part = .joined x := by
  cases part with
  | joined x => exact ⟨x, rfl⟩
  | launched l => exact nomatch free

/-- Where a transaction is bound, a call joins it. -/
theorem Template.start_joins (t : Template) (info : CallInfo) {x : Xid}
    (bound : s.bound w = some x) :
    (t.start info : Action ρ (Except (CallError ε) Part)) w s =
      .ok ⟨.returned (.ok (.joined x)), s.record w (.event (.joined x info.name))⟩ := by
  rw [start, bind_of_returned (Ambient.current_run w s), bound]
  rfl

theorem Template.enter_joins (t : Template) (info : CallInfo) {x : Xid}
    (bound : s.bound w = some x) :
    (t.enter info : Action ρ (Except (CallError ε) Part)) w s =
      .ok ⟨.returned (.ok (.joined x)), s.record w (.event (.joined x info.name))⟩ := by
  rw [enter, bind_of_returned (t.start_joins info bound)]
  rfl

/-- What only turns the slot of its worker calls nobody. -/
theorem calls_of_calm {x : Action ρ α} (h : Calm Turned x) :
    Triple w (fun s => s.calls = cs) x fun _ s => s.calls = cs :=
  Triple.of_keeps h.keeps fun turned calls => turned.calls.trans calls

namespace Task

/-- The transaction that a carrier binds when the task is polled. -/
def captured? : Task κ → Option Xid
  | .carried carrier _ | .called _ carrier _ => carrier.scope.captured
  | .plain _ | .fresh _ _ _ | .ended => none

theorem drop_calls (t : Task κ) (free : t.launches = []) :
    Triple w (fun s : World ρ => s.calls = cs) t.drop fun _ s => s.calls = cs := by
  induction t with
  | plain future => exact Triple.pure fun _ h => h
  | carried carrier inner ih => exact ih free
  | fresh t info business ih => exact ih free
  | called part carrier business ih =>
    obtain ⟨inside, outside⟩ := List.append_eq_nil_iff.1 free
    obtain ⟨x, rfl⟩ := Part.eq_joined outside
    exact Triple.ensuring (ih inside) (Triple.pure fun _ h => h)
  | ended => exact Triple.pure fun _ h => h

/-- After a poll that called nobody and left nothing to complete. -/
def PollFree (cs : List Call) : Fate (Polled κ α) → World ρ → Prop
  | .returned polled, s => polled.1.launches = [] ∧ s.calls = cs
  | .unwound _, s => s.calls = cs

theorem endWith_calls (fate : Fate (Progress α)) {dropped : Action ρ Unit}
    (calls : Triple w (fun s => s.calls = cs) dropped fun _ s => s.calls = cs) :
    Triple w (fun s => s.calls = cs) (endWith (κ := κ) fate dropped) (PollFree cs) :=
  Triple.bind_attempt calls fun _ =>
    Triple.bind (N := fun _ s => s.calls = cs) (Triple.settle (fun _ h => h) fun _ _ h => h)
      (fun _ => Triple.pure fun _ calls => ⟨rfl, calls⟩) fun _ _ calls => calls

theorem settleUnder_calls {part : Option Part} (joined : Part.launchesOf part = [])
    (carrier : Carrier) (polled : Polled κ α) (free : polled.1.launches = []) :
    Triple w (fun s : World ρ => s.calls = cs) (settleUnder part carrier polled)
      (PollFree cs) := by
  cases part with
  | none => exact Triple.pure fun _ calls => ⟨free, calls⟩
  | some part =>
    obtain ⟨x, rfl⟩ := Part.eq_joined joined
    -- the business waits, is ready, or panicked
    obtain ⟨business, (_ | outcome) | p⟩ := polled
    · exact Triple.pure fun _ calls => ⟨List.append_eq_nil_iff.2 ⟨free, rfl⟩, calls⟩
    · have completed : Triple w (fun s : World ρ => s.calls = cs)
          ((Part.joined x).complete outcome) fun _ s => s.calls = cs :=
        Triple.pure fun _ h => h
      exact Triple.bind_attempt completed fun fate => Triple.pure fun _ calls => ⟨rfl, calls⟩
    · exact endWith_calls _ (Triple.ensuring (business.drop_calls free)
        (Triple.pure fun _ h => h))

end Task

namespace Layer

theorem close_calls (layer : Layer) (joined : Part.launchesOf layer.part = [])
    (polled : Polled κ α) (free : polled.1.launches = []) :
    Triple w (fun s : World ρ => s.calls = cs) (layer.close polled) (Task.PollFree cs) := by
  have finished : Triple w (fun s : World ρ => s.calls = cs)
      (Carrier.hook.finish layer.carrier polled.2) fun _ s => s.calls = cs :=
    Triple.bind (calls_of_calm (Carrier.suspend_calm _))
      (fun suspended => Triple.bind (N := fun _ s => s.calls = cs)
        (Triple.settle (fun _ h => h) fun _ _ h => h) (fun _ => Triple.pure fun _ h => h)
        fun _ _ h => h)
      fun _ _ h => h
  exact Triple.bind finished (fun after => Task.settleUnder_calls joined after.1 _ free)
    fun _ _ h => h

/-- The way out of a poll calls nobody, if no call on the way launched anything. -/
theorem closeAll_calls (layers : List Layer) (joined : layersLaunches layers = [])
    (polled : Polled κ α) (free : polled.1.launches = []) :
    Triple w (fun s : World ρ => s.calls = cs) (closeAll layers polled) (Task.PollFree cs) := by
  induction layers with
  | nil => exact Triple.pure fun _ calls => ⟨free, calls⟩
  | cons layer rest ih =>
    rw [layersLaunches, List.flatMap_cons, List.append_eq_nil_iff] at joined
    refine Triple.bind (ih joined.2) (fun polled => ?_) fun _ _ h => h
    intro s r h ran
    exact layer.close_calls joined.1 polled h.1 h.2 ran

end Layer

theorem Rebinds.bound_ne_none {x : Action ρ α} {a : α} {left : Option Xid} {r : Ran ρ α}
    (run : Rebinds x w s a left) (ran : x w s = .ok r) (hasSlot : w.hasSlot)
    (present : left ≠ none) : r.world.bound w ≠ none := by
  obtain ⟨t, hrun, -, hslot⟩ := run
  obtain rfl := Except.ok.inj (hrun.symm.trans ran)
  rwa [show t.bound w = left from congrArg Slot.xid (hslot hasSlot)]

/-- What an active scope leaves bound, over what it found. -/
theorem Scope.or_ne_none {captured found : Option Xid}
    (leads : found ≠ none ∨ captured ≠ none) : captured.or found ≠ none := by
  intro none
  obtain ⟨uncarried, unbound⟩ := Option.or_eq_none_iff.1 none
  exact leads.elim (· unbound) (· uncarried)

/-- A carrier that is resumed binds what it carries, over what is bound already. -/
theorem Carrier.resume_binds (c : Carrier) (hasSlot : w.hasSlot) :
    Triple w (fun s : World ρ => (s.bound w ≠ none ∨ c.scope.captured ≠ none) ∧ s.calls = cs)
      (hook.resume c) fun
      | .returned (_, .returned ()), s => s.bound w ≠ none ∧ s.calls = cs
      | .returned (_, .unwound _), s => s.calls = cs
      | .unwound _, _ => False := by
  rintro s r ⟨leads, calls⟩ ran
  obtain ⟨⟨captured, _ | saved⟩, span⟩ := c
  · have resumed := resume_run captured span w s
    have bound := resumed.bound_ne_none ran hasSlot (Scope.or_ne_none leads)
    obtain ⟨t, hrun, hturn, -⟩ := resumed
    obtain rfl := Except.ok.inj (hrun.symm.trans ran)
    exact ⟨bound, hturn.calls.trans calls⟩
  · obtain ⟨t, hrun, hturn, -⟩ := resume_active (c := ⟨⟨captured, some saved⟩, span⟩) rfl w s
    obtain rfl := Except.ok.inj (hrun.symm.trans ran)
    exact hturn.calls.trans calls

namespace Task

/-- After the way in of a poll on which every call joined. -/
def ReachFree (w : Worker) (cs : List Call) : Fate (List Layer × Reached κ α) → World ρ → Prop
  | .returned (layers, .inside _), s =>
    layersLaunches layers = [] ∧ s.bound w ≠ none ∧ s.calls = cs
  | .returned (layers, .ended polled), s =>
    layersLaunches layers = [] ∧ polled.1.launches = [] ∧ s.calls = cs
  | .unwound _, _ => True

theorem reachUnder_calls {part : Option Part} (joined : Part.launchesOf part = [])
    (carrier : Carrier) (inner : Task κ) (free : inner.launches = [])
    {reach : Action ρ (List Layer × Reached κ α)} (hasSlot : w.hasSlot)
    (reached : Triple w (fun s => (s.bound w ≠ none ∨ inner.captured? ≠ none) ∧ s.calls = cs)
      reach (ReachFree w cs)) :
    Triple w (fun s => (s.bound w ≠ none ∨ carrier.scope.captured ≠ none) ∧ s.calls = cs)
      (reachUnder part carrier inner reach) (ReachFree w cs) := by
  refine Triple.bind (carrier.resume_binds hasSlot) (fun resumed => ?_) fun _ _ h => h.elim
  obtain ⟨carrier, ⟨⟩ | p⟩ := resumed
  · have bound : Triple w (fun s => s.bound w ≠ none ∧ s.calls = cs) reach (ReachFree w cs) :=
      Triple.of_imp (fun _ h => ⟨.inl h.1, h.2⟩) reached
    refine Triple.bind bound (fun found => ?_) fun _ _ h => h
    have cons (layers : List Layer) (rest : layersLaunches layers = []) :
        layersLaunches (⟨carrier, part⟩ :: layers) = [] := by
      rw [layersLaunches, List.flatMap_cons, List.append_eq_nil_iff]
      exact ⟨joined, rest⟩
    obtain ⟨layers, future | polled⟩ := found
    · exact Triple.pure fun s h => ⟨cons layers h.1, h.2⟩
    · exact Triple.pure fun s h => ⟨cons layers h.1, h.2⟩
  · exact Triple.bind (settleUnder_calls joined carrier (inner, .unwound p) free)
      (fun polled => Triple.pure fun _ h => ⟨rfl, h⟩) fun _ _ _ => trivial

/-- On the way in, whatever call is polled for the first time joins: a transaction is bound, on the
worker or by the outermost carrier. -/
theorem reach_calls (t : Task κ) (free : t.launches = []) (hasSlot : w.hasSlot) :
    Triple w (fun s : World ρ => (s.bound w ≠ none ∨ t.captured? ≠ none) ∧ s.calls = cs)
      (t.reach (α := α)) (ReachFree w cs) := by
  induction t with
  | plain future =>
    refine Triple.pure fun s h => ⟨rfl, ?_, h.2⟩
    exact h.1.resolve_right fun carries => carries rfl
  | carried carrier inner ih =>
    exact reachUnder_calls rfl carrier inner free hasSlot (ih free)
  | fresh t info business ih =>
    rintro s r ⟨leads, calls⟩ ran
    have bound := leads.resolve_right fun carries => carries rfl
    obtain ⟨x, bound⟩ := Option.ne_none_iff_exists'.1 bound
    rw [reach, bind_of_returned (attempt_of_ran (t.start_joins info bound))] at ran
    have created : Triple w (fun s : World ρ => s.bound w ≠ none ∧ s.calls = cs)
        (Carrier.create (Scope.carrying (some x))) fun _ s => s.bound w ≠ none ∧ s.calls = cs := by
      rintro s r ⟨bound, calls⟩ ran
      have same := (Carrier.create_silent _ ran).bound w
      exact ⟨fun unbound => bound (same.symm.trans unbound),
        calls_of_calm (Carrier.create_calm _) calls ran⟩
    have under (carrier : Carrier) : Triple w (fun s : World ρ => s.bound w ≠ none ∧ s.calls = cs)
        (reachUnder (some (.joined x)) carrier business business.reach) (ReachFree w cs) :=
      Triple.of_imp (fun _ h => ⟨.inl h.1, h.2⟩)
        (reachUnder_calls rfl carrier business free hasSlot (ih free))
    have joined : (s.record w (.event (.joined x info.name))).bound w ≠ none :=
      fun unbound => Option.some_ne_none x (bound.symm.trans unbound)
    exact Triple.bind created under (fun _ _ _ => trivial)
      ⟨joined, (calls_event s w _).trans calls⟩ ran
  | called part carrier business ih =>
    obtain ⟨inner, outer⟩ := List.append_eq_nil_iff.1 free
    have joined : Part.launchesOf (some part) = [] := outer
    exact reachUnder_calls joined carrier business inner hasSlot (ih inner)
  | ended => exact Triple.pure fun _ h => ⟨rfl, rfl, h.2⟩

end Task

/-! ## What puts a transaction back -/

/-- Deactivating the scope leaves a transaction bound. -/
def Scope.Retains (scope : Scope) : Prop :=
  ∃ x, scope.saved = some (some x)

/-- The end of a stay that began with a transaction bound leaves one bound. -/
def Stay.Retains : Stay → Prop
  | .guarded scope => scope.Retains
  | .call part => part.launches = []
  | .poll [] => True
  | .poll (layer :: _) => layer.carrier.scope.Retains

theorem Scope.retains_of_saved {scope : Scope} {found : Option Xid}
    (saved : scope.saved = some found) (bound : found ≠ none) : scope.Retains := by
  obtain ⟨x, rfl⟩ := Option.ne_none_iff_exists'.1 bound
  exact ⟨x, saved⟩

/-- Activating a scope leaves a transaction bound, if it carries one or one is bound already. -/
theorem Scope.activate_binds {scope active : Scope} (hasSlot : w.hasSlot)
    (leads : s.bound w ≠ none ∨ active.captured ≠ none)
    (ran : scope.activate w s = .ok ⟨.returned (.ok active), t⟩) : t.bound w ≠ none := by
  obtain ⟨captured, _ | saved⟩ := scope
  · have activated := activate_run captured w s
    have carries : active.captured = captured := by
      obtain ⟨u, hrun, -, -⟩ := activated
      cases hrun.symm.trans ran
      rfl
    exact activated.bound_ne_none ran hasSlot (or_ne_none (carries ▸ leads))
  · have active : (Scope.mk captured (some saved)).saved = some saved := rfl
    cases (activate_active active w s).symm.trans ran

/-- Resuming a scope as a hook activates it. -/
theorem Scope.activate_of_resume {scope active : Scope}
    (ran : Hook.scope.resume scope w s = .ok ⟨.returned (active, .returned ()), t⟩) :
    scope.activate w s = .ok ⟨.returned (.ok active), t⟩ := by
  rcases bind_eq_ok.1 ran with ⟨outcome, u, activated, turned⟩ | ⟨p, u, -, same⟩
  · cases outcome with
    | ok scope =>
      cases pure_eq_ok.1 turned
      exact activated
    | error e => cases pure_eq_ok.1 turned
  · cases same

namespace System

variable {mark : Mark} {c d : System ρ κ} {stay : Stay}

/-- Nobody has anything to complete. -/
structure Free (c : System ρ κ) : Prop where
  stays : ∀ e ∈ c.stays, e.2.launches = []
  tasks : ∀ t ∈ c.tasks, t.launches = []

theorem Free.of_innermost {inner outer : List (Worker × Stay)} (free : c.Free)
    (top : c.Innermost w stay inner outer) :
    stay.launches = [] ∧ ∀ e ∈ inner ++ outer, e.2.launches = [] := by
  have stays := free.stays
  rw [top.split] at stays
  refine ⟨stays (w, stay) (by simp), fun e mem => stays e ?_⟩
  rcases List.mem_append.1 mem with mem | mem
  · exact List.mem_append_left _ mem
  · exact List.mem_append_right _ (List.mem_cons_of_mem _ mem)

theorem Free.of_perm {task : Task κ} {tasks : List (Task κ)} (free : c.Free)
    (perm : c.tasks.Perm (task :: tasks)) :
    task.launches = [] ∧ ∀ t ∈ tasks, t.launches = [] :=
  ⟨free.tasks task (perm.mem_iff.2 List.mem_cons_self),
    fun t mem => free.tasks t (perm.mem_iff.2 (List.mem_cons_of_mem task mem))⟩

/-- Where a transaction is bound, no step calls a manager or launches anything. -/
theorem Step.quiet (step : Step w mark c d) (hasSlot : w.hasSlot) (bound : c.world.bound w ≠ none)
    (free : c.Free) : d.world.calls = c.world.calls ∧ d.Free := by
  obtain ⟨x, joins⟩ := Option.ne_none_iff_exists'.1 bound
  cases step with
  | operate op ran => exact ⟨(op.perform_calm.keeps ran).calls, free.stays, free.tasks⟩
  | answers m v => exact ⟨rfl, free.stays, free.tasks⟩
  | enter ran =>
    have turned := (Scope.activate_calm _).keeps ran
    exact ⟨turned.calls, List.forall_mem_cons.2 ⟨rfl, free.stays⟩, free.tasks⟩
  | resume ran =>
    have turned := (Scope.resume_calm _).keeps ran
    exact ⟨turned.calls, List.forall_mem_cons.2 ⟨rfl, free.stays⟩, free.tasks⟩
  | release top ran =>
    exact ⟨((Scope.release_calm _).keeps ran).calls, (free.of_innermost top).2, free.tasks⟩
  | suspend top ran =>
    exact ⟨((Scope.suspend_calm _).keeps ran).calls, (free.of_innermost top).2, free.tasks⟩
  | call t info ran =>
    cases (t.enter_joins info joins).symm.trans ran
    exact ⟨calls_event _ w _, List.forall_mem_cons.2 ⟨rfl, free.stays⟩, free.tasks⟩
  | refuse t info ran refused =>
    obtain rfl := Except.ok.inj ((t.enter_joins info joins).symm.trans ran)
    exact absurd rfl (refused _)
  | leave top fate ran =>
    obtain ⟨joined, others⟩ := free.of_innermost top
    obtain ⟨y, rfl⟩ := Part.eq_joined joined
    obtain rfl := Except.ok.inj ((Part.leave_joined y fate w c.world).symm.trans ran)
    exact ⟨rfl, others, free.tasks⟩
  | future future => exact ⟨rfl, free.stays, List.forall_mem_cons.2 ⟨rfl, free.tasks⟩⟩
  | carry perm scope ran =>
    obtain ⟨task, others⟩ := free.of_perm perm
    obtain ⟨carrier, u, hrun, turned⟩ := Carrier.create_calm scope w c.world
    rw [Task.carry, bind_of_returned hrun] at ran
    cases ran
    exact ⟨turned.calls, free.stays, List.forall_mem_cons.2 ⟨task, others⟩⟩
  | wrap perm template info =>
    obtain ⟨task, others⟩ := free.of_perm perm
    exact ⟨rfl, free.stays, List.forall_mem_cons.2 ⟨task, others⟩⟩
  | poll perm ran =>
    obtain ⟨task, others⟩ := free.of_perm perm
    obtain ⟨layers, -, calls⟩ := Task.reach_calls _ task hasSlot ⟨.inl bound, rfl⟩ ran
    exact ⟨calls, List.forall_mem_cons.2 ⟨layers, free.stays⟩, others⟩
  | pass perm ran closed =>
    obtain ⟨task, others⟩ := free.of_perm perm
    obtain ⟨layers, polled, calls⟩ := Task.reach_calls _ task hasSlot ⟨.inl bound, rfl⟩ ran
    obtain ⟨after, calls⟩ := Layer.closeAll_calls _ layers _ polled calls closed
    exact ⟨calls, free.stays, List.forall_mem_cons.2 ⟨after, others⟩⟩
  | finish top future fate ran =>
    obtain ⟨layers, others⟩ := free.of_innermost top
    obtain ⟨after, calls⟩ := Layer.closeAll_calls _ layers _ rfl rfl ran
    exact ⟨calls, others, List.forall_mem_cons.2 ⟨after, free.tasks⟩⟩
  | drop perm ran =>
    obtain ⟨task, others⟩ := free.of_perm perm
    exact ⟨Task.drop_calls _ task rfl ran, free.stays, others⟩

/-- A guard that begins leaves a transaction bound, if its scope carries one or one is bound. -/
theorem Step.bound_of_guarded {scope : Scope} (step : Step w (.begins (.guarded scope)) c d)
    (hasSlot : w.hasSlot) (leads : c.world.bound w ≠ none ∨ scope.captured ≠ none) :
    d.world.bound w ≠ none := by
  cases step with
  | enter ran => exact Scope.activate_binds hasSlot leads ran
  | resume ran => exact Scope.activate_binds hasSlot leads (Scope.activate_of_resume ran)

/-- A stay that begins where a transaction is bound leaves one bound, and so will its end. -/
theorem Step.retains_of_begins (step : Step w (.begins stay) c d) (hasSlot : w.hasSlot)
    (bound : c.world.bound w ≠ none) (free : c.Free) :
    d.world.bound w ≠ none ∧ stay.Retains := by
  cases stay with
  | guarded scope =>
    have saved := step.leaves_of_begins trivial
    exact ⟨step.bound_of_guarded hasSlot (.inl bound), Scope.retains_of_saved saved bound⟩
  | call part =>
    obtain ⟨x, joins⟩ := Option.ne_none_iff_exists'.1 bound
    cases step with
    | call t info ran =>
      cases (t.enter_joins info joins).symm.trans ran
      exact ⟨bound, rfl⟩
  | poll layers =>
    constructor
    · cases step with
      | poll perm ran =>
        exact (Task.reach_calls _ (free.of_perm perm).1 hasSlot ⟨.inl bound, rfl⟩ ran).2.1
    · cases layers with
      | nil => trivial
      | cons layer rest =>
        have saved := step.leaves_of_begins (List.cons_ne_nil _ _)
        exact Scope.retains_of_saved saved bound

/-- The end of a stay that retains a transaction leaves one bound. -/
theorem Step.bound_of_retains (step : Step w (.ends stay) c d) (retains : stay.Retains)
    (hasSlot : w.hasSlot) (bound : c.world.bound w ≠ none) : d.world.bound w ≠ none := by
  have restored {x : Xid} (leaves : stay.leaves = some (some x)) : d.world.bound w ≠ none := by
    rw [step.bound_of_ends leaves hasSlot]
    exact Option.some_ne_none x
  cases stay with
  | guarded scope =>
    obtain ⟨x, saved⟩ := retains
    exact restored saved
  | call part =>
    obtain ⟨x, rfl⟩ := Part.eq_joined retains
    cases step with
    | leave top fate ran =>
      obtain rfl := Except.ok.inj ((Part.leave_joined x fate w c.world).symm.trans ran)
      exact bound
  | poll layers =>
    cases layers with
    | nil =>
      cases step with
      | finish top future fate ran =>
        cases ran
        exact bound
    | cons layer rest =>
      obtain ⟨x, saved⟩ := retains
      exact restored saved

end System
end AmbientTx
