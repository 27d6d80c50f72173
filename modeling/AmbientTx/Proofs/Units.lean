import AmbientTx.Proofs.Effect
import AmbientTx.Proofs.Operation
import AmbientTx.Proofs.Poll

/-! # A unit of work leaves a worker as it found it

A unit of work is a stay whose end does not depend on what its code did to the slot: the body of a
guard, the poll of a task that is carried or a transactional call, and a transactional call on a
worker with nothing bound. What such a stay leaves bound is fixed when it begins (`Stay.leaves`),
and it is what was bound then. Units that run no code of the client change nothing bound at all. So
a worker that runs nothing but units has nothing bound between them.
-/

namespace AmbientTx

variable {ρ κ α ε : Type} {w : Worker} {s t : World ρ}

open World AmbientTx.Action

/-! ## Transactional calls -/

namespace Template

/-- Where nothing is bound, a call launches a transaction of its own. -/
theorem start_launches (t : Template) (info : CallInfo) :
    Triple w (fun s : World ρ => s.bound w = none)
      (t.start info : Action ρ (Except (CallError ε) Part)) fun fate _ =>
        ∀ part, fate = .returned (.ok part) → ∃ l, part = .launched l := by
  intro s r bound ran
  rw [start, bind_of_returned (Ambient.current_run w s), bound] at ran
  rcases bind_eq_ok.1 ran with ⟨outcome, t, -, hret⟩ | ⟨p, t, -, rfl⟩
  · obtain rfl := pure_eq_ok.1 hret
    cases outcome with
    | error e => rintro part ⟨⟩
    | ok l =>
      rintro part ⟨⟩
      exact ⟨l, rfl⟩
  · rintro part ⟨⟩

theorem enter_launches (t : Template) (info : CallInfo) :
    Triple w (fun s : World ρ => s.bound w = none)
      (t.enter info : Action ρ (Except (CallError ε) Part)) fun fate _ =>
        ∀ part, fate = .returned (.ok part) → ∃ l, part = .launched l := by
  refine Triple.bind (t.start_launches info) (fun outcome => ?_) fun _ _ _ _ h => nomatch h
  cases outcome with
  | error e => exact Triple.pure fun _ _ _ h => nomatch h
  | ok part =>
    refine Triple.bind_calm part.bind_calm (fun _ h => h) fun _ => Triple.pure fun _ h => ?_
    rintro part ⟨⟩
    exact h part rfl

/-- A call that takes part in no transaction leaves bound what was bound. -/
theorem enter_refused (t : Template) (info : CallInfo) (v : Option Xid) :
    Triple w (fun s : World ρ => s.bound w = v)
      (t.enter info : Action ρ (Except (CallError ε) Part)) fun fate s =>
        (∀ part, fate ≠ .returned (.ok part)) → s.bound w = v := by
  refine Triple.bind (bound_of_silent (t.start_silent info) v) (fun outcome => ?_) fun _ _ h _ => h
  cases outcome with
  | error e => exact Triple.pure fun _ h _ => h
  | ok part =>
    exact Triple.of_imp (P := fun _ => True) (fun _ _ => trivial) <|
      Triple.bind_calm part.bind_calm (fun _ _ => trivial) fun _ =>
        Triple.pure fun _ _ refused => absurd rfl (refused part)

end Template

namespace Part

/-- The call of a launcher leaves nothing bound, however its business and its completion end. -/
theorem leave_launched (l : Launch) (fate : Fate (Except ε α)) :
    Triple w (fun _ : World ρ => True) ((launched l).leave fate) fun _ s => s.bound w = none := by
  have released : Triple w (fun _ : World ρ => True) l.release fun _ s => s.bound w = none := by
    intro s r _ ran
    obtain ⟨t, hrun, -, hslot⟩ := l.release_run w s
    obtain rfl := Except.ok.inj (hrun.symm.trans ran)
    exact congrArg Slot.xid hslot
  -- whatever completes the call comes before the release, or after it and changes no slot
  cases fate with
  | returned outcome => exact Triple.ensuring (M := fun _ => True) (fun _ _ _ _ => trivial) released
  | unwound p =>
    have abandoned := bound_of_silent (ρ := ρ) (w := w) (launched l).abandon_silent none
    have undone := Triple.bind released (fun _ => abandoned) fun _ _ h => h
    exact Triple.ensuring (M := fun _ => True) (fun _ _ _ _ => trivial) undone

end Part

/-- Nothing that the library does on a worker changes the slot of another one. -/
theorem World.elsewhere_pervades : Pervades (Elsewhere (ρ := ρ)) where
  repeats := elsewhere_repeats
  event _ _ _ _ _ _ := rfl
  span _ _ _ _ _ _ _ := rfl
  bind x := (Ambient.bind_calm x).keeps.mono Turned.slot
  unbind := Ambient.unbind_calm.keeps.mono Turned.slot
  launch m request _ _ _ _ ran := (Manager.launch_silent m request ran).elsewhere
  commit m x := (Manager.commit_silent m x).mono Silent.elsewhere
  rollback m x := (Manager.rollback_silent m x).mono Silent.elsewhere

/-! ## Stays -/

namespace Stay

/-- What the end of a stay leaves bound, if that is settled. -/
def leaves : Stay → Option (Option Xid)
  | .guarded scope => scope.saved
  | .call (.joined _) | .poll [] => none
  | .call (.launched _) => some none
  | .poll (layer :: _) => layer.carrier.scope.saved

/-- Whether a stay is a unit of work on a worker that had this bound when the stay began. -/
def IsUnit (found : Option Xid) : Stay → Prop
  | .guarded _ => True
  | .call _ => found = none
  | .poll layers => layers ≠ []

end Stay

namespace Task

variable {layers : List Layer} {future : κ}

theorem layers_of_reachUnder {part : Option Part} {carrier : Carrier} {inner : Task κ}
    {reach : Action ρ (List Layer × Reached κ α)}
    (ran : reachUnder part carrier inner reach w s =
      .ok ⟨.returned (layers, .inside future), t⟩) : layers ≠ [] := by
  obtain ⟨⟨active, resumed⟩, u, -, ran⟩ := bind_eq_returned.1 ran
  obtain ⟨⟩ | p := resumed
  · obtain ⟨⟨layers', reached⟩, v, -, ran⟩ := bind_eq_returned.1 ran
    cases ran
    exact List.cons_ne_nil _ _
  · obtain ⟨polled, v, -, ran⟩ := bind_eq_returned.1 ran
    cases ran

/-- Only a bare future of the client has no layers around it when it is polled. -/
theorem isUnit_iff_of_reach {task : Task κ} {found : Option Xid}
    (ran : (task.reach : Action ρ (List Layer × Reached κ α)) w s =
      .ok ⟨.returned (layers, .inside future), t⟩) :
    (Stay.poll layers).IsUnit found ↔ task ≠ .plain future := by
  cases task with
  | plain future' =>
    cases ran
    exact ⟨fun unit => absurd rfl unit, fun other => absurd rfl other⟩
  | carried carrier inner => exact iff_of_true (layers_of_reachUnder ran) fun same => nomatch same
  | fresh template info business =>
    obtain ⟨outcome, u, -, ran⟩ := bind_eq_returned.1 ran
    obtain (e | part) | p := outcome
    · obtain ⟨polled, v, -, ran⟩ := bind_eq_returned.1 ran
      cases ran
    · obtain ⟨carrier, v, -, ran⟩ := bind_eq_returned.1 ran
      exact iff_of_true (layers_of_reachUnder ran) fun same => nomatch same
    · obtain ⟨polled, v, -, ran⟩ := bind_eq_returned.1 ran
      cases ran
  | called part carrier business =>
    exact iff_of_true (layers_of_reachUnder ran) fun same => nomatch same
  | ended => cases ran

end Task

namespace Scope

/-- Activating a scope saves what is bound. -/
theorem activate_saves {scope active : Scope}
    (ran : scope.activate w s = .ok ⟨.returned (.ok active), t⟩) :
    active.saved = some (s.bound w) := by
  obtain ⟨captured, _ | saved⟩ := scope
  · obtain ⟨t, hrun, -, -⟩ := activate_run captured w s
    cases hrun.symm.trans ran
    rfl
  · have active : (Scope.mk captured (some saved)).saved = some saved := rfl
    cases (activate_active active w s).symm.trans ran

theorem resume_saves {scope active : Scope}
    (ran : Hook.scope.resume scope w s = .ok ⟨.returned (active, .returned ()), t⟩) :
    active.saved = some (s.bound w) := by
  obtain ⟨turned, u, hrun, -⟩ := activate_calm scope w s
  have resumed : Hook.scope.resume scope w s = .ok ⟨.returned (Hook.turn scope turned), u⟩ :=
    bind_of_returned hrun fun turned =>
      (Pure.pure (Hook.turn scope turned) : Action ρ (Scope × Fate Unit))
  have same := resumed.symm.trans ran
  cases turned with
  | error e => cases same
  | ok active =>
    cases same
    exact activate_saves hrun

/-- Suspending a scope puts back what it saved. -/
theorem suspend_restores {scope : Scope} {v : Option Xid} (saved : scope.saved = some v)
    (hasSlot : w.hasSlot) :
    Triple w (fun _ : World ρ => True) (Hook.scope.suspend scope) fun _ s => s.bound w = v := by
  obtain ⟨captured, _ | v⟩ := scope
  · cases saved
  · obtain rfl := Option.some.inj saved
    exact bound_of_rebinds (suspend_run captured v w) hasSlot

theorem release_restores {scope : Scope} {v : Option Xid} (saved : scope.saved = some v)
    (hasSlot : w.hasSlot) :
    Triple w (fun _ : World ρ => True) scope.release fun _ s => s.bound w = v := by
  obtain ⟨captured, _ | v⟩ := scope
  · cases saved
  · obtain rfl := Option.some.inj saved
    exact bound_of_rebinds (release_run captured v w) hasSlot

end Scope

namespace System

variable {c d : System ρ κ} {mark : Mark} {stay : Stay} {v : Worker}

/-- A unit that begins is set to leave bound what it found. -/
theorem Step.leaves_of_begins (step : Step w (.begins stay) c d)
    (isUnit : stay.IsUnit (c.world.bound w)) : stay.leaves = some (c.world.bound w) := by
  cases step with
  | enter ran => exact Scope.activate_saves ran
  | resume ran => exact Scope.resume_saves ran
  | call t info ran =>
    obtain ⟨l, rfl⟩ := t.enter_launches info isUnit ran _ rfl
    exact congrArg some isUnit.symm
  | @poll _ _ t _ layers _ _ perm ran =>
    have saves := t.reach_saves (c.world.bound w) rfl ran
    cases layers with
    | nil => exact absurd rfl isUnit
    | cons layer rest => exact saves

/-- A stay leaves bound what it is set to. -/
theorem Step.bound_of_ends (step : Step w (.ends stay) c d) {found : Option Xid}
    (leaves : stay.leaves = some found) (hasSlot : w.hasSlot) : d.world.bound w = found := by
  cases step with
  | release top ran => exact Scope.release_restores leaves hasSlot trivial ran
  | suspend top ran => exact Scope.suspend_restores leaves hasSlot trivial ran
  | @leave _ _ _ part _ _ _ top fate ran =>
    cases part with
    | joined x => cases leaves
    | launched l =>
      cases leaves
      exact Part.leave_launched l fate trivial ran
  | @finish _ _ layers _ _ _ _ _ top future fate ran =>
    cases layers with
    | nil => cases leaves
    | cons layer rest => exact Layer.closeAll_restores leaves hasSlot rest _ trivial ran

/-- What runs no code of the client leaves bound what was bound. -/
theorem Step.bound_of_passes (step : Step w .passes c d) :
    d.world.bound w = c.world.bound w := by
  cases step with
  | refuse t info ran refused => exact t.enter_refused info _ rfl ran refused
  | @pass _ _ t _ _ layers polled _ _ _ perm ran closed =>
    have saves := t.reach_saves (c.world.bound w) rfl ran
    cases layers with
    | nil =>
      cases closed
      exact saves
    | cons layer rest =>
      by_cases hasSlot : w.hasSlot
      · exact Layer.closeAll_restores saves hasSlot rest polled trivial closed
      · rw [bound_of_not_hasSlot hasSlot, bound_of_not_hasSlot hasSlot]
  | drop perm ran => exact (Task.drop_silent _ ran).bound w

theorem Step.bound_of_prepares (step : Step w .prepares c d) :
    d.world.bound w = c.world.bound w := by
  cases step with
  | answers m v => rfl
  | future future => rfl
  | carry perm scope ran => exact (Task.carry_silent _ scope ran).bound w
  | wrap perm template info => rfl

/-- A step changes no slot but that of its worker. -/
theorem Step.elsewhere (step : Step w mark c d) : Elsewhere w c.world d.world :=
  elsewhere_pervades.step step (fun _ _ _ _ _ _ => rfl) fun op _ ran _ =>
    (op.perform_calm.keeps ran).slot

/-! ## The stays of a worker -/

theorem Innermost.stack {inner outer : List (Worker × Stay)}
    (top : c.Innermost w stay inner outer) (s : World ρ) (tasks : List (Task κ)) :
    c.stack w = stay :: System.stack ⟨s, inner ++ outer, tasks⟩ w := by
  have none : (inner.filterMap fun e => if e.1 = w then some e.2 else none) = [] := by
    rw [List.filterMap_eq_nil_iff]
    exact fun e mem => if_neg (top.others e mem)
  simp [System.stack, top.split, List.filterMap_append, none]

theorem Innermost.stack_of_ne {inner outer : List (Worker × Stay)}
    (top : c.Innermost w stay inner outer) (hv : v ≠ w) (s : World ρ) (tasks : List (Task κ)) :
    c.stack v = System.stack ⟨s, inner ++ outer, tasks⟩ v := by
  simp [System.stack, top.split, List.filterMap_append, Ne.symm hv]

/-- The stays of a worker before and after a step of it. -/
def Mark.Moves : Mark → List Stay → List Stay → Prop
  | .begins stay, before, after => after = stay :: before
  | .ends stay, before, after => before = stay :: after
  | .passes, before, after | .operates, before, after | .prepares, before, after => after = before

theorem Step.stack (step : Step w mark c d) : Mark.Moves mark (c.stack w) (d.stack w) := by
  have push : ∀ (s : World ρ) (tasks : List (Task κ)) (stay : Stay),
      System.stack ⟨s, (w, stay) :: c.stays, tasks⟩ w = stay :: c.stack w :=
    fun _ _ _ => List.filterMap_cons_some (if_pos rfl)
  cases step with
  | enter ran | resume ran | call t info ran | poll perm ran => exact push _ _ _
  | release top ran | suspend top ran | leave top fate ran | finish top future fate ran =>
    exact top.stack _ _
  | operate op ran | answers m v | refuse t info ran refused | future future
  | carry perm scope ran | wrap perm template info | pass perm ran closed | drop perm ran => rfl

theorem Step.stack_of_ne (step : Step w mark c d) (hv : v ≠ w) : d.stack v = c.stack v := by
  have push : ∀ (s : World ρ) (tasks : List (Task κ)) (stay : Stay),
      System.stack ⟨s, (w, stay) :: c.stays, tasks⟩ v = c.stack v :=
    fun _ _ _ => List.filterMap_cons_none (if_neg (Ne.symm hv))
  cases step with
  | enter ran | resume ran | call t info ran | poll perm ran => exact push _ _ _
  | release top ran | suspend top ran | leave top fate ran | finish top future fate ran =>
    exact (top.stack_of_ne hv _ _).symm
  | operate op ran | answers m v | refuse t info ran refused | future future
  | carry perm scope ran | wrap perm template info | pass perm ran closed | drop perm ran => rfl

/-! ## Units and runs -/

/-- A unit of work of `w`, from before it to after it: a step that runs no code of the client, or a
stay with everything that any worker does until it ends. -/
inductive WorkUnit (w : Worker) : System ρ κ → System ρ κ → Prop where
  | passing {c d : System ρ κ} (step : Step w .passes c d) : WorkUnit w c d
  | staying {c c' d' d : System ρ κ} {stay : Stay} (begins : Step w (.begins stay) c c')
      (isUnit : stay.IsUnit (c.world.bound w)) (runs : Runs c' d')
      (innermost : d'.stack w = stay :: c.stack w) (ends : Step w (.ends stay) d' d) :
      WorkUnit w c d

/-- A unit of work leaves bound what it found, whatever happened meanwhile. -/
theorem WorkUnit.bound (unit : WorkUnit w c d) : d.world.bound w = c.world.bound w := by
  cases unit with
  | passing step => exact step.bound_of_passes
  | staying begins isUnit runs innermost ends =>
    by_cases hasSlot : w.hasSlot
    · exact ends.bound_of_ends (begins.leaves_of_begins isUnit) hasSlot
    · rw [bound_of_not_hasSlot hasSlot, bound_of_not_hasSlot hasSlot]

/-- Whether a step that a worker makes between its stays belongs to a unit of work. -/
def Mark.IsUnit (found : Option Xid) : Mark → Prop
  | .begins stay => stay.IsUnit found
  | .ends _ | .passes | .prepares => True
  | .operates => False

/-- Runs in which a worker does nothing but units of work; other workers do anything. -/
inductive UnitRuns (w : Worker) : System ρ κ → System ρ κ → Prop where
  | refl (c : System ρ κ) : UnitRuns w c c
  | step {c d e : System ρ κ} {v : Worker} {mark : Mark} (runs : UnitRuns w c d)
      (step : Step v mark d e)
      (isUnit : v = w → d.stack w = [] → Mark.IsUnit (d.world.bound w) mark) : UnitRuns w c e

/-- What holds of a worker that does nothing but units of work: nothing is bound between them, and
the outermost stay will leave nothing bound. -/
def Clean (w : Worker) (c : System ρ κ) : Prop :=
  match (c.stack w).getLast? with
  | none => c.world.bound w = none
  | some stay => stay.leaves = some none

theorem Step.clean (step : Step v mark c d)
    (isUnit : v = w → c.stack w = [] → Mark.IsUnit (c.world.bound w) mark) (clean : c.Clean w) :
    d.Clean w := by
  by_cases hv : v = w
  · subst hv
    have moves := step.stack
    unfold Clean at clean ⊢
    -- only what the outermost stay is set to leave matters, and the steps inside it keep that
    cases mark with
    | begins stay =>
      rw [show d.stack v = stay :: c.stack v from moves]
      cases hstack : c.stack v with
      | nil =>
        rw [hstack] at clean
        exact (step.leaves_of_begins (isUnit rfl hstack)).trans (congrArg some clean)
      | cons outer rest =>
        rw [hstack] at clean
        rwa [List.getLast?_cons_cons]
    | ends stay =>
      rw [show c.stack v = stay :: d.stack v from moves] at clean
      cases hstack : d.stack v with
      | nil =>
        rw [hstack] at clean
        by_cases hasSlot : v.hasSlot
        · exact step.bound_of_ends clean hasSlot
        · exact bound_of_not_hasSlot hasSlot _
      | cons outer rest => rwa [hstack, List.getLast?_cons_cons] at clean
    | passes =>
      rw [show d.stack v = c.stack v from moves, step.bound_of_passes]
      exact clean
    | operates =>
      rw [show d.stack v = c.stack v from moves]
      cases hstack : c.stack v with
      | nil => exact (isUnit rfl hstack).elim
      | cons outer rest =>
        rw [List.getLast?_cons]
        rw [hstack, List.getLast?_cons] at clean
        exact clean
    | prepares =>
      rw [show d.stack v = c.stack v from moves, step.bound_of_prepares]
      exact clean
  -- the steps of other workers
  · rw [Clean, step.stack_of_ne (Ne.symm hv), step.elsewhere.bound (Ne.symm hv)]
    exact clean

theorem UnitRuns.clean (runs : UnitRuns w c d) (clean : c.Clean w) : d.Clean w := by
  induction runs with
  | refl => exact clean
  | step runs step isUnit ih => exact step.clean isUnit ih

/-- No worker leaks a transaction between units of work: a unit leaves bound what it found, and a
worker that starts with nothing bound and runs nothing but units, among whatever other workers do,
has nothing bound whenever it is between two of them. The poll of every task that is carried or a
transactional call is a unit: all that is none is the poll of a bare future of the client. -/
theorem units_leave_bound (w : Worker) :
    (∀ c d : System ρ κ, WorkUnit w c d → d.world.bound w = c.world.bound w) ∧
    (∀ c d : System ρ κ, c.stack w = [] → c.world.bound w = none → UnitRuns w c d →
      d.stack w = [] → d.world.bound w = none) ∧
    (∀ (α : Type) (task : Task κ) (s t : World ρ) (layers : List Layer) (future : κ),
      (task.reach : Action ρ (List Layer × Reached κ α)) w s =
        .ok ⟨.returned (layers, .inside future), t⟩ →
      ((Stay.poll layers).IsUnit (s.bound w) ↔ task ≠ .plain future)) := by
  refine ⟨fun c d unit => unit.bound, fun c d empty bound runs empty' => ?_,
    fun α task s t layers future ran => Task.isUnit_iff_of_reach ran⟩
  have clean : c.Clean w := by
    rw [Clean, empty]
    exact bound
  have after := runs.clean clean
  rwa [Clean, empty'] at after

/-- A guard over a scope, whose body unbinds what the scope carries. -/
theorem units_leave_bound_of_guard :
    ∃ c d : System Unit Unit, WorkUnit .main c d ∧ UnitRuns .main c d ∧
      d.world.bound .main = c.world.bound .main ∧ d.world.bound .main = none := by
  let c : System Unit Unit := { world := { rest := () } }
  have resumed : Hook.scope.resume (.carrying (some Manager.firstXid)) .main c.world = .ok _ := rfl
  have begins := Step.resume resumed
  have unit := WorkUnit.staying begins trivial
    ((Runs.refl _).step (.operate (w := .main) (.slot .unbind) rfl)) rfl
    (.release (⟨rfl, fun _ mem => absurd mem List.not_mem_nil⟩ : Innermost _ _ _ [] []) rfl)
  have runs := ((UnitRuns.refl (w := .main) c).step begins fun _ _ => trivial).step
    (.operate (w := .main) (.slot .unbind) rfl) fun _ empty =>
      absurd empty (List.cons_ne_nil _ _)
  have runs' := runs.step
    (.release (⟨rfl, fun _ mem => absurd mem List.not_mem_nil⟩ : Innermost _ .main _ [] []) rfl)
    fun _ _ => trivial
  exact ⟨c, _, unit, runs', (units_leave_bound .main).1 c _ unit,
    (units_leave_bound .main).2.1 c _ rfl rfl runs' rfl⟩

end System
end AmbientTx
