import AmbientTx.Proofs.Joining

/-! # The business of a launcher

A business is the code that a launcher runs, with everything that it hands to other workers. Its
state has the stays and the tasks that are its own, and, since scopes may also be turned by hand,
which scopes it activated so and on which workers it goes on so. A business that takes care
(`Business.Step`) may do anything where it runs but remove the binding; it goes on elsewhere only
under a scope that carries a transaction. Wherever it runs a transaction is bound
(`Business.Sound`), so all its calls join, and the manager of the launcher sees one transaction.
-/

namespace AmbientTx

variable {ρ κ α ε : Type} {v home : Worker} {s t : World ρ}

open World AmbientTx.Action

/-! ## Operations that leave a transaction bound -/

/-- Whether an operation on a slot with a transaction leaves one there. -/
def Script.SlotOp.retains : Script.SlotOp → Bool
  | .bindText text => (Xid.ofString? text).isSome
  | .restore x => x.isSome
  | .unbind | .clear => false
  | .bind _ | .current | .isCurrent _ | .inTransaction | .assertOutside | .bindMode _
  | .unbindMode | .mode | .bindGlobalLock | .unbindGlobalLock | .requiresGlobalLock
  | .setTimeout _ | .timeout | .slot => true

theorem Script.SlotOp.apply_retains {op : SlotOp} (retains : op.retains) (config : ContextConfig)
    {slot : Slot} (bound : slot.xid ≠ none) : (op.apply config slot).2.xid ≠ none := by
  cases op with
  | bind text =>
    simp only [apply]
    cases Xid.ofString text with
    | ok x => exact Option.some_ne_none x
    | error e => exact bound
  | bindText text => exact Option.isSome_iff_ne_none.1 retains
  | restore x => exact Option.isSome_iff_ne_none.1 retains
  | unbind | clear => cases retains
  | assertOutside =>
    simp only [apply]
    cases slot.xid <;> exact bound
  | current | isCurrent x | inTransaction | bindMode m | unbindMode | mode | bindGlobalLock
  | unbindGlobalLock | requiresGlobalLock | setTimeout n | timeout | slot => exact bound

/-- What all workers share says nothing about what is bound. -/
theorem World.bound_shares (v : Worker) :
    Shares (fun (_ : Worker) (s t : World ρ) => t.bound v = s.bound v) where
  repeats := ⟨fun _ _ => rfl, fun h k => k.trans h⟩
  event _ _ _ _ := rfl
  config _ _ _ := rfl
  installed _ _ _ := rfl

namespace Operation

/-- The scope that an operation activates where this is bound. -/
def activates? (found : Option Xid) : Operation → Option Scope
  | .activate scope | .resume scope =>
    if scope.isActive then none else some { scope with saved := some found }
  | .slot _ | .shared _ | .deactivate _ | .suspend _ => none

/-- The scope that an operation deactivates. -/
def deactivates? : Operation → Option Scope
  | .deactivate scope | .suspend scope => some scope
  | .slot _ | .shared _ | .activate _ | .resume _ => none

/-- Whether an operation removes no binding, if these scopes put a transaction back. -/
def Retains (held : List Scope) : Operation → Prop
  | .slot op => op.retains
  | .shared _ | .activate _ | .resume _ => True
  | .deactivate scope | .suspend scope => scope.isActive → scope ∈ held

theorem retains_of_activates {op : Operation} {found : Option Xid} {active : Scope}
    (activates : op.activates? found = some active) (bound : found ≠ none) : active.Retains := by
  cases op with
  | activate scope | resume scope =>
    simp only [activates?] at activates
    split at activates
    · cases activates
    · cases activates
      exact Scope.retains_of_saved rfl bound
  | slot op | shared op | deactivate scope | suspend scope => cases activates

/-- Activating by hand binds what the scope carries, over what is bound already. -/
theorem bound_of_activates {op : Operation} {active : Scope} {r : Ran ρ Unit}
    (activates : op.activates? (s.bound v) = some active) (hasSlot : v.hasSlot)
    (leads : s.bound v ≠ none ∨ active.captured ≠ none) (ran : op.perform v s = .ok r) :
    r.world.bound v ≠ none := by
  cases op with
  | activate scope =>
    obtain ⟨captured, _ | saved⟩ := scope
    · cases activates
      have activated := (Scope.activate_run captured v s).map fun _ => ()
      exact activated.bound_ne_none ran hasSlot (Scope.or_ne_none leads)
    · cases activates
  | resume scope =>
    obtain ⟨captured, _ | saved⟩ := scope
    · cases activates
      have resumed := (Scope.resume_run captured v s).map fun _ => ()
      exact resumed.bound_ne_none ran hasSlot (Scope.or_ne_none leads)
    · cases activates
  | slot op | shared op | deactivate scope | suspend scope => cases activates

/-- An operation that removes no binding leaves a transaction bound. -/
theorem bound_of_retains {op : Operation} {held : List Scope} {r : Ran ρ Unit}
    (retains : op.Retains held) (holds : ∀ scope ∈ held, scope.Retains) (hasSlot : v.hasSlot)
    (bound : s.bound v ≠ none) (ran : op.perform v s = .ok r) : r.world.bound v ≠ none := by
  have turned {scope : Scope} (active : op.activates? (s.bound v) = some scope) :
      r.world.bound v ≠ none :=
    bound_of_activates active hasSlot (.inl bound) ran
  cases op with
  | slot op =>
    obtain ⟨t, hrun, -, hslot⟩ := op.perform_computes v s
    obtain rfl := Except.ok.inj ((bind_of_returned hrun _).symm.trans ran)
    show t.bound v ≠ none
    rw [World.bound, hslot hasSlot]
    exact op.apply_retains retains s.config bound
  | shared op =>
    obtain ⟨reply, t, hrun, same⟩ := (bound_shares v).perform op v s
    obtain rfl := Except.ok.inj ((bind_of_returned hrun _).symm.trans ran)
    exact fun unbound => bound (same.symm.trans unbound)
  | activate scope =>
    obtain ⟨captured, _ | saved⟩ := scope
    · exact turned rfl
    -- an active scope is refused, and nothing changes
    · cases ran
      exact bound
  | resume scope =>
    obtain ⟨captured, _ | saved⟩ := scope
    · exact turned rfl
    · cases ran
      exact bound
  | deactivate scope =>
    obtain ⟨captured, _ | saved⟩ := scope
    · cases ran
      exact bound
    · obtain ⟨x, saved⟩ := holds _ (retains rfl)
      cases saved
      have restored := (Scope.deactivate_run captured (some x) v s).map fun _ => ()
      exact restored.bound_ne_none ran hasSlot (Option.some_ne_none x)
  | suspend scope =>
    obtain ⟨captured, _ | saved⟩ := scope
    · cases ran
      exact bound
    · obtain ⟨x, saved⟩ := holds _ (retains rfl)
      cases saved
      have restored := (Scope.suspend_run captured (some x) v s).map fun _ => ()
      exact restored.bound_ne_none ran hasSlot (Option.some_ne_none x)

end Operation

/-! ## Businesses -/

/-- Whether a step is an operation of the client. -/
def Mark.isOperation : Mark → Bool
  | .operates => true
  | .begins _ | .ends _ | .passes | .prepares => false

/-- The state of a business of a launcher: its own stays and tasks in the world of all workers, and
what it did to scopes by hand. -/
structure Business (ρ κ : Type) extends System ρ κ where
  /-- The scopes that it activated by hand where it runs. -/
  held : List Scope := []
  /-- The workers that it was handed over to by hand, and the scopes that it activated there. -/
  handed : List (Worker × Scope) := []

namespace Business

/-- Whether a business runs on a worker outside of any stay: on that of its launcher, or on one
that it was handed over to by hand. -/
def Anchored (home : Worker) (handed : List (Worker × Scope)) (v : Worker) : Prop :=
  v = home ∨ ∃ scope, (v, scope) ∈ handed

/-- Whether a business runs on a worker. -/
def Inside (home : Worker) (b : Business ρ κ) (v : Worker) : Prop :=
  Anchored home b.handed v ∨ b.stack v ≠ []

/-- One step of a business that never removes the binding. -/
inductive Step (home v : Worker) : Business ρ κ → Business ρ κ → Prop where
  /-- An operation where the business runs, of those that remove no binding. -/
  | operate {b : Business ρ κ} {r : Ran ρ Unit} (inside : b.Inside home v) (op : Operation)
      (retains : op.Retains b.held) (ran : op.perform v b.world = .ok r) :
      Step home v b { b with
        world := r.world, held := (op.activates? (b.world.bound v)).toList ++ b.held }
  /-- Anything else where the business runs: calls, guards, polls and their ends, in any way. -/
  | work {b : Business ρ κ} {mark : Mark} {c : System ρ κ} (inside : b.Inside home v)
      (step : System.Step v mark b.toSystem c) (library : mark.isOperation = false) :
      Step home v b { b with toSystem := c }
  /-- A guard over a scope with a transaction, on another worker. -/
  | guardAway {b : Business ρ κ} {scope : Scope} {c : System ρ κ} (outside : ¬ b.Inside home v)
      (carries : scope.captured ≠ none)
      (step : System.Step v (.begins (.guarded scope)) b.toSystem c) :
      Step home v b { b with toSystem := c }
  /-- A poll, on another worker, of a task that is carried by a scope with a transaction. -/
  | pollAway {b : Business ρ κ} {α : Type} {task : Task κ} {tasks : List (Task κ)}
      {layers : List Layer} {future : κ} {s : World ρ} (outside : ¬ b.Inside home v)
      (carries : task.captured? ≠ none) (perm : b.tasks.Perm (task :: tasks))
      (ran : (task.reach : Action ρ (List Layer × Reached κ α)) v b.world =
        .ok ⟨.returned (layers, .inside future), s⟩) :
      Step home v b { b with world := s, stays := (v, .poll layers) :: b.stays, tasks }
  /-- Such a poll that ends before it gets to the future inside. -/
  | passAway {b : Business ρ κ} {α : Type} {task task' : Task κ} {tasks : List (Task κ)}
      {layers : List Layer} {polled : Polled κ α} {fate : Fate (Progress α)} {s s' : World ρ}
      (outside : ¬ b.Inside home v) (carries : task.captured? ≠ none)
      (perm : b.tasks.Perm (task :: tasks))
      (ran : task.reach v b.world = .ok ⟨.returned (layers, .ended polled), s⟩)
      (closed : Layer.closeAll layers polled v s = .ok ⟨.returned (task', fate), s'⟩) :
      Step home v b { b with world := s', tasks := task' :: tasks }
  /-- A task is dropped, wherever its owner is. -/
  | drop {b : Business ρ κ} {task : Task κ} {tasks : List (Task κ)} {r : Ran ρ Unit}
      (perm : b.tasks.Perm (task :: tasks)) (ran : task.drop v b.world = .ok r) :
      Step home v b { b with world := r.world, tasks }
  /-- On another worker a scope with a transaction is activated by hand, and the business goes on
  there. -/
  | handOver {b : Business ρ κ} {r : Ran ρ Unit} {active : Scope} (outside : ¬ b.Inside home v)
      (op : Operation) (activates : op.activates? (b.world.bound v) = some active)
      (carries : active.captured ≠ none) (ran : op.perform v b.world = .ok r) :
      Step home v b { b with world := r.world, handed := (v, active) :: b.handed }
  /-- That scope is deactivated there, when the business has no stays there any more. -/
  | handBack {b : Business ρ κ} {r : Ran ρ Unit} {active : Scope} (away : v ≠ home)
      (alone : b.stack v = []) (mem : (v, active) ∈ b.handed) (op : Operation)
      (deactivates : op.deactivates? = some active) (ran : op.perform v b.world = .ok r) :
      Step home v b { b with world := r.world, handed := b.handed.filter fun e => e.1 ≠ v }

/-- Any number of steps, on workers that have a slot. -/
inductive Runs (home : Worker) : Business ρ κ → Business ρ κ → Prop where
  | refl (b : Business ρ κ) : Runs home b b
  | step {b c d : Business ρ κ} {v : Worker} (runs : Runs home b c) (hasSlot : v.hasSlot)
      (step : Step home v c d) : Runs home b d

/-! ## The invariant -/

/-- The stays of a worker retain a transaction, but for the outermost one on a worker that the
business runs on only in that stay. -/
def Nested (anchored : Prop) : List Stay → Prop
  | [] => True
  | stay :: outer => (anchored ∨ outer ≠ [] → stay.Retains) ∧ Nested anchored outer

/-- What holds throughout the run of a business: a transaction is bound wherever it runs, the stays
there will leave one bound, as will the scopes that it activated by hand, and nobody has anything to
complete. -/
structure Sound (home : Worker) (b : Business ρ κ) : Prop where
  bound : ∀ v, b.Inside home v → b.world.bound v ≠ none
  nested : ∀ v, Nested (Anchored home b.handed v) (b.stack v)
  held : ∀ scope ∈ b.held, scope.Retains
  free : b.toSystem.Free

variable {b e : Business ρ κ} {c : System ρ κ} {mark : Mark}

/-- A step of a worker changes nothing on the others. -/
theorem Sound.after {held : List Scope} {handed : List (Worker × Scope)} (sound : b.Sound home)
    (step : System.Step v mark b.toSystem c)
    (others : ∀ u, u ≠ v → (Anchored home handed u ↔ Anchored home b.handed u))
    (bound : Anchored home handed v ∨ c.stack v ≠ [] → c.world.bound v ≠ none)
    (nested : Nested (Anchored home handed v) (c.stack v)) (holds : ∀ scope ∈ held, scope.Retains)
    (free : c.Free) : Sound home ⟨c, held, handed⟩ := by
  refine ⟨fun u inside => ?_, fun u => ?_, holds, free⟩
  · by_cases hu : u = v
    · subst hu
      exact bound inside
    · show c.world.bound u ≠ none
      rw [step.elsewhere.bound hu]
      refine sound.bound u (inside.imp (others u hu).1 fun stack => ?_)
      rwa [← step.stack_of_ne hu]
  · by_cases hu : u = v
    · subst hu
      exact nested
    · show Nested (Anchored home handed u) (c.stack u)
      rw [step.stack_of_ne hu, propext (others u hu)]
      exact sound.nested u

/-- Where a business runs, whatever the library does keeps it sound. -/
theorem Sound.work (sound : b.Sound home) (hasSlot : v.hasSlot) (inside : b.Inside home v)
    (step : System.Step v mark b.toSystem c) (library : mark.isOperation = false) :
    Sound home { b with toSystem := c } := by
  have bound := sound.bound v inside
  have nested := sound.nested v
  have free := (step.quiet hasSlot bound sound.free).2
  have moves := step.stack
  have others : ∀ u, u ≠ v → (Anchored home b.handed u ↔ Anchored home b.handed u) :=
    fun _ _ => .rfl
  cases mark with
  | begins stay =>
    have stack : c.stack v = stay :: b.stack v := moves
    have begun := step.retains_of_begins hasSlot bound sound.free
    refine sound.after step others (fun _ => begun.1) ?_ sound.held free
    rw [stack]
    exact ⟨fun _ => begun.2, nested⟩
  | ends stay =>
    have stack : b.stack v = stay :: c.stack v := moves
    rw [stack] at nested
    -- the stay retains a transaction if the business still runs here after it
    have left := fun inside => step.bound_of_retains (nested.1 inside) hasSlot bound
    exact sound.after step others left nested.2 sound.held free
  | passes =>
    have stack : c.stack v = b.stack v := moves
    refine sound.after step others (fun _ => ?_) ?_ sound.held free
    · rwa [step.bound_of_passes]
    · rwa [stack]
  | prepares =>
    have stack : c.stack v = b.stack v := moves
    refine sound.after step others (fun _ => ?_) ?_ sound.held free
    · rwa [step.bound_of_prepares]
    · rwa [stack]
  | operates => cases library

/-- On a worker that the business does not run on, it has no stays. -/
theorem stack_of_outside (outside : ¬ b.Inside home v) : b.stack v = [] :=
  Classical.byContradiction fun stays => outside (.inr stays)

/-- The stay that a business begins on another worker leaves a transaction bound there until it
ends. -/
theorem Sound.away {stay : Stay} (sound : b.Sound home) (outside : ¬ b.Inside home v)
    (step : System.Step v (.begins stay) b.toSystem c) (bound : c.world.bound v ≠ none)
    (free : c.Free) : Sound home { b with toSystem := c } := by
  have stack : c.stack v = [stay] := by
    rw [show c.stack v = stay :: b.stack v from step.stack, stack_of_outside outside]
  refine sound.after step (fun _ _ => .rfl) (fun _ => bound) ?_ sound.held free
  rw [stack]
  refine ⟨fun inside => ?_, trivial⟩
  rcases inside with anchored | nonempty
  · exact absurd (.inl anchored) outside
  · exact absurd rfl nonempty

/-- A step that leaves a worker without the business. -/
theorem Sound.outside {handed : List (Worker × Scope)} (sound : b.Sound home)
    (step : System.Step v mark b.toSystem c)
    (others : ∀ u, u ≠ v → (Anchored home handed u ↔ Anchored home b.handed u))
    (left : ¬ Anchored home handed v) (alone : c.stack v = []) (free : c.Free) :
    Sound home ⟨c, b.held, handed⟩ := by
  refine sound.after step others (fun inside => ?_) ?_ sound.held free
  · rcases inside with anchored | stays
    · exact absurd anchored left
    · exact absurd alone stays
  · rw [alone]
    trivial

/-- No step of a business calls a manager, and its invariant holds after the step. -/
theorem Step.sound (step : Step home v b e) (hasSlot : v.hasSlot) (sound : b.Sound home) :
    e.world.calls = b.world.calls ∧ e.Sound home := by
  have free := sound.free
  cases step with
  | operate inside op retains ran =>
    have bound := sound.bound v inside
    have after := Operation.bound_of_retains retains sound.held hasSlot bound ran
    refine ⟨(op.perform_calm.keeps ran).calls, ?_⟩
    refine sound.after (.operate op ran) (fun _ _ => .rfl) (fun _ => after) (sound.nested v)
      (fun scope mem => ?_) ⟨free.stays, free.tasks⟩
    rcases List.mem_append.1 mem with mem | mem
    · exact Operation.retains_of_activates (Option.mem_toList.1 mem) bound
    · exact sound.held scope mem
  | work inside step library =>
    have quiet := step.quiet hasSlot (sound.bound v inside) free
    exact ⟨quiet.1, sound.work hasSlot inside step library⟩
  | @guardAway scope c outside carries step =>
    have calls : c.world.calls = b.world.calls := by
      cases step with
      | enter ran => exact ((Scope.activate_calm _).keeps ran).calls
      | resume ran => exact ((Scope.resume_calm _).keeps ran).calls
    have guarded : c.Free := by
      cases step with
      | enter ran | resume ran => exact ⟨List.forall_mem_cons.2 ⟨rfl, free.stays⟩, free.tasks⟩
    exact ⟨calls, sound.away outside step (step.bound_of_guarded hasSlot (.inr carries)) guarded⟩
  | pollAway outside carries perm ran =>
    obtain ⟨task, others⟩ := free.of_perm perm
    obtain ⟨layers, bound, calls⟩ := Task.reach_calls _ task hasSlot ⟨.inr carries, rfl⟩ ran
    exact ⟨calls, sound.away outside (.poll perm ran) bound
      ⟨List.forall_mem_cons.2 ⟨layers, free.stays⟩, others⟩⟩
  | passAway outside carries perm ran closed =>
    obtain ⟨task, others⟩ := free.of_perm perm
    obtain ⟨layers, polled, calls⟩ := Task.reach_calls _ task hasSlot ⟨.inr carries, rfl⟩ ran
    obtain ⟨after, calls⟩ := Layer.closeAll_calls _ layers _ polled calls closed
    exact ⟨calls, sound.outside (.pass perm ran closed) (fun _ _ => .rfl)
      (fun anchored => outside (.inl anchored)) (stack_of_outside outside)
      ⟨free.stays, List.forall_mem_cons.2 ⟨after, others⟩⟩⟩
  | @drop task tasks r perm ran =>
    obtain ⟨owed, others⟩ := free.of_perm perm
    have silent := task.drop_silent ran
    refine ⟨task.drop_calls owed rfl ran, sound.after (.drop perm ran) (fun _ _ => .rfl)
      (fun inside => ?_) (sound.nested v) sound.held ⟨free.stays, others⟩⟩
    show r.world.bound v ≠ none
    rw [silent.bound]
    exact sound.bound v inside
  | @handOver r active outside op activates carries ran =>
    have bound := Operation.bound_of_activates activates hasSlot (.inr carries) ran
    refine ⟨(op.perform_calm.keeps ran).calls, sound.after (.operate op ran) (fun u hu => ?_)
      (fun _ => bound) ?_ sound.held ⟨free.stays, free.tasks⟩⟩
    · simp [Anchored, hu]
    · show Nested _ (b.stack v)
      rw [stack_of_outside outside]
      trivial
  | handBack away alone mem op deactivates ran =>
    refine ⟨(op.perform_calm.keeps ran).calls, sound.outside (.operate op ran) (fun u hu => ?_) ?_
      alone ⟨free.stays, free.tasks⟩⟩
    · simp [Anchored, hu]
    · simp [Anchored, away]

/-- A business calls no manager. -/
theorem Runs.sound (runs : Runs home b e) (sound : b.Sound home) :
    e.world.calls = b.world.calls ∧ e.Sound home := by
  induction runs with
  | refl => exact ⟨rfl, sound⟩
  | step runs hasSlot step ih =>
    obtain ⟨calls, sound⟩ := ih
    obtain ⟨same, sound⟩ := step.sound hasSlot sound
    exact ⟨same.trans calls, sound⟩

end Business
end AmbientTx
