import AmbientTx.Proofs.Operation
import Mathlib.Logic.Function.Basic

/-! # Carried tasks do not depend on the schedule

Tasks that are carried over captured transactions run in any interleaving, on any workers, among
operations of other code on workers that run no task at the time. The body of a task is a machine of
its own that does nothing to a slot but through operations on the transaction. A job is a task that
never waits: its carrier has no span, and it is resumed once (`Job.call_eq`).

The theorem is a simulation: what a task has seen in a run is what it sees when it runs alone on a
variable for the transaction (`Alone`), for as many steps. The link is the transaction bound on the
worker that runs the task, which nobody else writes while it does. All that a task notices of its
workers is whether they have a slot: on a worker that lost its slot nothing can be bound. So two runs
of any schedules whose turns are alike in this show a task the same as far as both come, and they
are always alike on workers that have a slot.
-/

namespace AmbientTx

variable {ρ ι σ α β : Type} {w : Worker}

open World AmbientTx.Action Script

/-! ## Bodies -/

/-- The operations on the transaction of a slot. -/
inductive XidOp where
  | bind (text : String)
  | bindText (text : String)
  | unbind
  | restore (xid : Option Xid)
  | current
  | inTransaction
  | isCurrent (expected : Option Xid)

namespace XidOp

/-- As an operation on the slot. -/
def toSlotOp : XidOp → SlotOp
  | .bind text => .bind text
  | .bindText text => .bindText text
  | .unbind => .unbind
  | .restore xid => .restore xid
  | .current => .current
  | .inTransaction => .inTransaction
  | .isCurrent expected => .isCurrent expected

/-- What an operation replies, and what it leaves bound. -/
def apply (bound : Option Xid) : XidOp → Reply × Option Xid
  | .bind text =>
    match Xid.ofString text with
    | .ok x => (.xid bound, some x)
    | .error e => (.refused (.model e), bound)
  | .bindText text => (.xid bound, Xid.ofString? text)
  | .unbind => (.xid bound, none)
  | .restore xid => (.nothing, xid)
  | .current => (.xid bound, bound)
  | .inTransaction => (.flag bound.isSome, bound)
  | .isCurrent expected => (.flag (decide (bound = expected)), bound)

/-- An operation on the transaction reads and writes nothing else of the slot. -/
theorem apply_toSlotOp (op : XidOp) (config : ContextConfig) (slot : Slot) :
    op.toSlotOp.apply config slot =
      ((op.apply slot.xid).1, { slot with xid := (op.apply slot.xid).2 }) := by
  cases op with
  | bind text =>
    simp only [toSlotOp, SlotOp.apply, apply]
    cases Xid.ofString text <;> rfl
  | bindText text | unbind | restore xid | current | inTransaction | isCurrent expected => rfl

end XidOp

/-- What a body does next. -/
inductive Move (σ α : Type) where
  /-- It performs an operation, and goes on with the reply. -/
  | perform (op : XidOp) (next : Reply → σ)
  /-- It ends its turn: it waits, is ready, or panics. -/
  | stop (next : σ) (fate : Fate (Progress α))

/-- The bodies of all tasks: what to do next, for each place that a body can be at. -/
abbrev Bodies (σ α : Type) := σ → Move σ α

/-- What a task sees. -/
inductive Seen (α : Type) where
  /-- A turn starts with this bound. -/
  | started (bound : Option Xid)
  /-- An operation replies, and leaves this bound. -/
  | replied (reply : Reply) (bound : Option Xid)
  /-- A turn ends. -/
  | stopped (fate : Fate (Progress α))

/-! ## Schedules -/

/-- Where a task is. -/
inductive Phase (σ α : Type) where
  /-- It waits for its next turn. -/
  | idle (carrier : Carrier) (place : σ)
  /-- A worker runs it. -/
  | running (worker : Worker) (carrier : Carrier) (place : σ)
  | ended (fate : Fate (Progress α))

/-- The tasks of a schedule, the workers that their turns were given to, and what they have seen so
far. -/
structure Schedule (ρ ι σ α : Type) where
  world : World ρ
  phase : ι → Phase σ α
  turns : ι → List Worker
  seen : ι → List (Seen α)

namespace Schedule

/-- A worker that runs no task. -/
def Free (w : Worker) (c : Schedule ρ ι σ α) : Prop :=
  ∀ i carrier place, c.phase i ≠ .running w carrier place

/-- Where a task is after a turn. -/
def afterTurn (carrier : Carrier) (place : σ) : Fate (Progress α) → Phase σ α
  | .returned .waiting => .idle carrier place
  | .returned (.ready outcome) => .ended (.returned (.ready outcome))
  | .unwound p => .ended (.unwound p)

variable [DecidableEq ι]

/-- A task moves on, on the worker of a turn that it was given or within its turn, and sees
something. -/
def advance (c : Schedule ρ ι σ α) (s : World ρ) (i : ι) (given : List Worker)
    (phase : Phase σ α) (seen : Seen α) : Schedule ρ ι σ α where
  world := s
  phase := Function.update c.phase i phase
  turns := Function.update c.turns i (c.turns i ++ given)
  seen := Function.update c.seen i (c.seen i ++ [seen])

/-- One step of a schedule. -/
inductive Step (bodies : Bodies σ α) : Schedule ρ ι σ α → Schedule ρ ι σ α → Prop where
  /-- A task starts a turn on a worker. -/
  | start {c : Schedule ρ ι σ α} {i : ι} {w : Worker} {carrier active : Carrier} {place : σ}
      {s : World ρ} (idle : c.phase i = .idle carrier place) (free : c.Free w)
      (ran : Carrier.hook.resume carrier w c.world = .ok ⟨.returned (active, .returned ()), s⟩) :
      Step bodies c (c.advance s i [w] (.running w active place) (.started (s.bound w)))
  /-- The carrier of a task panics when it is resumed. -/
  | refuse {c : Schedule ρ ι σ α} {i : ι} {w : Worker} {carrier active : Carrier} {place : σ}
      {p : Panic} {s : World ρ} (idle : c.phase i = .idle carrier place) (free : c.Free w)
      (ran : Carrier.hook.resume carrier w c.world = .ok ⟨.returned (active, .unwound p), s⟩) :
      Step bodies c (c.advance s i [w] (.ended (.unwound p)) (.stopped (.unwound p)))
  /-- A body performs an operation. -/
  | perform {c : Schedule ρ ι σ α} {i : ι} {w : Worker} {carrier : Carrier} {place : σ}
      {op : XidOp} {next : Reply → σ} {reply : Reply} {s : World ρ}
      (running : c.phase i = .running w carrier place) (move : bodies place = .perform op next)
      (ran : op.toSlotOp.perform w c.world = .ok ⟨.returned reply, s⟩) :
      Step bodies c
        (c.advance s i [] (.running w carrier (next reply)) (.replied reply (s.bound w)))
  /-- A body ends its turn. -/
  | stop {c : Schedule ρ ι σ α} {i : ι} {w : Worker} {carrier idle : Carrier} {place next : σ}
      {fate fate' : Fate (Progress α)} {s : World ρ}
      (running : c.phase i = .running w carrier place) (move : bodies place = .stop next fate)
      (ran : Carrier.hook.finish carrier fate w c.world = .ok ⟨.returned (idle, fate'), s⟩) :
      Step bodies c (c.advance s i [] (afterTurn idle next fate') (.stopped fate'))
  /-- Other code performs an operation on a worker that runs no task. -/
  | other {c : Schedule ρ ι σ α} {w : Worker} {r : Ran ρ Unit} (free : c.Free w) (op : Operation)
      (ran : op.perform w c.world = .ok r) : Step bodies c { c with world := r.world }

/-- Any number of steps. -/
inductive Runs (bodies : Bodies σ α) : Schedule ρ ι σ α → Schedule ρ ι σ α → Prop where
  | refl (c : Schedule ρ ι σ α) : Runs bodies c c
  | step {c d e : Schedule ρ ι σ α} (runs : Runs bodies c d) (step : Step bodies d e) :
      Runs bodies c e

/-- All tasks wait for their first turn, each at its place and carried over what it captured. -/
structure Ready (captured : ι → Xid) (place : ι → σ) (c : Schedule ρ ι σ α) : Prop where
  phase : ∀ i, ∃ span,
    c.phase i = .idle ⟨Scope.carrying (some (captured i)), span⟩ (place i)
  turns : ∀ i, c.turns i = []
  seen : ∀ i, c.seen i = []

end Schedule

/-! ## A task alone -/

/-- Where a task is that runs alone, on a variable for the transaction. -/
inductive Solo (σ α : Type) where
  | idle (place : σ)
  /-- It runs on a worker that has a slot or has none. -/
  | running (hasSlot : Bool) (bound : Option Xid) (place : σ)
  | ended (fate : Fate (Progress α))

/-- A task that runs alone, how many turns it was given, and what it has seen. -/
structure Alone (σ α : Type) where
  task : Solo σ α
  turns : Nat
  seen : List (Seen α)

/-- What is bound after this was written: without a slot nothing is. -/
def Solo.kept (hasSlot : Bool) (written : Option Xid) : Option Xid :=
  if hasSlot then written else none

/-- Where a task alone is after a turn. -/
def Solo.afterTurn (place : σ) : Fate (Progress α) → Solo σ α
  | .returned .waiting => .idle place
  | .returned (.ready outcome) => .ended (.returned (.ready outcome))
  | .unwound p => .ended (.unwound p)

namespace Alone

/-- One step of a task alone, where `slots` says which turns are on workers that have a slot. Each
turn starts with what was captured. -/
def next (bodies : Bodies σ α) (captured : Xid) (slots : Nat → Bool) : Alone σ α → Alone σ α
  | ⟨.idle place, turns, seen⟩ =>
    let bound := Solo.kept (slots turns) (some captured)
    ⟨.running (slots turns) bound place, turns + 1, seen ++ [.started bound]⟩
  | ⟨.running hasSlot bound place, turns, seen⟩ =>
    match bodies place with
    | .perform op next =>
      let (reply, written) := op.apply bound
      let bound := Solo.kept hasSlot written
      ⟨.running hasSlot bound (next reply), turns, seen ++ [.replied reply bound]⟩
    | .stop next fate => ⟨Solo.afterTurn next fate, turns, seen ++ [.stopped fate]⟩
  | ⟨.ended fate, turns, seen⟩ => ⟨.ended fate, turns, seen⟩

/-- A task alone after some steps. -/
def after (bodies : Bodies σ α) (captured : Xid) (slots : Nat → Bool) (place : σ) :
    Nat → Alone σ α
  | 0 => ⟨.idle place, 0, []⟩
  | n + 1 => (after bodies captured slots place n).next bodies captured slots

end Alone

/-- What a turn starts with, if that is what was seen. -/
def Seen.starts? : Seen α → Option (Option Xid)
  | .started bound => some bound
  | .replied _ _ | .stopped _ => none

/-! ## The simulation -/

namespace Schedule

variable {bodies : Bodies σ α} {captured : ι → Xid} {place : ι → σ} {c d : Schedule ρ ι σ α}
  {i j : ι} {s : World ρ} {given : List Worker} {saw : Seen α} {phase : Phase σ α}

/-- Whether `slots` says which of these turns are on workers that have a slot. -/
def Tells (slots : Nat → Bool) (turns : List Worker) : Prop :=
  ∀ k w, turns[k]? = some w → slots k = w.hasSlot

theorem Tells.of_prefix {slots : Nat → Bool} {turns more : List Worker} (h : turns <+: more)
    (tells : Tells slots more) : Tells slots turns := by
  intro k w found
  obtain ⟨bound, rfl⟩ := List.getElem?_eq_some_iff.1 found
  exact tells k _ (List.prefix_iff_getElem?.1 h k bound)

/-- A task of a schedule as a task alone: its variable is what is bound on the worker that runs
it. -/
def viewIn (s : World ρ) : Phase σ α → Solo σ α
  | .idle _ place => .idle place
  | .running w _ place => .running w.hasSlot (s.bound w) place
  | .ended fate => .ended fate

/-- The carrier of a task is active while the task runs, and only then. -/
def Carries (x : Xid) : Phase σ α → Prop
  | .idle carrier _ => carrier.scope = Scope.carrying (some x)
  | .running _ carrier _ => ∃ saved, carrier.scope = ⟨some x, some saved⟩
  | .ended _ => True

/-- Whether a task runs on this worker. -/
def RunsOn (w : Worker) : Phase σ α → Prop
  | .running w' _ _ => w' = w
  | .idle _ _ | .ended _ => False

/-- What holds in every schedule: carriers are active as they should be, and no worker runs two
tasks. -/
structure Sound (captured : ι → Xid) (c : Schedule ρ ι σ α) : Prop where
  carries : ∀ i, Carries (captured i) (c.phase i)
  alone : ∀ i j w, RunsOn w (c.phase i) → RunsOn w (c.phase j) → i = j

theorem Free.not_runsOn (free : c.Free w) (i : ι) : ¬ RunsOn w (c.phase i) := by
  intro runs
  cases h : c.phase i with
  | running w' carrier place =>
    rw [h] at runs
    exact free i carrier place (runs ▸ h)
  | idle carrier place | ended fate =>
    rw [h] at runs
    exact runs

/-- A task does not notice what happens on workers that do not run it. -/
theorem viewIn_of_elsewhere {t : World ρ} (elsewhere : ∀ v, v ≠ w → t.slot v = s.slot v)
    (not : ¬ RunsOn w phase) : viewIn t phase = viewIn s phase := by
  cases phase with
  | running w' carrier place =>
    simp only [viewIn, World.bound]
    rw [elsewhere w' not]
  | idle carrier place | ended fate => rfl

/-- A run that leaves this bound, where there is a slot, leaves what is kept of it. -/
theorem bound_eq_kept {written : Option Xid} (slot : w.hasSlot → s.bound w = written) :
    s.bound w = Solo.kept w.hasSlot written := by
  unfold Solo.kept
  split
  · next hasSlot => exact slot hasSlot
  · next slotless => exact bound_of_not_hasSlot slotless s

/-- No other task runs on the worker of a task that runs. -/
theorem Sound.alone_of_running {carrier : Carrier} {place : σ} (sound : c.Sound captured)
    (running : c.phase i = .running w carrier place) (j : ι) (h : j ≠ i) :
    ¬ RunsOn w (c.phase j) :=
  fun runs => h (sound.alone j i w runs (running ▸ rfl))

/-- Only an active carrier panics when it is resumed, and one that waits is not active. -/
theorem Sound.not_refused {carrier active : Carrier} {place : σ} {p : Panic}
    (sound : c.Sound captured) (idle : c.phase i = .idle carrier place) :
    Carrier.hook.resume carrier w c.world ≠ .ok ⟨.returned (active, .unwound p), s⟩ := by
  intro ran
  obtain ⟨scope, span⟩ := carrier
  have inactive : scope = Scope.carrying (some (captured i)) := by
    have carries := sound.carries i
    rwa [idle] at carries
  subst inactive
  obtain ⟨t, hrun, -, -⟩ := Carrier.resume_run (some (captured i)) span w c.world
  cases hrun.symm.trans ran

variable [DecidableEq ι]

@[simp] theorem advance_phase_self : (c.advance s i given phase saw).phase i = phase :=
  Function.update_self ..

@[simp] theorem advance_turns_self :
    (c.advance s i given phase saw).turns i = c.turns i ++ given :=
  Function.update_self ..

@[simp] theorem advance_seen_self :
    (c.advance s i given phase saw).seen i = c.seen i ++ [saw] :=
  Function.update_self ..

theorem advance_phase_of_ne (h : j ≠ i) : (c.advance s i given phase saw).phase j = c.phase j :=
  Function.update_of_ne h ..

theorem advance_turns_of_ne (h : j ≠ i) : (c.advance s i given phase saw).turns j = c.turns j :=
  Function.update_of_ne h ..

theorem advance_seen_of_ne (h : j ≠ i) : (c.advance s i given phase saw).seen j = c.seen j :=
  Function.update_of_ne h ..

/-- A step of one task keeps the schedule sound, if the worker that the task is on afterwards runs
no other. -/
theorem Sound.advance (sound : c.Sound captured) (carries : Carries (captured i) phase)
    (alone : ∀ w, RunsOn w phase → ∀ j, j ≠ i → ¬ RunsOn w (c.phase j)) :
    (c.advance s i given phase saw).Sound captured := by
  constructor
  · intro j
    by_cases h : j = i
    · subst h
      rwa [advance_phase_self]
    · rw [advance_phase_of_ne h]
      exact sound.carries j
  · intro j k w hj hk
    by_cases h : j = i
    · subst h
      rw [advance_phase_self] at hj
      by_contra h'
      rw [advance_phase_of_ne (Ne.symm h')] at hk
      exact alone w hj k (Ne.symm h') hk
    · rw [advance_phase_of_ne h] at hj
      by_cases h' : k = i
      · subst h'
        rw [advance_phase_self] at hk
        exact absurd hj (alone w hk j h)
      · rw [advance_phase_of_ne h'] at hk
        exact sound.alone j k w hj hk

/-- A task with what it was given and has seen. -/
def view (c : Schedule ρ ι σ α) (i : ι) : Alone σ α :=
  ⟨viewIn c.world (c.phase i), (c.turns i).length, c.seen i⟩

/-- From one schedule to another, a task does what it does alone, or nothing. -/
def Follows (bodies : Bodies σ α) (captured : ι → Xid) (c d : Schedule ρ ι σ α) (i : ι) : Prop :=
  c.turns i <+: d.turns i ∧ (d.view i = c.view i ∨
    ∀ slots, Tells slots (d.turns i) → d.view i = (c.view i).next bodies (captured i) slots)

/-- A step of one task is a step of that task alone, and no step of the others. -/
theorem follows_advance
    (next : ∀ slots, Tells slots (c.turns i ++ given) →
      ⟨viewIn s phase, (c.turns i ++ given).length, c.seen i ++ [saw]⟩ =
        (c.view i).next bodies (captured i) slots)
    (elsewhere : ∀ v, v ≠ w → s.slot v = c.world.slot v)
    (alone : ∀ j, j ≠ i → ¬ RunsOn w (c.phase j)) (j : ι) :
    Follows bodies captured c (c.advance s i given phase saw) j := by
  by_cases h : j = i
  · subst h
    rw [Follows, view, advance_phase_self, advance_turns_self, advance_seen_self]
    exact ⟨List.prefix_append .., .inr next⟩
  · rw [Follows, view, view, advance_phase_of_ne h, advance_turns_of_ne h, advance_seen_of_ne h]
    refine ⟨List.prefix_rfl, .inl ?_⟩
    exact congrArg (Alone.mk · _ _) (viewIn_of_elsewhere elsewhere (alone j h))

/-- A turn starts with what was captured, if the worker has a slot. -/
theorem follows_start {carrier active : Carrier} {place : σ} (sound : c.Sound captured)
    (idle : c.phase i = .idle carrier place) (free : c.Free w)
    (ran : Carrier.hook.resume carrier w c.world = .ok ⟨.returned (active, .returned ()), s⟩) :
    let d := c.advance s i [w] (.running w active place) (.started (s.bound w))
    d.Sound captured ∧ ∀ j, Follows bodies captured c d j := by
  obtain ⟨scope, span⟩ := carrier
  have inactive : scope = Scope.carrying (some (captured i)) := by
    have carries := sound.carries i
    rwa [idle] at carries
  subst inactive
  obtain ⟨t, hrun, hturn, hslot⟩ := Carrier.resume_run (some (captured i)) span w c.world
  cases hrun.symm.trans ran
  have bound : s.bound w = Solo.kept w.hasSlot (some (captured i)) :=
    bound_eq_kept fun hasSlot => congrArg Slot.xid (hslot hasSlot)
  have alone : ∀ j, j ≠ i → ¬ RunsOn w (c.phase j) := fun j _ => free.not_runsOn j
  refine ⟨sound.advance ⟨_, rfl⟩ ?_, follows_advance (fun slots tells => ?_) hturn.slot alone⟩
  · rintro _ rfl
    exact alone
  · have here : slots (c.turns i).length = w.hasSlot :=
      tells _ w List.getElem?_concat_length
    rw [view, idle, List.length_append, bound]
    simp only [viewIn, Alone.next, here, bound, List.length_singleton]

/-- An operation does to the worker's slot what it does to the variable. -/
theorem follows_perform {carrier : Carrier} {place : σ} {op : XidOp} {next : Reply → σ}
    {reply : Reply} (sound : c.Sound captured) (running : c.phase i = .running w carrier place)
    (move : bodies place = .perform op next)
    (ran : op.toSlotOp.perform w c.world = .ok ⟨.returned reply, s⟩) :
    let d := c.advance s i [] (.running w carrier (next reply)) (.replied reply (s.bound w))
    d.Sound captured ∧ ∀ j, Follows bodies captured c d j := by
  have carries := sound.carries i
  rw [running] at carries
  obtain ⟨t, hrun, hturn, hslot⟩ := op.toSlotOp.perform_computes w c.world
  simp only [op.apply_toSlotOp] at hrun hslot
  cases hrun.symm.trans ran
  have bound : s.bound w = Solo.kept w.hasSlot (op.apply (c.world.bound w)).2 :=
    bound_eq_kept fun hasSlot => congrArg Slot.xid (hslot hasSlot)
  have alone := sound.alone_of_running running
  refine ⟨sound.advance carries ?_, follows_advance (fun _ _ => ?_) hturn.slot alone⟩
  · rintro _ rfl
    exact alone
  · rw [view, running, List.append_nil]
    simp only [viewIn, Alone.next, move, bound]
    rfl

/-- A turn ends as the body ends it. -/
theorem follows_stop {carrier idle : Carrier} {place next : σ} {fate fate' : Fate (Progress α)}
    (sound : c.Sound captured) (running : c.phase i = .running w carrier place)
    (move : bodies place = .stop next fate)
    (ran : Carrier.hook.finish carrier fate w c.world = .ok ⟨.returned (idle, fate'), s⟩) :
    let d := c.advance s i [] (afterTurn idle next fate') (.stopped fate')
    d.Sound captured ∧ ∀ j, Follows bodies captured c d j := by
  have carries := sound.carries i
  rw [running] at carries
  obtain ⟨scope, span⟩ := carrier
  obtain ⟨saved, rfl⟩ := carries
  obtain ⟨t, hrun, hturn, hslot⟩ :=
    Carrier.finish_run (some (captured i)) saved span fate w c.world
  cases hrun.symm.trans ran
  refine ⟨sound.advance ?_ ?_,
    follows_advance (fun _ _ => ?_) hturn.slot (sound.alone_of_running running)⟩
  · obtain (_ | outcome) | p := fate
    · rfl
    · trivial
    · trivial
  · obtain (_ | outcome) | p := fate <;> exact fun _ runs => runs.elim
  · rw [view, running, List.append_nil]
    simp only [viewIn, Alone.next, move]
    obtain (_ | outcome) | p := fate <;> rfl

/-- Every step keeps a schedule sound, and is a step of at most one task alone. -/
theorem Step.follows (step : Step bodies c d) (sound : c.Sound captured) :
    d.Sound captured ∧ ∀ i, Follows bodies captured c d i := by
  cases step with
  | start idle free ran => exact follows_start sound idle free ran
  | refuse idle free ran => exact absurd ran (sound.not_refused idle)
  | perform running move ran => exact follows_perform sound running move ran
  | stop running move ran => exact follows_stop sound running move ran
  | other free op ran =>
    have elsewhere := (op.perform_calm.keeps ran).slot
    refine ⟨⟨sound.carries, sound.alone⟩, fun i => ⟨List.prefix_rfl, .inl ?_⟩⟩
    exact congrArg (Alone.mk · _ _) (viewIn_of_elsewhere elsewhere (free.not_runsOn i))

/-- What holds in every run: each task is where it comes to alone, in some number of steps. -/
theorem Runs.follows (ready : c.Ready captured place) (runs : Runs bodies c d) :
    d.Sound captured ∧ ∀ i slots, Tells slots (d.turns i) →
      ∃ n, d.view i = Alone.after bodies (captured i) slots (place i) n := by
  induction runs with
  | refl =>
    refine ⟨⟨fun i => ?_, fun i j w hi _ => ?_⟩, fun i slots _ => ⟨0, ?_⟩⟩
    · obtain ⟨span, h⟩ := ready.phase i
      rw [h]
      rfl
    · obtain ⟨span, h⟩ := ready.phase i
      rw [h] at hi
      exact hi.elim
    · obtain ⟨span, h⟩ := ready.phase i
      rw [view, h, ready.turns i, ready.seen i]
      rfl
  | step runs step ih =>
    obtain ⟨sound, same⟩ := ih
    obtain ⟨sound', follows⟩ := step.follows sound
    refine ⟨sound', fun i slots tells => ?_⟩
    obtain ⟨grown, follows⟩ := follows i
    obtain ⟨n, hn⟩ := same i slots (tells.of_prefix grown)
    rcases follows with still | next
    · exact ⟨n, still.trans hn⟩
    · exact ⟨n + 1, (next slots tells).trans (congrArg (Alone.next bodies (captured i) slots) hn)⟩

/-- A task that has not ended can go on: a turn that it is given starts, an operation replies, and
a turn ends. -/
theorem Sound.goes_on (sound : c.Sound captured) (bodies : Bodies σ α) (free : c.Free w) (i : ι) :
    (∃ fate, c.phase i = .ended fate) ∨
      ∃ d saw, Step bodies c d ∧ d.seen i = c.seen i ++ [saw] := by
  have carries := sound.carries i
  cases phase : c.phase i with
  | idle carrier place =>
    rw [phase] at carries
    obtain ⟨scope, span⟩ := carrier
    obtain rfl : scope = _ := carries
    obtain ⟨t, ran, -, -⟩ := Carrier.resume_run (some (captured i)) span w c.world
    exact .inr ⟨_, _, .start phase free ran, advance_seen_self⟩
  | running w' carrier place =>
    rw [phase] at carries
    cases move : bodies place with
    | perform op next =>
      obtain ⟨t, ran, -, -⟩ := op.toSlotOp.perform_computes w' c.world
      exact .inr ⟨_, _, .perform phase move ran, advance_seen_self⟩
    | stop next fate =>
      obtain ⟨scope, span⟩ := carrier
      obtain ⟨saved, rfl⟩ := carries
      obtain ⟨t, ran, -, -⟩ :=
        Carrier.finish_run (some (captured i)) saved span fate w' c.world
      exact .inr ⟨_, _, .stop phase move ran, advance_seen_self⟩
  | ended fate => exact .inl ⟨fate, rfl⟩

end Schedule

namespace Alone

variable {bodies : Bodies σ α} {captured : Xid} {slots : Nat → Bool} {place : σ} {m n : Nat}

/-- A step shows a task at most one thing more. -/
theorem seen_next (a : Alone σ α) : a.seen <+: (a.next bodies captured slots).seen := by
  obtain ⟨place | ⟨hasSlot, bound, place⟩ | fate, turns, seen⟩ := a
  · exact List.prefix_append ..
  · cases move : bodies place <;> simp only [next, move] <;> exact List.prefix_append ..
  · exact List.prefix_rfl

/-- A task alone sees more and more. -/
theorem seen_prefix (h : m ≤ n) :
    (after bodies captured slots place m).seen <+: (after bodies captured slots place n).seen := by
  induction h with
  | refl => exact List.prefix_rfl
  | step h ih => exact ih.trans (seen_next _)

theorem next_of_ended {a : Alone σ α} {fate : Fate (Progress α)} (ended : a.task = .ended fate) :
    a.next bodies captured slots = a := by
  obtain ⟨task, turns, seen⟩ := a
  obtain rfl : task = _ := ended
  rfl

/-- A task that has ended does nothing more. -/
theorem after_of_ended {fate : Fate (Progress α)} (h : m ≤ n)
    (ended : (after bodies captured slots place m).task = .ended fate) :
    after bodies captured slots place n = after bodies captured slots place m := by
  induction h with
  | refl => rfl
  | step h ih =>
    rw [after, ih]
    exact next_of_ended ended

/-- What each turn starts with: what was captured, or nothing on a worker without a slot. -/
theorem starts_next {a : Alone σ α}
    (h : a.seen.filterMap Seen.starts? =
      (List.range a.turns).map fun k => Solo.kept (slots k) (some captured)) :
    (a.next bodies captured slots).seen.filterMap Seen.starts? =
      (List.range (a.next bodies captured slots).turns).map fun k =>
        Solo.kept (slots k) (some captured) := by
  obtain ⟨place | ⟨hasSlot, bound, place⟩ | fate, turns, seen⟩ := a
  · simp only [next, List.filterMap_append, h, List.range_succ, List.map_append]
    rfl
  · cases move : bodies place <;>
      simpa only [next, move, List.filterMap_append, List.filterMap_cons, Seen.starts?,
        List.filterMap_nil, List.append_nil] using h
  · exact h

theorem starts_after (bodies : Bodies σ α) (captured : Xid) (slots : Nat → Bool) (place : σ)
    (n : Nat) :
    (after bodies captured slots place n).seen.filterMap Seen.starts? =
      (List.range (after bodies captured slots place n).turns).map fun k =>
        Solo.kept (slots k) (some captured) := by
  induction n with
  | zero => rfl
  | succ n ih => exact starts_next ih

end Alone

namespace Schedule

variable {bodies : Bodies σ α} {captured : ι → Xid} {place : ι → σ}
  {c d c₁ d₁ c₂ d₂ : Schedule ρ ι σ α} [DecidableEq ι]

/-- Which of some turns are on workers that have a slot, and that all later ones are. -/
def slotsOf (turns : List Worker) (k : Nat) : Bool :=
  match turns[k]? with
  | some w => w.hasSlot
  | none => true

/-- These turns are told by those of a longer schedule that are alike. -/
theorem tells_slotsOf {turns more : List Worker}
    (alike : turns.map Worker.hasSlot <+: more.map Worker.hasSlot) :
    Tells (slotsOf more) turns := by
  intro k w found
  obtain ⟨bound, rfl⟩ := List.getElem?_eq_some_iff.1 found
  have same := List.prefix_iff_getElem?.1 alike k (by rwa [List.length_map])
  rw [List.getElem?_map, List.getElem_map] at same
  obtain ⟨v, found', same⟩ := Option.map_eq_some_iff.1 same
  rw [slotsOf, found']
  exact same

/-- Every turn that a task was given has started, with what the task captured where there is a
slot. -/
theorem Runs.starts (ready : c.Ready captured place) (runs : Runs bodies c d) (i : ι) :
    (d.seen i).filterMap Seen.starts? =
      (d.turns i).map fun w => if w.hasSlot then some (captured i) else none := by
  have tells : Tells (slotsOf (d.turns i)) (d.turns i) := tells_slotsOf List.prefix_rfl
  obtain ⟨n, hn⟩ := (runs.follows ready).2 i _ tells
  have starts := Alone.starts_after bodies (captured i) (slotsOf (d.turns i)) (place i) n
  rw [← hn] at starts
  refine starts.trans (List.ext_getElem (by simp [view]) fun k _ h => ?_)
  have inside : k < (d.turns i).length := by simpa using h
  have here : slotsOf (d.turns i) k = (d.turns i)[k].hasSlot :=
    tells k _ (List.getElem?_eq_getElem inside)
  simp only [List.getElem_map, List.getElem_range, here]
  rfl

/-- Two schedules of the same tasks, with any workers, in any order and among any other code, whose
turns of a task are alike on workers that have a slot or not, show the task the same: one run has
shown it a beginning of what the other has, and if it ended in both it has seen the same and ended
the same way. Each of its turns starts, with what it captured if there is a slot, and the task can
always go on until it has ended. -/
theorem schedule_independent (ready₁ : c₁.Ready captured place) (runs₁ : Runs bodies c₁ d₁)
    (ready₂ : c₂.Ready captured place) (runs₂ : Runs bodies c₂ d₂) (i : ι)
    (alike : (d₁.turns i).map Worker.hasSlot <+: (d₂.turns i).map Worker.hasSlot ∨
      (d₂.turns i).map Worker.hasSlot <+: (d₁.turns i).map Worker.hasSlot) :
    (d₁.seen i <+: d₂.seen i ∨ d₂.seen i <+: d₁.seen i) ∧
    (∀ fate₁ fate₂, d₁.phase i = .ended fate₁ → d₂.phase i = .ended fate₂ →
      fate₁ = fate₂ ∧ d₁.seen i = d₂.seen i) ∧
    (d₁.seen i).filterMap Seen.starts? =
      (d₁.turns i).map (fun w => if w.hasSlot then some (captured i) else none) ∧
    (∀ w, d₁.Free w → (∃ fate, d₁.phase i = .ended fate) ∨
      ∃ e saw, Step bodies d₁ e ∧ e.seen i = d₁.seen i ++ [saw]) := by
  -- the longer of the two schedules tells for both which turns have a slot
  obtain ⟨slots, tells₁, tells₂⟩ :
      ∃ slots, Tells slots (d₁.turns i) ∧ Tells slots (d₂.turns i) := by
    rcases alike with h | h
    · exact ⟨_, tells_slotsOf h, tells_slotsOf List.prefix_rfl⟩
    · exact ⟨_, tells_slotsOf List.prefix_rfl, tells_slotsOf h⟩
  obtain ⟨n₁, h₁⟩ := (runs₁.follows ready₁).2 i slots tells₁
  obtain ⟨n₂, h₂⟩ := (runs₂.follows ready₂).2 i slots tells₂
  have seen₁ : d₁.seen i = (Alone.after bodies (captured i) slots (place i) n₁).seen :=
    congrArg Alone.seen h₁
  have seen₂ : d₂.seen i = (Alone.after bodies (captured i) slots (place i) n₂).seen :=
    congrArg Alone.seen h₂
  refine ⟨?_, fun fate₁ fate₂ ended₁ ended₂ => ?_, runs₁.starts ready₁ i,
    fun w free => (runs₁.follows ready₁).1.goes_on bodies free i⟩
  · rw [seen₁, seen₂]
    rcases Nat.le_total n₁ n₂ with h | h
    · exact .inl (Alone.seen_prefix h)
    · exact .inr (Alone.seen_prefix h)
  · have last₁ : (Alone.after bodies (captured i) slots (place i) n₁).task = .ended fate₁ := by
      rw [← h₁, view, ended₁]
      rfl
    have last₂ : (Alone.after bodies (captured i) slots (place i) n₂).task = .ended fate₂ := by
      rw [← h₂, view, ended₂]
      rfl
    have same : Alone.after bodies (captured i) slots (place i) n₁ =
        Alone.after bodies (captured i) slots (place i) n₂ := by
      rcases Nat.le_total n₁ n₂ with h | h
      · exact (Alone.after_of_ended h last₁).symm
      · exact Alone.after_of_ended h last₂
    constructor
    · rw [same, last₂] at last₁
      cases last₁
      rfl
    · rw [seen₁, seen₂, same]

/-- A task polled on one worker, and on another one after other code bound something there. -/
theorem schedule_independent_of_worker :
    let bodies : Bodies Bool Unit := fun
      | true => .perform .unbind fun _ => false
      | false => .stop false (.returned (.ready (.ok ())))
    let c : Schedule Unit Unit Bool Unit :=
      ⟨{ rest := () }, fun _ => .idle ⟨.carrying (some Manager.firstXid), none⟩ true, fun _ => [],
        fun _ => []⟩
    ∃ d₁ d₂, Runs bodies c d₁ ∧ Runs bodies c d₂ ∧ d₁.world.bound (.named "a") = none ∧
      d₂.world.bound (.named "a") = some Manager.firstXid ∧ d₁.seen () = d₂.seen () := by
  intro bodies c
  have free : ∀ w, c.Free w := fun _ _ _ _ h => nomatch h
  have start₁ : Runs bodies c _ :=
    (Runs.refl c).step (.start (i := ()) rfl (free .main) rfl)
  have perform₁ := start₁.step (.perform (i := ()) rfl rfl rfl)
  have stop₁ := perform₁.step (.stop (i := ()) rfl rfl rfl)
  have other₂ : Runs bodies c _ := (Runs.refl c).step
    (.other (free (.named "a")) (.slot (.restore (some Manager.firstXid))) rfl)
  have start₂ := other₂.step
    (.start (i := ()) rfl (w := .named "a") (fun _ _ _ h => nomatch h) rfl)
  have perform₂ := start₂.step (.perform (i := ()) rfl rfl rfl)
  have stop₂ := perform₂.step (.stop (i := ()) rfl rfl rfl)
  have ready : c.Ready (fun _ => Manager.firstXid) fun _ => true :=
    ⟨fun _ => ⟨none, rfl⟩, fun _ => rfl, fun _ => rfl⟩
  exact ⟨_, _, stop₁, stop₂, rfl, rfl,
    ((schedule_independent ready stop₁ ready stop₂ () (.inl List.prefix_rfl)).2.1 _ _ rfl rfl).2⟩

/-- A worker that read its slot has lost it when it ends. A task that has its turn there sees
nothing bound, although it captured something and sees that elsewhere. -/
theorem schedule_dependent_of_ending :
    let x := Manager.firstXid
    let bodies : Bodies Bool Unit := fun
      | true => .perform .current fun _ => false
      | false => .stop false (.returned (.ready (.ok ())))
    let c : Schedule Unit Unit Bool Unit :=
      ⟨{ rest := () }, fun _ => .idle ⟨.carrying (some x), none⟩ true, fun _ => [], fun _ => []⟩
    let done := Fate.returned (Progress.ready (.ok ()))
    ∃ d₁ d₂, c.Ready (fun _ => x) (fun _ => true) ∧ Runs bodies c d₁ ∧ Runs bodies c d₂ ∧
      d₁.turns () = [.main] ∧
      d₁.seen () = [.started (some x), .replied (.xid (some x)) (some x), .stopped done] ∧
      d₂.turns () = [.ending 0 true] ∧
      d₂.seen () = [.started none, .replied (.xid none) none, .stopped done] := by
  intro x bodies c done
  have free : ∀ w, c.Free w := fun _ _ _ _ h => nomatch h
  have start₁ : Runs bodies c _ :=
    (Runs.refl c).step (.start (i := ()) rfl (free .main) rfl)
  have perform₁ := start₁.step (.perform (i := ()) rfl rfl rfl)
  have stop₁ := perform₁.step (.stop (i := ()) rfl rfl rfl)
  have other₂ : Runs bodies c _ := (Runs.refl c).step
    (.other (free (.fresh 0)) (.slot .current) rfl)
  have start₂ := other₂.step
    (.start (i := ()) rfl (w := .ending 0 true) (fun _ _ _ h => nomatch h) rfl)
  have perform₂ := start₂.step (.perform (i := ()) rfl rfl rfl)
  have stop₂ := perform₂.step (.stop (i := ()) rfl rfl rfl)
  exact ⟨_, _, ⟨fun _ => ⟨none, rfl⟩, fun _ => rfl, fun _ => rfl⟩, stop₁, stop₂, rfl, rfl, rfl,
    rfl⟩

/-! ## Polls -/

/-- A turn of a body, of at most `n` operations. -/
def turn (bodies : Bodies σ α) : Nat → σ → Action ρ (σ × Fate (Progress α))
  | 0, _ => Action.halt .exhausted
  | n + 1, place =>
    match bodies place with
    | .perform op next => do turn bodies n (next (← op.toSlotOp.perform))
    | .stop next fate => return (next, fate)

variable {bodies : Bodies σ α} {c : Schedule ρ ι σ α} {i : ι} {carrier : Carrier} {place : σ}
  {n : Nat}

theorem Runs.trans {c d e : Schedule ρ ι σ α} (runs : Runs bodies c d) (runs' : Runs bodies d e) :
    Runs bodies c e := by
  induction runs' with
  | refl => exact runs
  | step _ step ih => exact ih.step step

/-- A turn on the worker that runs a task is a run that leads to the end of the turn. -/
theorem runs_of_turn {place' : σ} {fate : Fate (Progress α)} {s : World ρ}
    (running : c.phase i = .running w carrier place)
    (ran : turn bodies n place w c.world = .ok ⟨.returned (place', fate), s⟩) :
    ∃ d place, Runs bodies c d ∧ d.world = s ∧ d.phase i = .running w carrier place ∧
      bodies place = .stop place' fate := by
  induction n generalizing c place with
  | zero => cases ran
  | succ n ih =>
    rw [turn] at ran
    cases move : bodies place with
    | perform op next =>
      rw [move] at ran
      rcases bind_eq_ok.1 ran with ⟨reply, t, hop, hturn⟩ | ⟨p, t, -, h⟩
      · obtain ⟨d, place, runs, rest⟩ := ih
          (c := c.advance t i [] (.running w carrier (next reply)) (.replied reply (t.bound w)))
          advance_phase_self hturn
        exact ⟨d, place, ((Runs.refl c).step (.perform running move hop)).trans runs, rest⟩
      · cases h
    | stop next fate =>
      rw [move] at ran
      cases ran
      exact ⟨c, place, .refl c, rfl, running, move⟩

/-- A poll of a carried future whose body is such a machine is a run of the schedule. -/
theorem runs_of_poll {task : Task σ} {fate : Fate (Progress α)} {s : World ρ}
    (idle : c.phase i = .idle carrier place) (free : c.Free w)
    (ran : (Task.carried carrier (.plain place)).poll (turn bodies n) w c.world =
      .ok ⟨.returned (task, fate), s⟩) :
    ∃ d carrier' place', Runs bodies c d ∧ d.world = s ∧
      task = .carried carrier' (.plain place') ∧ d.phase i = afterTurn carrier' place' fate := by
  obtain ⟨⟨active, turned⟩, t, hrun, -⟩ := Carrier.resume_calm carrier w c.world
  simp only [Task.poll, Hook.around, bind_assoc] at ran
  rw [bind_of_returned hrun] at ran
  obtain ⟨⟩ | p := turned
  · simp only [bind_assoc, pure_bind] at ran
    rcases bind_eq_ok.1 ran with ⟨⟨place', fate'⟩, t', hturn, hfinish⟩ | ⟨p, t', -, h⟩
    · rcases bind_eq_ok.1 hfinish with ⟨⟨carrier', fate''⟩, t'', hclosed, hret⟩ | ⟨p, t'', -, h⟩
      · cases hret
        obtain ⟨d, place, runs, rfl, running, move⟩ := runs_of_turn
          (c := c.advance t i [w] (.running w active place) (.started (t.bound w)))
          advance_phase_self hturn
        have started : Runs bodies c _ := (Runs.refl c).step (.start idle free hrun)
        exact ⟨_, carrier', place', (started.trans runs).step (.stop running move hclosed), rfl,
          rfl, advance_phase_self⟩
      · cases h
    · cases h
  · cases ran
    exact ⟨_, active, place, (Runs.refl c).step (.refuse idle free hrun), rfl, rfl,
      advance_phase_self⟩

end Schedule
end AmbientTx
