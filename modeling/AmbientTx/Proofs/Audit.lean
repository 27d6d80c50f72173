import AmbientTx.Proofs.Effect
import AmbientTx.Proofs.Operation

/-! # The log tells what is bound

Every change of a binding is an event: one that binds a transaction, or one that unbinds it. So
whoever replays these events of a worker, from what was bound at first, knows what is bound there at
any point of any run. There is one exception, `Ambient.clear`, which empties a slot and tells
nobody: a run keeps in step with its log for exactly as long as it erases no binding in this way.
Workers that end are left out, for what they bind is told and then dropped with their slot.
-/

namespace AmbientTx

variable {ρ κ : Type} {v w : Worker} {s t : World ρ}

open World AmbientTx.Action

/-! ## Replaying the log -/

/-- What a record says is bound on a worker from now on, if it says so. -/
def Record.rebinds? (v : Worker) (r : Record) : Option (Option Xid) :=
  if r.worker = v then
    match r.happening with
    | .event e => e.rebinds?
    | .span _ _ | .call _ => none
  else none

/-- What is bound on a worker after these records, according to them. -/
def replay (v : Worker) (bound : Option Xid) (records : List Record) : Option Xid :=
  records.foldl (fun bound r => (r.rebinds? v).getD bound) bound

theorem replay_append (v : Worker) (bound : Option Xid) (rs qs : List Record) :
    replay v bound (rs ++ qs) = replay v (replay v bound rs) qs :=
  List.foldl_append

/-- The records of other workers say nothing. -/
theorem replay_elsewhere (hv : v ≠ w) (bound : Option Xid) (h : Happening) :
    replay v bound [⟨w, h⟩] = bound := by
  simp [replay, Record.rebinds?, Ne.symm hv]

theorem replay_event (v : Worker) (bound : Option Xid) (e : Event) :
    replay v bound [⟨v, .event e⟩] = e.rebinds?.getD bound := by
  simp [replay, Record.rebinds?]

theorem replay_quiet {h : Happening} (quiet : ∀ e, h = .event e → e.rebinds? = none)
    (bound : Option Xid) : replay v bound [⟨w, h⟩] = bound := by
  by_cases hv : v = w
  · subst hv
    cases h with
    | event e => rw [replay_event, quiet e rfl, Option.getD_none]
    | span phase span | call c => simp [replay, Record.rebinds?]
  · exact replay_elsewhere hv bound h

namespace World

/-- What was recorded tells what is bound on `v`. -/
def Told (v : Worker) : Effect ρ := fun _ s t =>
  ∃ new, t.history = s.history ++ new ∧ t.bound v = replay v (s.bound v) new

theorem told_repeats (v : Worker) : Repeats (Told (ρ := ρ) v) where
  refl _ s := ⟨[], (List.append_nil _).symm, rfl⟩
  trans := by
    rintro w s t u ⟨new, hist, bound⟩ ⟨new', hist', bound'⟩
    refine ⟨new ++ new', ?_, ?_⟩
    · rw [hist', hist, List.append_assoc]
    · rw [bound', bound, replay_append]

/-- Nothing was recorded, and nothing was bound or unbound on `v`. -/
theorem told_of_same (hist : t.history = s.history) (bound : t.bound v = s.bound v) :
    Told v w s t :=
  ⟨[], hist.trans (List.append_nil _).symm, bound⟩

theorem told_record (s : World ρ) {h : Happening}
    (quiet : ∀ e, h = .event e → e.rebinds? = none) : Told v w s (s.record w h) :=
  ⟨[⟨w, h⟩], rfl, (replay_quiet quiet _).symm⟩

/-- Nobody reads what another worker writes. -/
theorem bound_mapSlot_of_ne (hv : v ≠ w) (s : World ρ) (f : Slot → Slot) :
    (s.mapSlot w f).bound v = s.bound v :=
  congrArg Slot.xid (slot_mapSlot_of_ne s hv f)

end World

/-! ## What tells -/

namespace Ambient

/-- Writing to the other entries of a slot. -/
theorem write_told {f : Slot → Slot} (same : ∀ slot, (f slot).xid = slot.xid) :
    Keeps (Told v) (write f : Action ρ Unit) := by
  refine (Calm.modify fun w s => ?_).keeps
  refine told_of_same (history_mapSlot s w f) ?_
  by_cases hv : v = w
  · subst hv
    by_cases hasSlot : v.hasSlot
    · rw [World.bound, slot_mapSlot_self s hasSlot, same, World.bound]
    · rw [bound_of_not_hasSlot hasSlot, bound_of_not_hasSlot hasSlot]
  · exact bound_mapSlot_of_ne hv s f

/-- The event comes first, and then the slot is written. -/
theorem bind_told (hasSlot : v.hasSlot) (x : Xid) :
    Keeps (Told v) (bind x : Action ρ (Option Xid)) := by
  intro w s r ran
  obtain rfl := Except.ok.inj ran.symm
  refine ⟨[⟨w, .event (.bound x)⟩], history_mapSlot _ w _, ?_⟩
  by_cases hv : v = w
  · subst hv
    rw [replay_event]
    exact congrArg Slot.xid (slot_mapSlot_self _ hasSlot _)
  · rw [replay_elsewhere hv]
    exact bound_mapSlot_of_ne hv _ _

/-- There is an event only if something was bound. -/
theorem unbind_told : Keeps (Told v) (unbind : Action ρ (Option Xid)) := by
  intro w s r ran
  have elsewhere : v ≠ w → r.world.bound v = s.bound v := by
    intro hv
    obtain ⟨t, hrun, hturn, -⟩ := unbind_run w s
    obtain rfl := Except.ok.inj (hrun.symm.trans ran)
    rw [World.bound, hturn.slot v hv, World.bound]
  have here : r.world.bound w = none := by
    obtain ⟨t, hrun, -, hslot⟩ := unbind_run w s
    obtain rfl := Except.ok.inj (hrun.symm.trans ran)
    exact congrArg Slot.xid hslot
  rw [unbind, bind_of_returned (current_run w s)] at ran
  cases bound : s.bound w with
  | none =>
    rw [bound] at ran
    obtain rfl := Except.ok.inj ran.symm
    refine told_of_same (history_mapSlot s w _) ?_
    by_cases hv : v = w
    · subst hv
      rw [here, bound]
    · exact elsewhere hv
  | some x =>
    rw [bound] at ran
    obtain rfl := Except.ok.inj ran.symm
    refine ⟨[⟨w, .event (.unbound x)⟩], congrArg (· ++ _) (history_mapSlot s w _), ?_⟩
    by_cases hv : v = w
    · subst hv
      rw [replay_event]
      exact here
    · rw [replay_elsewhere hv]
      exact elsewhere hv

end Ambient

/-- Calls to a manager say nothing about bindings. -/
theorem Manager.told_of_called {α : Type} {x : Action ρ α}
    (called : ∀ w s, ∃ fate m answers c,
      x w s = .ok ⟨fate, (s.setManager m answers).record w (.call c)⟩) : Keeps (Told v) x := by
  intro w s r ran
  obtain ⟨fate, m, answers, c, hrun⟩ := called w s
  obtain rfl := Except.ok.inj (hrun.symm.trans ran)
  exact told_record (s.setManager m answers) fun _ h => nomatch h

/-- Everything that the library does is told. -/
theorem World.told_pervades (hasSlot : v.hasSlot) : Pervades (Told (ρ := ρ) v) where
  repeats := told_repeats v
  event _ s _ quiet := told_record s fun _ h => Happening.event.inj h ▸ quiet
  span _ s phase span _ := told_record (h := .span phase span) s fun _ h => nomatch h
  bind := Ambient.bind_told hasSlot
  unbind := Ambient.unbind_told
  launch _ _ _ _ _ _ ran :=
    Manager.told_of_called (fun w _ => ⟨_, _, _, _, Manager.settle_run _ w _⟩) ran
  commit _ _ := Manager.told_of_called fun w _ => ⟨_, _, _, _, Manager.settle_run _ w _⟩
  rollback _ _ := Manager.told_of_called fun w _ => ⟨_, _, _, _, Manager.settle_run _ w _⟩

/-! ## Operations of clients -/

/-- So is what operations do to what all workers share. -/
theorem World.told_shares : Shares (Told (ρ := ρ) v) where
  repeats := told_repeats v
  event _ s _ quiet := told_record s fun _ h => Happening.event.inj h ▸ quiet
  config _ _ _ := told_of_same rfl rfl
  installed _ _ _ := told_of_same rfl rfl

namespace Ambient

theorem bindText_told (hasSlot : v.hasSlot) (text : String) :
    Keeps (Told v) (bindText text : Action ρ (Option Xid)) := by
  have h := told_pervades (ρ := ρ) hasSlot
  unfold bindText
  cases Xid.ofString? text with
  | some x => exact h.bind x
  | none => exact Keeps.bind h.repeats (h.log rfl) fun _ => h.unbind

theorem slot_told : Keeps (Told v) (slot : Action ρ Slot) :=
  (Calm.read (told_repeats v) (fun w s => s.slot w) fun _ _ => rfl).keeps

theorem bindMode_told (hasSlot : v.hasSlot) (m : BranchMode) :
    Keeps (Told v) (bindMode m : Action ρ (Option BranchMode)) := by
  have h := told_pervades (ρ := ρ) hasSlot
  have written : Keeps (Told v) (write fun slot => { slot with mode := some m } : Action ρ Unit) :=
    write_told fun _ => rfl
  exact Keeps.bind h.repeats (h.log rfl) fun _ => Keeps.bind h.repeats slot_told fun _ =>
    Keeps.bind h.repeats written fun _ => Keeps.pure h.repeats _

theorem unbindMode_told (hasSlot : v.hasSlot) :
    Keeps (Told v) (unbindMode : Action ρ (Option BranchMode)) := by
  have h := told_pervades (ρ := ρ) hasSlot
  have written : Keeps (Told v) (write fun slot => { slot with mode := none } : Action ρ Unit) :=
    write_told fun _ => rfl
  refine Keeps.bind h.repeats slot_told fun found => Keeps.bind h.repeats written fun _ => ?_
  cases found.mode with
  | none => exact Keeps.pure h.repeats none
  | some m => exact Keeps.bind h.repeats (h.log rfl) fun _ => Keeps.pure h.repeats _

theorem bindGlobalLock_told (hasSlot : v.hasSlot) :
    Keeps (Told v) (bindGlobalLock : Action ρ Unit) := by
  have h := told_pervades (ρ := ρ) hasSlot
  exact Keeps.bind h.repeats (h.log rfl) fun _ => write_told fun _ => rfl

end Ambient

namespace Script

open Ambient

/-- Operations on the slot are told, unless they empty it. -/
theorem SlotOp.perform_told (hasSlot : v.hasSlot) {op : SlotOp} (keeps : op ≠ .clear) :
    Keeps (Told v) (op.perform : Action ρ Reply) := by
  have h := told_pervades (ρ := ρ) hasSlot
  have after {β : Type} {x : Action ρ β} (hx : Keeps (Told v) x) (g : β → Reply) :
      Keeps (Told v) (x >>= fun b => Pure.pure (g b)) :=
    Keeps.bind h.repeats hx fun _ => Keeps.pure h.repeats _
  cases op with
  | bind text =>
    simp only [perform]
    cases Xid.ofString text with
    | ok x => exact after (h.bind x) Reply.xid
    | error e => exact Keeps.pure h.repeats _
  | bindText text => exact after (bindText_told hasSlot text) Reply.xid
  | unbind => exact after h.unbind Reply.xid
  | restore saved => exact after (h.restore saved) fun _ => Reply.nothing
  | bindMode m => exact after (bindMode_told hasSlot m) Reply.mode
  | unbindMode => exact after (unbindMode_told hasSlot) Reply.mode
  | bindGlobalLock => exact after (bindGlobalLock_told hasSlot) fun _ => Reply.nothing
  | unbindGlobalLock =>
    exact after (write_told (f := fun slot => { slot with globalLock := false }) fun _ => rfl)
      fun _ => Reply.nothing
  | setTimeout t =>
    exact after (write_told (f := fun slot => { slot with timeout := t }) fun _ => rfl)
      fun _ => Reply.nothing
  | assertOutside =>
    refine Keeps.bind h.repeats (Keeps.bind h.repeats h.current fun found => ?_) fun outcome => ?_
    · cases found <;> exact Keeps.pure h.repeats _
    · cases outcome <;> exact Keeps.pure h.repeats _
  | mode =>
    have mode := (Calm.read h.repeats (ρ := ρ) _ mode_run).keeps
    have runsIn (m : BranchMode) := (Calm.read h.repeats (ρ := ρ) _ (runsIn_run m)).keeps
    exact Keeps.bind h.repeats mode fun _ => Keeps.bind h.repeats (runsIn _) fun _ =>
      Keeps.bind h.repeats (runsIn _) fun _ => Keeps.pure h.repeats _
  | timeout =>
    exact after (Calm.read h.repeats _ timeout_run).keeps Reply.timeout
  | current | isCurrent expected | inTransaction | requiresGlobalLock | slot =>
    exact (Calm.read h.repeats _ fun _ _ => rfl).keeps
  | clear => exact absurd rfl keeps

end Script

/-- Operations are told, unless they empty the slot. -/
theorem Operation.perform_told (hasSlot : v.hasSlot) {op : Operation}
    (keeps : op ≠ .slot .clear) : Keeps (Told v) (op.perform : Action ρ Unit) := by
  have h := told_pervades (ρ := ρ) hasSlot
  have done {β : Type} {x : Action ρ β} (hx : Keeps (Told v) x) :
      Keeps (Told v) (do let _ ← x : Action ρ Unit) :=
    Keeps.bind h.repeats hx fun _ => Keeps.pure h.repeats ()
  cases op with
  | slot op =>
    exact done (op.perform_told hasSlot fun clear => keeps (congrArg Operation.slot clear))
  | shared op => exact done (told_shares.perform op).keeps
  | activate scope => exact done (h.activate scope)
  | deactivate scope => exact done (h.deactivate scope)
  | resume scope => exact done (h.scopeResume scope)
  | suspend scope => exact done (h.scopeSuspend scope)

/-! ## Runs -/

namespace System

variable {c d : System ρ κ} {mark : Mark}

/-- A worker empties its slot while something is bound there. -/
def Erases (v : Worker) (c d : System ρ κ) : Prop :=
  c.world.bound v ≠ none ∧ ∃ r : Ran ρ Unit,
    (Operation.slot .clear).perform v c.world = .ok r ∧ d = { c with world := r.world }

/-- A step that erases nothing of `v` tells what is bound there. -/
theorem Step.told (hasSlot : v.hasSlot) (step : Step w mark c d) (keeps : ¬ Erases v c d) :
    Told v w c.world d.world := by
  have answers (w : Worker) (s : World ρ) (m : ManagerName) (a : Manager) :
      Told v w s (s.setManager m a) := told_of_same rfl rfl
  refine (told_pervades hasSlot).step step answers fun op r ran eq => ?_
  by_cases clears : op = .slot .clear
  · subst clears
    refine told_of_same ?_ ?_
    · obtain rfl := Except.ok.inj ran.symm
      exact history_mapSlot c.world w _
    · by_cases hv : v = w
      · subst hv
        have unbound : c.world.bound v = none :=
          Classical.byContradiction fun bound => keeps ⟨bound, r, ran, eq⟩
        obtain rfl := Except.ok.inj ran.symm
        rw [unbound]
        exact congrArg Slot.xid (slot_mapSlot_self c.world hasSlot _)
      · obtain rfl := Except.ok.inj ran.symm
        exact bound_mapSlot_of_ne hv c.world _
  · exact Operation.perform_told hasSlot clears ran

/-- Runs in which nobody erases what is bound on `v`. -/
inductive TellingRuns (v : Worker) : System ρ κ → System ρ κ → Prop where
  | refl (c : System ρ κ) : TellingRuns v c c
  | step {c d e : System ρ κ} {w : Worker} {mark : Mark} (runs : TellingRuns v c d)
      (step : Step w mark d e) (keeps : ¬ Erases v d e) : TellingRuns v c e

theorem TellingRuns.told (hasSlot : v.hasSlot) (runs : TellingRuns v c d) :
    Told v v c.world d.world := by
  induction runs with
  | refl => exact (told_repeats v).refl v _
  | step runs step keeps ih =>
    -- who made the step does not matter for what it told
    have next := step.told hasSlot keeps
    exact (told_repeats v).trans ih next

/-- Nothing is recorded when a binding is erased. -/
theorem Erases.history (erases : Erases v c d) : d.world.history = c.world.history := by
  obtain ⟨-, r, ran, rfl⟩ := erases
  obtain rfl := Except.ok.inj ran.symm
  exact history_mapSlot c.world v _

theorem Erases.bound (hasSlot : v.hasSlot) (erases : Erases v c d) : d.world.bound v = none := by
  obtain ⟨-, r, ran, rfl⟩ := erases
  obtain rfl := Except.ok.inj ran.symm
  exact congrArg Slot.xid (slot_mapSlot_self c.world hasSlot _)

/-- So what was recorded still tells of the binding that was erased. -/
theorem Erases.not_told (hasSlot : v.hasSlot) (erases : Erases v c d) :
    ¬ Told v v c.world d.world := by
  rintro ⟨new, hist, told⟩
  have same : c.world.history ++ new = c.world.history ++ [] := by
    rw [← hist, erases.history, List.append_nil]
  rw [List.append_cancel_left same, erases.bound hasSlot] at told
  exact erases.1 told.symm

/-- Replaying what a run recorded, from what was bound on a worker at first, gives what is bound
there in the end, for every run in which nobody erases a binding of that worker. A step that erases
one is out of step with every log. -/
theorem replay_eq_bound (hasSlot : v.hasSlot) :
    (∀ c d : System ρ κ, TellingRuns v c d →
      ∃ new, d.world.history = c.world.history ++ new ∧
        d.world.bound v = replay v (c.world.bound v) new) ∧
    (∀ c d : System ρ κ, Erases v c d →
      ∀ new, d.world.history = c.world.history ++ new →
        d.world.bound v ≠ replay v (c.world.bound v) new) := by
  constructor
  · intro c d runs
    exact runs.told hasSlot
  · intro c d erases new hist told
    exact erases.not_told hasSlot ⟨new, hist, told⟩

/-- A guard puts back what was bound, although its body unbound what it installed; the log tells
each of these changes. -/
theorem replay_eq_bound_of_guard :
    let start : System Unit Unit := { world := { rest := () } }
    let x := Manager.firstXid
    ∃ d, TellingRuns .main start d ∧ d.world.bound .main = some x ∧
      replay .main none d.world.history = some x ∧ d.world.history.length = 6 := by
  intro start x
  let scope : Scope := .carrying (some ⟨"tx-2", by decide⟩)
  have binds : TellingRuns .main start _ :=
    .step (.refl start) (.operate (w := .main) (.slot (.bind "tx-1")) rfl)
      fun erases => absurd erases.history (by decide)
  have enters := binds.step (@Step.enter _ _ .main _ scope _ _ rfl)
    fun erases => absurd erases.history (by decide)
  have unbinds := enters.step (.operate (w := .main) (.slot .unbind) rfl)
    fun erases => absurd erases.history (by decide)
  have releases := unbinds.step
    (.release (⟨rfl, fun _ mem => nomatch mem⟩ : Innermost _ .main _ [] []) rfl)
    fun erases => absurd erases.history (by decide)
  obtain ⟨new, hist, told⟩ := (replay_eq_bound rfl).1 start _ releases
  refine ⟨_, releases, rfl, ?_, rfl⟩
  rw [hist]
  exact told.symm

/-- A worker that binds a transaction and empties its slot has nothing bound, but to whoever
replays the log that transaction is bound still. -/
theorem exists_untold_run :
    let start : System Unit Unit := { world := { rest := () } }
    ∃ d, Runs start d ∧ d.world.bound .main = none ∧
      replay .main (start.world.bound .main) d.world.history = some Manager.firstXid := by
  intro start
  have binds : Runs start _ :=
    .step (.refl start) (.operate (w := .main) (.slot (.bind "tx-1")) rfl)
  have clears := binds.step (.operate (w := .main) (.slot .clear) rfl)
  exact ⟨_, clears, rfl, rfl⟩

end System
end AmbientTx
