import AmbientTx.Proofs.Ambient
import AmbientTx.System

/-! # What operations do

An operation on the slot is a function of the slot and the configuration (`SlotOp.apply`): it gives
the reply and the slot afterwards, and all else that happens are the events that it logs
(`SlotOp.logs`). No operation calls a manager or writes to the slot of another worker.
-/

namespace AmbientTx

variable {ρ α : Type} {w : Worker} {s t : World ρ}

open World AmbientTx.Action

namespace World

/-- Logs events of a worker, in order. -/
def logAll (s : World ρ) (w : Worker) (events : List Event) : World ρ :=
  { s with history := s.history ++ events.map fun e => ⟨w, .event e⟩ }

@[simp] theorem logAll_nil (s : World ρ) (w : Worker) : s.logAll w [] = s := by
  simp [logAll]

@[simp] theorem mapSlot_same (s : World ρ) (w : Worker) : (s.mapSlot w fun slot => slot) = s := by
  simp [mapSlot]

theorem logAll_record (s : World ρ) (w : Worker) (e : Event) (events : List Event) :
    (s.record w (.event e)).logAll w events = s.logAll w (e :: events) := by
  simp [logAll, record]

/-- A worker may log before or after it writes. -/
theorem mapSlot_record (s : World ρ) (w : Worker) (f : Slot → Slot) (h : Happening) :
    (s.record w h).mapSlot w f = (s.mapSlot w f).record w h := by
  unfold mapSlot
  split <;> rfl

theorem turned_logAll (w : Worker) (s : World ρ) {events : List Event}
    (told : ∀ e ∈ events, e.isStray = false) : Turned w s (s.logAll w events) := by
  induction events generalizing s with
  | nil =>
    rw [logAll_nil]
    exact turned_repeats.refl w s
  | cons e rest ih =>
    rw [← logAll_record]
    exact turned_repeats.trans (turned_event w s (told e List.mem_cons_self))
      (ih _ fun e mem => told e (List.mem_cons_of_mem _ mem))

end World

/-- An action always returns, and what it returns and leaves in its slot is a function of the
configuration and the slot. -/
def Ambient.Computes (x : Action ρ α) (f : ContextConfig → Slot → α × Slot) : Prop :=
  ∀ w s, ∃ t, x w s = .ok ⟨.returned (f s.config (s.slot w)).1, t⟩ ∧ Turned w s t ∧
    (w.hasSlot → t.slot w = (f s.config (s.slot w)).2)

/-- An action always returns what it reads, and all that it does is that it writes to its slot and
logs. What it writes does not depend on the configuration. -/
def Ambient.Does (x : Action ρ α) (reads : ContextConfig → Slot → α) (writes : Slot → Slot)
    (logs : Slot → List Event) : Prop :=
  ∀ w s, x w s =
    .ok ⟨.returned (reads s.config (s.slot w)), (s.mapSlot w writes).logAll w (logs (s.slot w))⟩

namespace Ambient

variable {β : Type} {x : Action ρ α} {f : ContextConfig → Slot → α × Slot}
  {reads reads' : ContextConfig → Slot → α} {writes writes' : Slot → Slot}
  {logs logs' : Slot → List Event}

theorem Computes.calm (h : Computes x f) : Calm Turned x := by
  intro w s
  obtain ⟨t, hrun, hturn, -⟩ := h w s
  exact ⟨_, t, hrun, hturn⟩

theorem Does.computes (h : Does x reads writes logs)
    (told : ∀ slot, ∀ e ∈ logs slot, e.isStray = false) :
    Computes x fun config slot => (reads config slot, writes slot) := by
  intro w s
  exact ⟨_, h w s, turned_repeats.trans (turned_mapSlot w s writes) (turned_logAll w _ (told _)),
    fun hasSlot => slot_mapSlot_self s hasSlot writes⟩

theorem Does.congr (h : Does x reads writes logs)
    (read : ∀ config slot, reads config slot = reads' config slot)
    (written : ∀ slot, writes slot = writes' slot) (logged : ∀ slot, logs slot = logs' slot) :
    Does x reads' writes' logs' := by
  obtain rfl : reads = reads' := funext fun config => funext (read config)
  obtain rfl : writes = writes' := funext written
  obtain rfl : logs = logs' := funext logged
  exact h

/-- Mapping what an action returns. -/
theorem Does.map (h : Does x reads writes logs) (g : α → β) :
    Does (x >>= fun a => Pure.pure (g a)) (fun config slot => g (reads config slot)) writes logs :=
  fun w s => bind_of_returned (h w s) fun a => (Pure.pure (g a) : Action ρ β)

/-- An action that only reads. -/
theorem Does.read
    (h : ∀ w s, x w s = .ok ⟨.returned (reads s.config (s.slot w)), s⟩) :
    Does x reads (fun slot => slot) fun _ => [] := by
  intro w s
  rw [h, mapSlot_same, logAll_nil]

theorem write_does (f : Slot → Slot) :
    Does (write f : Action ρ Unit) (fun _ _ => ()) f fun _ => [] := by
  intro w s
  rw [logAll_nil]
  rfl

/-- Logging before such an action. -/
theorem Does.after_log (h : Does x reads writes logs) (e : Event) :
    Does (do Action.log e; x) reads writes fun slot => e :: logs slot := by
  intro w s
  refine (h w (s.record w (.event e))).trans ?_
  rw [mapSlot_record, logAll_record]
  rfl

/-- Writing returns what it replaces. -/
theorem replace_does (read : Slot → α) (f : Slot → Slot) :
    Does (do
      let replaced ← slot
      write f
      return read replaced : Action ρ α) (fun _ => read) f fun _ => [] := by
  intro w s
  rw [logAll_nil]
  rfl

theorem bind_does (x : Xid) :
    Does (bind x : Action ρ (Option Xid)) (fun _ slot => slot.xid)
      (fun slot => { slot with xid := some x }) fun _ => [.bound x] :=
  (replace_does Slot.xid _).after_log (.bound x)

theorem unbind_does :
    Does (unbind : Action ρ (Option Xid)) (fun _ slot => slot.xid)
      (fun slot => { slot with xid := none }) fun slot => (slot.xid.map .unbound).toList := by
  intro w s
  rw [unbind, bind_of_returned (current_run w s), World.bound]
  simp only
  cases (s.slot w).xid with
  | none => exact congrArg (fun t => Except.ok (Ran.mk (.returned none) t)) (logAll_nil _ w).symm
  | some x => rfl

theorem bindText_does (text : String) :
    Does (bindText text : Action ρ (Option Xid)) (fun _ slot => slot.xid)
      (fun slot => { slot with xid := Xid.ofString? text }) fun slot =>
        match Xid.ofString? text with
        | some x => [.bound x]
        | none => .blankXid :: (slot.xid.map .unbound).toList := by
  unfold bindText
  cases Xid.ofString? text with
  | some x => exact bind_does x
  | none => exact unbind_does.after_log .blankXid

theorem restore_does (saved : Option Xid) :
    Does (restore saved : Action ρ Unit) (fun _ _ => ()) (fun slot => { slot with xid := saved })
      fun slot =>
        match saved with
        | some x => [.bound x]
        | none => (slot.xid.map .unbound).toList := by
  cases saved with
  | some x => exact (bind_does x).map fun _ => ()
  | none => exact unbind_does.map fun _ => ()

theorem bindMode_does (m : BranchMode) :
    Does (bindMode m : Action ρ (Option BranchMode)) (fun _ slot => slot.mode)
      (fun slot => { slot with mode := some m }) fun _ => [.modeBound m] :=
  (replace_does Slot.mode _).after_log (.modeBound m)

theorem unbindMode_does :
    Does (unbindMode : Action ρ (Option BranchMode)) (fun _ slot => slot.mode)
      (fun slot => { slot with mode := none }) fun slot => (slot.mode.map .modeUnbound).toList := by
  intro w s
  have read : (slot : Action ρ Slot) w s = .ok ⟨.returned (s.slot w), s⟩ := rfl
  rw [unbindMode, bind_of_returned read]
  simp only
  cases (s.slot w).mode with
  | none => exact congrArg (fun t => Except.ok (Ran.mk (.returned none) t)) (logAll_nil _ w).symm
  | some m => rfl

theorem unbind_computes :
    Computes (unbind : Action ρ (Option Xid)) fun _ slot =>
      (slot.xid, { slot with xid := none }) := by
  intro w s
  obtain ⟨t, hrun, hturn, hslot⟩ := unbind_run w s
  exact ⟨t, hrun, hturn, fun _ => hslot⟩

/-- The branch mode in force in a slot. -/
def modeInForce (config : ContextConfig) (slot : Slot) : Option BranchMode :=
  if slot.xid.isNone then none
  else some (slot.mode.getD (config.defaultMode.getD .automatic))

theorem mode_run (w : Worker) (s : World ρ) :
    mode w s = .ok ⟨.returned (modeInForce s.config (s.slot w)), s⟩ := by
  have read : (slot : Action ρ Slot) w s = .ok ⟨.returned (s.slot w), s⟩ := rfl
  rw [mode, bind_of_returned read, modeInForce]
  split <;> rfl

theorem runsIn_run (m : BranchMode) (w : Worker) (s : World ρ) :
    runsIn m w s = .ok ⟨.returned (decide (modeInForce s.config (s.slot w) = some m)), s⟩ :=
  bind_of_returned (mode_run w s) fun mode =>
    (Pure.pure (decide (mode = some m)) : Action ρ Bool)

end Ambient

namespace Script.SlotOp

/-- What an operation replies, and the slot that it leaves. -/
def apply (config : ContextConfig) (slot : Slot) : SlotOp → Reply × Slot
  | .bind text =>
    match Xid.ofString text with
    | .ok x => (.xid slot.xid, { slot with xid := some x })
    | .error e => (.refused (.model e), slot)
  | .bindText text => (.xid slot.xid, { slot with xid := Xid.ofString? text })
  | .unbind => (.xid slot.xid, { slot with xid := none })
  | .current => (.xid slot.xid, slot)
  | .isCurrent expected => (.flag (decide (slot.xid = expected)), slot)
  | .restore x => (.nothing, { slot with xid := x })
  | .inTransaction => (.flag slot.xid.isSome, slot)
  | .assertOutside =>
    match slot.xid with
    | some x => (.inside (.unexpectedTransaction x), slot)
    | none => (.done, slot)
  | .bindMode m => (.mode slot.mode, { slot with mode := some m })
  | .unbindMode => (.mode slot.mode, { slot with mode := none })
  | .mode =>
    (.modeInForce (Ambient.modeInForce config slot)
      (decide (Ambient.modeInForce config slot = some .tryConfirmCancel))
      (decide (Ambient.modeInForce config slot = some .saga)), slot)
  | .bindGlobalLock => (.nothing, { slot with globalLock := true })
  | .unbindGlobalLock => (.nothing, { slot with globalLock := false })
  | .requiresGlobalLock => (.flag slot.globalLock, slot)
  | .setTimeout t => (.nothing, { slot with timeout := t })
  | .timeout => (.timeout (slot.timeout.or config.defaultTimeout), slot)
  | .slot => (.slot slot, slot)
  | .clear => (.nothing, {})

/-- The slot that an operation leaves, whatever is configured. -/
def leaves (op : SlotOp) (slot : Slot) : Slot :=
  (op.apply {} slot).2

/-- What an operation logs. -/
def logs (op : SlotOp) (slot : Slot) : List Event :=
  match op with
  | .bind text => (Xid.ofString? text).toList.map .bound
  | .bindText text =>
    match Xid.ofString? text with
    | some x => [.bound x]
    | none => .blankXid :: (slot.xid.map .unbound).toList
  | .restore (some x) => [.bound x]
  | .unbind | .restore none => (slot.xid.map .unbound).toList
  | .bindMode m => [.modeBound m]
  | .unbindMode => (slot.mode.map .modeUnbound).toList
  | .bindGlobalLock => [.globalLockBound]
  | .current | .isCurrent _ | .inTransaction | .assertOutside | .mode | .unbindGlobalLock
  | .requiresGlobalLock | .setTimeout _ | .timeout | .slot | .clear => []

theorem apply_snd (op : SlotOp) (config : ContextConfig) (slot : Slot) :
    (op.apply config slot).2 = op.leaves slot := by
  cases op with
  | bind text | assertOutside => simp only [leaves, apply]
  | _ => rfl

open Ambient in
/-- An operation replies what `apply` says, writes what it leaves and logs. -/
theorem perform_does (op : SlotOp) :
    Does (op.perform : Action ρ Reply) (fun config slot => (op.apply config slot).1) op.leaves
      op.logs := by
  cases op with
  | bind text =>
    simp only [perform, Xid.ofString]
    cases found : Xid.ofString? text with
    | some x =>
      refine ((bind_does x).map Reply.xid).congr (fun _ _ => ?_) (fun _ => ?_) fun _ => ?_
      all_goals simp [apply, leaves, logs, Xid.ofString, found]
    | none =>
      have refused : Does (Pure.pure (.refused (.model .blankXid)) : Action ρ Reply)
          (fun _ _ => .refused (.model .blankXid)) (fun slot => slot) fun _ => [] :=
        Does.read fun _ _ => rfl
      refine refused.congr (fun _ _ => ?_) (fun _ => ?_) fun _ => ?_
      all_goals simp [apply, leaves, logs, Xid.ofString, found]
  | bindText text => exact (bindText_does text).map Reply.xid
  | unbind => exact unbind_does.map Reply.xid
  | restore saved =>
    cases saved with
    | some x => exact (restore_does (some x)).map fun _ => Reply.nothing
    | none => exact (restore_does none).map fun _ => Reply.nothing
  | assertOutside =>
    have reads (w : Worker) (s : World ρ) : (perform .assertOutside : Action ρ Reply) w s =
        .ok ⟨.returned (SlotOp.assertOutside.apply s.config (s.slot w)).1, s⟩ := by
      rw [perform, Ambient.assertOutside]
      simp only [apply, bind_assoc, bind_of_returned (current_run w s), World.bound]
      cases (s.slot w).xid <;> rfl
    refine (Does.read reads).congr (fun _ _ => rfl) (fun slot => ?_) fun _ => rfl
    simp only [leaves, apply]
    cases slot.xid <;> rfl
  | bindMode m => exact (bindMode_does m).map Reply.mode
  | unbindMode => exact unbindMode_does.map Reply.mode
  | mode =>
    refine Does.read fun w s => ?_
    rw [perform, bind_of_returned (mode_run w s), bind_of_returned (runsIn_run _ w s),
      bind_of_returned (runsIn_run _ w s)]
    rfl
  | bindGlobalLock =>
    exact ((write_does _).after_log .globalLockBound).map fun _ => Reply.nothing
  | unbindGlobalLock =>
    exact (write_does fun slot => { slot with globalLock := false }).map fun _ => Reply.nothing
  | setTimeout t =>
    exact (write_does fun slot => { slot with timeout := t }).map fun _ => Reply.nothing
  | timeout =>
    refine Does.read fun w s => ?_
    rw [perform, bind_of_returned (timeout_run w s)]
    rfl
  | clear => exact (write_does fun _ => {}).map fun _ => Reply.nothing
  | current | isCurrent expected | inTransaction | requiresGlobalLock | slot =>
    exact Does.read fun _ _ => rfl

/-- None of it is about a guard. -/
theorem logs_not_stray (op : SlotOp) (slot : Slot) : ∀ e ∈ op.logs slot, e.isStray = false := by
  have mapped {β : Type} (found : Option β) {f : β → Event} (h : ∀ b, (f b).isStray = false) :
      ∀ e ∈ (found.map f).toList, e.isStray = false := by
    cases found <;> simp [h]
  have unbound := mapped slot.xid (f := .unbound) fun _ => rfl
  cases op with
  | bind text =>
    have bound := mapped (Xid.ofString? text) (f := .bound) fun _ => rfl
    rwa [Option.toList_map] at bound
  | bindText text =>
    simp only [logs]
    split
    · simp [Event.isStray]
    · exact List.forall_mem_cons.2 ⟨rfl, unbound⟩
  | restore saved =>
    cases saved with
    | some x => simp [logs, Event.isStray]
    | none => exact unbound
  | unbind => exact unbound
  | unbindMode => exact mapped slot.mode fun _ => rfl
  | _ => simp [logs, Event.isStray]

/-- An operation does to its slot what `apply` says. -/
theorem perform_computes (op : SlotOp) :
    Ambient.Computes (op.perform : Action ρ Reply) fun config slot => op.apply config slot := by
  intro w s
  obtain ⟨t, hrun, hturn, hslot⟩ := op.perform_does.computes op.logs_not_stray w s
  exact ⟨t, hrun, hturn, fun h => (hslot h).trans (op.apply_snd s.config (s.slot w)).symm⟩

end Script.SlotOp

/-! ## All operations -/

namespace World

/-- No other worker's slot changed, and no manager was called. -/
structure Local (w : Worker) (s t : World ρ) : Prop where
  slot : ∀ v, v ≠ w → t.slot v = s.slot v
  calls : t.calls = s.calls

theorem local_repeats : Repeats (Local (ρ := ρ)) where
  refl _ _ := ⟨fun _ _ => rfl, rfl⟩
  trans h k := ⟨fun v hv => (k.slot v hv).trans (h.slot v hv), k.calls.trans h.calls⟩

theorem Turned.toLocal (h : Turned w s t) : Local w s t :=
  ⟨h.slot, h.calls⟩

end World

theorem log_local (e : Event) : Calm Local (Action.log e : Action ρ Unit) :=
  Calm.modify fun w s => ⟨fun _ _ => rfl, (calls_record s w (.event e)).trans (List.append_nil _)⟩

/-- A guard that finds its scope inactive only tells. -/
theorem Scope.release_calm (scope : Scope) : Calm Local (scope.release : Action ρ Scope) := by
  refine Calm.bind local_repeats ((Scope.deactivate_calm scope).mono Turned.toLocal)
    fun outcome => ?_
  cases outcome with
  | ok scope => exact Calm.pure local_repeats scope
  | error e => exact Calm.bind local_repeats (log_local _) fun _ => Calm.pure local_repeats scope

/-- An effect that operations on what all workers share have. -/
structure World.Shares (R : Effect ρ) : Prop where
  repeats : Repeats R
  /-- An event that is not about a binding. -/
  event : ∀ w s e, e.rebinds? = none → R w s (s.record w (.event e))
  config : ∀ w s c, R w s { s with config := c }
  installed : ∀ w s m, R w s { s with installed := m }

namespace World.Shares

variable {R : Effect ρ}

theorem log (h : Shares R) {e : Event} (quiet : e.rebinds? = none) :
    Calm R (Action.log e : Action ρ Unit) :=
  Calm.modify fun w s => h.event w s e quiet

theorem install (h : Shares R) (c : ContextConfig) :
    Calm R (Ambient.install c : Action ρ (Except ContextError ContextConfig)) := by
  unfold Ambient.install
  cases c.validate with
  | error e => exact Calm.pure h.repeats _
  | ok _ =>
    have read := Calm.read h.repeats (fun _ s => s.config) (x := Ambient.config) fun _ _ => rfl
    have written := Calm.modify (g := fun _ s => { s with config := c }) fun w s => h.config w s c
    exact Calm.bind h.repeats (h.log rfl) fun _ => Calm.bind h.repeats read fun _ =>
      Calm.bind h.repeats written fun _ => Calm.pure h.repeats _

theorem readInstalled (h : Shares R) :
    Calm R (Manager.installed : Action ρ (Option ManagerName)) :=
  Calm.read h.repeats (fun _ s => s.installed) fun _ _ => rfl

theorem writeInstalled (h : Shares R) (m : Option ManagerName) :
    Calm R (Action.modify fun _ s => { s with installed := m } : Action ρ Unit) :=
  Calm.modify fun w s => h.installed w s m

theorem perform (h : Shares R) (op : Script.SharedOp) :
    Calm R (op.perform : Action ρ Script.Reply) := by
  cases op with
  | install source =>
    simp only [Script.SharedOp.perform]
    cases source.read with
    | error e => exact Calm.pure h.repeats _
    | ok c =>
      refine Calm.bind h.repeats (h.install c) fun outcome => ?_
      cases outcome <;> exact Calm.pure h.repeats _
  | installManager m =>
    exact Calm.bind h.repeats (Calm.bind h.repeats (h.log rfl) fun _ =>
      Calm.bind h.repeats h.readInstalled fun _ =>
        Calm.bind h.repeats (h.writeInstalled (some m)) fun _ => Calm.pure h.repeats _)
      fun _ => Calm.pure h.repeats _
  | uninstallManager =>
    exact Calm.bind h.repeats (Calm.bind h.repeats h.readInstalled fun _ =>
      Calm.bind h.repeats (h.writeInstalled none) fun _ => Calm.pure h.repeats _)
      fun _ => Calm.pure h.repeats _
  | manager =>
    refine Calm.bind h.repeats h.readInstalled fun found => ?_
    cases found <;> exact Calm.pure h.repeats _
  | config | hasManager | role => exact Calm.read h.repeats _ fun _ _ => rfl

end World.Shares

theorem World.local_shares : Shares (Local (ρ := ρ)) where
  repeats := local_repeats
  event _ s e _ := ⟨fun _ _ => rfl, (calls_record s _ (.event e)).trans (List.append_nil _)⟩
  config _ _ _ := ⟨fun _ _ => rfl, rfl⟩
  installed _ _ _ := ⟨fun _ _ => rfl, rfl⟩

/-- Operations always return; they write to no slot but that of their worker, and call no
manager. -/
theorem Operation.perform_calm (op : Operation) : Calm Local (op.perform : Action ρ Unit) := by
  have done {β : Type} {x : Action ρ β} (h : Calm Turned x) :
      Calm Local (do let _ ← x : Action ρ Unit) :=
    Calm.bind local_repeats (h.mono Turned.toLocal) fun _ => Calm.pure local_repeats ()
  cases op with
  | slot op => exact done op.perform_computes.calm
  | shared op =>
    exact Calm.bind local_repeats (local_shares.perform op) fun _ => Calm.pure local_repeats ()
  | activate scope => exact done (Scope.activate_calm scope)
  | deactivate scope => exact done (Scope.deactivate_calm scope)
  | resume scope => exact done (Scope.resume_calm scope)
  | suspend scope => exact done (Scope.suspend_calm scope)

end AmbientTx
