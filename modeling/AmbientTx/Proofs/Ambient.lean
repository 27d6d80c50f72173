import AmbientTx.Proofs.Action
import AmbientTx.Task

/-! # What a worker does to its own slot

Everything that a worker does to its slot, directly or through a scope, is calm: it returns, only
the slot of that worker changes, and nothing but events and spans is recorded (`World.Turned`); the
event of a guard that finds its scope inactive is not among them. For the operations that move the
bound transaction, the theorems also say what the slot is afterwards.
-/

namespace AmbientTx

variable {ρ α : Type} {w : Worker} {s t : World ρ}

/-- Whether a guard tells that it found its scope inactive. -/
def Event.isStray : Event → Bool
  | .guardFoundInactive _ => true
  | _ => false

/-- What an event says is bound from now on, if it says so. -/
def Event.rebinds? : Event → Option (Option Xid)
  | .bound x => some (some x)
  | .unbound _ => some none
  | _ => none

namespace World

/-- What is bound on a worker. -/
def bound (s : World ρ) (w : Worker) : Option Xid :=
  (s.slot w).xid

/-- The records of guards that found their scope inactive. -/
def strays (s : World ρ) : List Record :=
  s.history.filter fun r =>
    match r.happening with
    | .event e => e.isStray
    | .span _ _ | .call _ => false

/-- Only the slot of `w` changed, and only events and spans were recorded, none of them about a
guard that found its scope inactive. -/
structure Turned (w : Worker) (s t : World ρ) : Prop where
  slot : ∀ v, v ≠ w → t.slot v = s.slot v
  config : t.config = s.config
  installed : t.installed = s.installed
  managers : t.managers = s.managers
  calls : t.calls = s.calls
  strays : t.strays = s.strays
  rest : t.rest = s.rest

theorem turned_repeats : Repeats (Turned (ρ := ρ)) where
  refl _ _ := ⟨fun _ _ => rfl, rfl, rfl, rfl, rfl, rfl, rfl⟩
  trans h k :=
    ⟨fun v hv => (k.slot v hv).trans (h.slot v hv), k.config.trans h.config,
      k.installed.trans h.installed, k.managers.trans h.managers, k.calls.trans h.calls,
      k.strays.trans h.strays, k.rest.trans h.rest⟩

/-- The calls that a happening adds to those of the history. -/
theorem calls_record (s : World ρ) (w : Worker) (h : Happening) :
    (s.record w h).calls = s.calls ++ match h with
      | .call c => [c]
      | _ => [] := by
  unfold calls
  rw [history_record, List.filterMap_append]
  cases h <;> rfl

theorem strays_event (s : World ρ) (w : Worker) {e : Event} (h : e.isStray = false) :
    (s.record w (.event e)).strays = s.strays := by
  unfold strays
  rw [history_record, List.filter_append, List.filter_cons_of_neg (by simp [h])]
  exact List.append_nil _

theorem strays_span (s : World ρ) (w : Worker) (phase : SpanPhase) (span : Span) :
    (s.record w (.span phase span)).strays = s.strays := by
  unfold strays
  rw [history_record, List.filter_append, List.filter_cons_of_neg (by simp)]
  exact List.append_nil _

theorem turned_event (w : Worker) (s : World ρ) {e : Event} (h : e.isStray = false) :
    Turned w s (s.record w (.event e)) :=
  ⟨fun _ _ => rfl, rfl, rfl, rfl, by rw [calls_record]; exact List.append_nil _,
    strays_event s w h, rfl⟩

theorem turned_span (w : Worker) (s : World ρ) (phase : SpanPhase) (span : Span) (n : Nat) :
    Turned w s { s.record w (.span phase span) with spans := n } :=
  ⟨fun _ _ => rfl, rfl, rfl, rfl,
    (calls_record s w (.span phase span)).trans (List.append_nil _),
    strays_span s w phase span, rfl⟩

theorem turned_mapSlot (w : Worker) (s : World ρ) (f : Slot → Slot) :
    Turned w s (s.mapSlot w f) := by
  refine ⟨fun v hv => slot_mapSlot_of_ne s hv f, ?_, ?_, ?_, ?_, ?_, ?_⟩
  all_goals
    simp only [mapSlot, calls, strays]
    split <;> rfl

/-- A worker without a slot reads an empty one. -/
theorem slot_of_not_hasSlot (h : ¬ w.hasSlot) (s : World ρ) : s.slot w = {} := by
  simp [slot, h]

theorem bound_of_not_hasSlot (h : ¬ w.hasSlot) (s : World ρ) : s.bound w = none := by
  rw [bound, slot_of_not_hasSlot h]

end World

open World AmbientTx.Action

/-- A run returns `a`, and all that it does to the slots is that it leaves `v` bound on its worker,
if that has a slot. -/
abbrev Rebinds (x : Action ρ α) (w : Worker) (s : World ρ) (a : α) (v : Option Xid) : Prop :=
  ∃ t, x w s = .ok ⟨.returned a, t⟩ ∧ Turned w s t ∧
    (w.hasSlot → t.slot w = { s.slot w with xid := v })

/-- The same with another value. -/
theorem Rebinds.map {x : Action ρ α} {a : α} {v : Option Xid} (h : Rebinds x w s a v)
    (g : α → β) : Rebinds (x >>= fun a => Pure.pure (g a)) w s (g a) v := by
  obtain ⟨t, hrun, hturn, hslot⟩ := h
  exact ⟨t, bind_of_returned hrun fun a => (Pure.pure (g a) : Action ρ β), hturn, hslot⟩

/-- What is left bound does not depend on what was bound before. -/
theorem bound_of_rebinds {x : Action ρ α} {a : World ρ → α} {v : Option Xid}
    (h : ∀ s, Rebinds x w s (a s) v) (hasSlot : w.hasSlot) :
    Triple w (fun _ : World ρ => True) x fun _ s => s.bound w = v := by
  intro s r _ ran
  obtain ⟨t, hrun, -, hslot⟩ := h s
  obtain rfl := Except.ok.inj (hrun.symm.trans ran)
  exact congrArg Slot.xid (hslot hasSlot)

/-! ## Operations on the slot -/

theorem log_calm {e : Event} (h : e.isStray = false) :
    Calm Turned (Action.log e : Action ρ Unit) :=
  Calm.modify fun w s => turned_event w s h

namespace Ambient

theorem write_calm (f : Slot → Slot) : Calm Turned (write f : Action ρ Unit) :=
  Calm.modify fun w s => turned_mapSlot w s f

theorem current_run (w : Worker) (s : World ρ) :
    current w s = .ok ⟨.returned (s.bound w), s⟩ := rfl

theorem current_calm : Calm Turned (current : Action ρ (Option Xid)) :=
  fun w s => ⟨s.bound w, s, rfl, turned_repeats.refl w s⟩

/-- The timeout of the slot, or else the one of the configuration. -/
theorem timeout_run (w : Worker) (s : World ρ) :
    timeout w s = .ok ⟨.returned ((s.slot w).timeout.or s.config.defaultTimeout), s⟩ := by
  have read : (slot : Action ρ Slot) w s = .ok ⟨.returned (s.slot w), s⟩ := rfl
  rw [timeout, bind_of_returned read]
  cases (s.slot w).timeout <;> rfl

theorem bind_calm (x : Xid) : Calm Turned (bind x : Action ρ (Option Xid)) :=
  Calm.bind turned_repeats (log_calm rfl) fun _ => Calm.bind turned_repeats current_calm fun a =>
    Calm.bind turned_repeats (write_calm _) fun _ => Calm.pure turned_repeats a

/-- Binding a transaction on a worker that has a slot. -/
theorem bind_run (x : Xid) (w : Worker) (s : World ρ) :
    Rebinds (bind x) w s (s.bound w) (some x) :=
  ⟨_, rfl, turned_repeats.trans (turned_event w s rfl) (turned_mapSlot w _ _),
    fun h => slot_mapSlot_self _ h _⟩

/-- Unbinding on a worker leaves nothing bound there. -/
theorem unbind_run (w : Worker) (s : World ρ) :
    ∃ t, unbind w s = .ok ⟨.returned (s.bound w), t⟩ ∧ Turned w s t ∧
      t.slot w = { s.slot w with xid := none } := by
  have hslot : (s.mapSlot w fun u => { u with xid := none }).slot w =
      { s.slot w with xid := none } := by
    by_cases h : w.hasSlot
    · exact slot_mapSlot_self s h _
    · rw [slot_of_not_hasSlot h, slot_of_not_hasSlot h]
  -- the event of an unbind is logged only if something was bound
  cases hb : s.bound w with
  | none =>
    refine ⟨_, ?_, turned_mapSlot w s fun u => { u with xid := none }, hslot⟩
    rw [unbind, bind_of_returned (current_run w s), hb]
    rfl
  | some x =>
    refine ⟨_, ?_, turned_repeats.trans (turned_mapSlot w s fun u => { u with xid := none })
      (turned_event w _ (e := .unbound x) rfl), hslot⟩
    rw [unbind, bind_of_returned (current_run w s), hb]
    rfl

theorem unbind_calm : Calm Turned (unbind : Action ρ (Option Xid)) := by
  intro w s
  obtain ⟨t, hrun, hturn, -⟩ := unbind_run w s
  exact ⟨_, t, hrun, hturn⟩

/-- Restoring binds exactly what is given. -/
theorem restore_run (saved : Option Xid) (w : Worker) (s : World ρ) :
    Rebinds (restore saved) w s () saved := by
  cases saved with
  | none =>
    obtain ⟨t, hrun, hturn, hslot⟩ := unbind_run w s
    refine ⟨t, ?_, hturn, fun _ => hslot⟩
    rw [restore, bind_of_returned hrun]
    rfl
  | some x =>
    obtain ⟨t, hrun, hturn, hslot⟩ := bind_run x w s
    refine ⟨t, ?_, hturn, hslot⟩
    rw [restore, bind_of_returned hrun]
    rfl

end Ambient

/-! ## Hooks -/

/-- A hook that does not panic leaves the end of the body as it is. -/
theorem Hook.finish_run {η : Type} {h : Hook ρ η} {active after : η}
    (suspended : h.suspend active w s = .ok ⟨.returned (after, .returned ()), t⟩) (fate : Fate α) :
    h.finish active fate w s = .ok ⟨.returned (after, fate), t⟩ := by
  rw [Hook.finish, bind_of_returned suspended]
  cases fate <;> rfl

/-- A hook around a body, when neither of its calls panics. -/
theorem Hook.around_run {η : Type} {h : Hook ρ η} {state active after : η} {idle kept : β}
    {body : Action ρ (β × Fate α)} {fate fate' : Fate α} {u v : World ρ}
    (resumed : h.resume state w s = .ok ⟨.returned (active, .returned ()), u⟩)
    (ran : body w u = .ok ⟨.returned (kept, fate), v⟩)
    (finished : h.finish active fate w v = .ok ⟨.returned (after, fate'), t⟩) :
    h.around state idle body w s = .ok ⟨.returned (after, kept, fate'), t⟩ := by
  simp only [Hook.around]
  rw [bind_of_returned resumed]
  simp only
  rw [bind_of_returned ran]
  simp only
  rw [bind_of_returned finished]
  rfl

theorem Hook.guarding_run {η : Type} {h : Hook ρ η} {state active after : η} {body : Action ρ α}
    {fate fate' : Fate α} {u v : World ρ}
    (resumed : h.resume state w s = .ok ⟨.returned (active, .returned ()), u⟩)
    (ran : body w u = .ok ⟨fate, v⟩)
    (finished : h.finish active fate w v = .ok ⟨.returned (after, fate'), t⟩) :
    h.guarding state body w s = .ok ⟨.returned (after, fate'), t⟩ := by
  have kept : (do return ((), ← body.attempt) : Action ρ (Unit × Fate α)) w u =
      .ok ⟨.returned ((), fate), v⟩ := by
    rw [bind_of_returned (attempt_of_ran ran)]
    rfl
  exact bind_of_returned (around_run resumed kept finished) _

/-! ## Scopes -/

namespace Scope

/-- All that an inactive scope has is what it captured. -/
theorem eq_carrying {scope : Scope} (inactive : scope.isActive = false) :
    scope = carrying scope.captured := by
  obtain ⟨captured, _ | saved⟩ := scope
  · rfl
  · cases inactive

/-- Activating an inactive scope installs what it captured over what is bound. -/
theorem activate_run (captured : Option Xid) (w : Worker) (s : World ρ) :
    Rebinds (carrying captured).activate w s (.ok ⟨captured, some (s.bound w)⟩)
      (captured.or (s.bound w)) := by
  cases captured with
  | none => exact ⟨s, rfl, turned_repeats.refl w s, fun _ => rfl⟩
  | some x =>
    obtain ⟨t, hrun, hturn, hslot⟩ :=
      Ambient.bind_run x w (s.record w (.event (.scopeActivated x (s.bound w))))
    refine ⟨t, ?_, turned_repeats.trans (turned_event w s rfl) hturn, hslot⟩
    exact bind_of_returned hrun fun _ =>
      (Pure.pure (.ok ⟨some x, some (s.bound w)⟩) : Action ρ (Except ScopeError Scope))

/-- An active scope is refused, and nothing changes. -/
theorem activate_active {scope : Scope} {saved : Option Xid} (h : scope.saved = some saved)
    (w : Worker) (s : World ρ) :
    scope.activate w s = .ok ⟨.returned (.error .alreadyActive), s⟩ := by
  rw [activate, h]
  rfl

/-- Deactivating puts back what activating found. -/
theorem deactivate_run (captured saved : Option Xid) (w : Worker) (s : World ρ) :
    Rebinds (deactivate ⟨captured, some saved⟩) w s (.ok (carrying captured)) saved := by
  -- nothing is written if what was saved is bound already
  by_cases h : s.bound w = saved
  · refine ⟨s, ?_, turned_repeats.refl w s, fun _ => ?_⟩
    · show (if decide (s.bound w = saved) = true then _ else _ : Action ρ _) w s = _
      rw [if_pos (decide_eq_true h)]
      rfl
    · subst h
      rfl
  · obtain ⟨t, hrun, hturn, hslot⟩ :=
      Ambient.restore_run saved w (s.record w (.event (.scopeRestored saved)))
    refine ⟨t, ?_, turned_repeats.trans (turned_event w s rfl) hturn, hslot⟩
    show (if decide (s.bound w = saved) = true then _ else _ : Action ρ _) w s = _
    rw [if_neg (by simpa using h)]
    exact bind_of_returned hrun fun _ =>
      (Pure.pure (.ok (carrying captured)) : Action ρ (Except ScopeError Scope))

theorem activate_calm (scope : Scope) :
    Calm Turned (scope.activate : Action ρ (Except ScopeError Scope)) := by
  intro w s
  obtain ⟨captured, _ | saved⟩ := scope
  · obtain ⟨t, hrun, hturn, -⟩ := activate_run captured w s
    exact ⟨_, t, hrun, hturn⟩
  · exact ⟨_, s, activate_active rfl w s, turned_repeats.refl w s⟩

theorem deactivate_calm (scope : Scope) :
    Calm Turned (scope.deactivate : Action ρ (Except ScopeError Scope)) := by
  intro w s
  obtain ⟨captured, _ | saved⟩ := scope
  · exact ⟨_, s, rfl, turned_repeats.refl w s⟩
  · obtain ⟨t, hrun, hturn, -⟩ := deactivate_run captured saved w s
    exact ⟨_, t, hrun, hturn⟩

/-- The guard of an active scope finds it active. -/
theorem release_run (captured saved : Option Xid) (w : Worker) (s : World ρ) :
    Rebinds (release ⟨captured, some saved⟩) w s (carrying captured) saved := by
  obtain ⟨t, hrun, hturn, hslot⟩ := deactivate_run captured saved w s
  refine ⟨t, ?_, hturn, hslot⟩
  rw [release, bind_of_returned hrun]
  rfl

/-- What a hook over a scope does when it is resumed. -/
theorem resume_run (captured : Option Xid) (w : Worker) (s : World ρ) :
    Rebinds (Hook.scope.resume (carrying captured)) w s
      (⟨captured, some (s.bound w)⟩, .returned ()) (captured.or (s.bound w)) :=
  (activate_run captured w s).map (Hook.turn (carrying captured))

/-- What a hook over a scope does when it is suspended. -/
theorem suspend_run (captured saved : Option Xid) (w : Worker) (s : World ρ) :
    Rebinds (Hook.scope.suspend ⟨captured, some saved⟩) w s (carrying captured, .returned ())
      saved :=
  (deactivate_run captured saved w s).map (Hook.turn ⟨captured, some saved⟩)

/-- Suspending a scope after a body leaves the end of the body as it is. -/
theorem finish_run (captured saved : Option Xid) (fate : Fate α) (w : Worker) (s : World ρ) :
    Rebinds (Hook.scope.finish ⟨captured, some saved⟩ fate) w s (carrying captured, fate)
      saved := by
  obtain ⟨t, hrun, hturn, hslot⟩ := suspend_run captured saved w s
  exact ⟨t, Hook.finish_run hrun fate, hturn, hslot⟩

theorem resume_calm (scope : Scope) :
    Calm Turned (Hook.scope.resume scope : Action ρ (Scope × Fate Unit)) :=
  Calm.bind turned_repeats (activate_calm scope) fun turned =>
    Calm.pure turned_repeats (Hook.turn scope turned)

theorem suspend_calm (scope : Scope) :
    Calm Turned (Hook.scope.suspend scope : Action ρ (Scope × Fate Unit)) :=
  Calm.bind turned_repeats (deactivate_calm scope) fun turned =>
    Calm.pure turned_repeats (Hook.turn scope turned)

end Scope

/-! ## Carriers -/

theorem Span.mark_calm (phase : SpanPhase) (span : Option Span) :
    Calm Turned (Span.mark phase span : Action ρ Unit) := by
  cases span with
  | none => exact Calm.pure turned_repeats ()
  | some span => exact Calm.modify fun w s => turned_span w s phase span s.spans

/-- Marking a span leaves the slots alone. -/
theorem Span.mark_run (phase : SpanPhase) (span : Option Span) (w : Worker) (s : World ρ) :
    ∃ t, Span.mark phase span w s = .ok ⟨.returned (), t⟩ ∧ Turned w s t ∧
      t.slot w = s.slot w := by
  cases span with
  | none => exact ⟨s, rfl, turned_repeats.refl w s, rfl⟩
  | some span => exact ⟨_, rfl, turned_span w s phase span s.spans, rfl⟩

theorem Span.create_calm (captured : Option Xid) :
    Calm Turned (Span.create? captured : Action ρ (Option Span)) := by
  intro w s
  cases captured with
  | none => exact ⟨none, s, rfl, turned_repeats.refl w s⟩
  | some x =>
    cases h : s.config.traceSpans with
    | false =>
      refine ⟨none, s, ?_, turned_repeats.refl w s⟩
      show (if s.config.traceSpans = true then _ else _ : Action ρ (Option Span)) w s = _
      rw [h]
      rfl
    | true =>
      refine ⟨some ⟨s.spans, x⟩, _, ?_, turned_span w s .created ⟨s.spans, x⟩ (s.spans + 1)⟩
      show (if s.config.traceSpans = true then _ else _ : Action ρ (Option Span)) w s = _
      rw [h]
      rfl

namespace Carrier

theorem create_calm (scope : Scope) : Calm Turned (create scope : Action ρ Carrier) :=
  Calm.bind turned_repeats (Span.create_calm _) fun span =>
    Calm.pure turned_repeats (Carrier.mk scope span)

/-- Resuming a carrier activates its scope. -/
theorem resume_run (captured : Option Xid) (span : Option Span) (w : Worker) (s : World ρ) :
    Rebinds (hook.resume ⟨.carrying captured, span⟩) w s
      (⟨⟨captured, some (s.bound w)⟩, span⟩, .returned ()) (captured.or (s.bound w)) := by
  obtain ⟨u, hmark, hturn, hsame⟩ := Span.mark_run .entered span w s
  obtain ⟨t, hrun, hturn', hslot⟩ := Scope.resume_run captured w u
  have hbound : u.bound w = s.bound w := by rw [World.bound, hsame, World.bound]
  rw [hbound] at hrun hslot
  rw [hsame] at hslot
  refine ⟨t, ?_, turned_repeats.trans hturn hturn', hslot⟩
  simp only [hook]
  rw [bind_of_returned hmark, bind_of_returned hrun]
  rfl

/-- A carrier whose scope is active panics when it is resumed, and the slot stays as it is. -/
theorem resume_active {c : Carrier} {saved : Option Xid} (h : c.scope.saved = some saved)
    (w : Worker) (s : World ρ) :
    ∃ t, hook.resume c w s =
        .ok ⟨.returned (c, .unwound ⟨ScopeError.alreadyActive.message⟩), t⟩ ∧ Turned w s t ∧
      t.slot w = s.slot w := by
  obtain ⟨u, hmark, hturn, hsame⟩ := Span.mark_run .entered c.span w s
  obtain ⟨t, hmark', hturn', hsame'⟩ := Span.mark_run .exited c.span w u
  have hrun : Hook.scope.resume c.scope w u =
      .ok ⟨.returned (c.scope, .unwound ⟨ScopeError.alreadyActive.message⟩), u⟩ :=
    bind_of_returned (Scope.activate_active h w u) fun turned =>
      (Pure.pure (Hook.turn c.scope turned) : Action ρ (Scope × Fate Unit))
  refine ⟨t, ?_, turned_repeats.trans hturn hturn', hsame'.trans hsame⟩
  simp only [hook]
  rw [bind_of_returned hmark, bind_of_returned hrun]
  exact bind_of_returned hmark' fun _ =>
    (Pure.pure (c, .unwound ⟨ScopeError.alreadyActive.message⟩) : Action ρ (Carrier × Fate Unit))

/-- Suspending a carrier puts back what resuming it found. -/
theorem suspend_run (captured saved : Option Xid) (span : Option Span) (w : Worker)
    (s : World ρ) :
    Rebinds (hook.suspend ⟨⟨captured, some saved⟩, span⟩) w s
      (⟨.carrying captured, span⟩, .returned ()) saved := by
  obtain ⟨u, hrun, hturn, hslot⟩ := Scope.suspend_run captured saved w s
  obtain ⟨t, hmark, hturn', hsame⟩ := Span.mark_run .exited span w u
  refine ⟨t, ?_, turned_repeats.trans hturn hturn', fun h => hsame.trans (hslot h)⟩
  simp only [hook]
  rw [bind_of_returned hrun, bind_of_returned hmark]
  rfl

/-- Suspending after a body leaves the end of the body as it is. -/
theorem finish_run {β : Type} (captured saved : Option Xid) (span : Option Span) (fate : Fate β)
    (w : Worker) (s : World ρ) :
    Rebinds (hook.finish ⟨⟨captured, some saved⟩, span⟩ fate) w s
      (⟨.carrying captured, span⟩, fate) saved := by
  obtain ⟨t, hrun, hturn, hslot⟩ := suspend_run captured saved span w s
  exact ⟨t, Hook.finish_run hrun fate, hturn, hslot⟩

theorem resume_calm (c : Carrier) :
    Calm Turned (hook.resume c : Action ρ (Carrier × Fate Unit)) := by
  intro w s
  obtain ⟨⟨captured, _ | saved⟩, span⟩ := c
  · obtain ⟨t, hrun, hturn, -⟩ := resume_run captured span w s
    exact ⟨_, t, hrun, hturn⟩
  · obtain ⟨t, hrun, hturn, -⟩ :=
      resume_active (c := ⟨⟨captured, some saved⟩, span⟩) rfl w s
    exact ⟨_, t, hrun, hturn⟩

theorem suspend_calm (c : Carrier) :
    Calm Turned (hook.suspend c : Action ρ (Carrier × Fate Unit)) :=
  Calm.bind turned_repeats (Scope.suspend_calm c.scope) fun _ =>
    Calm.bind turned_repeats (Span.mark_calm .exited c.span) fun _ =>
      Calm.pure turned_repeats _

end Carrier

/-- A job is called as a carrier without a span is polled. -/
theorem Job.call_eq {κ : Type} (run : κ → Action ρ α) (j : Job κ) :
    j.call run = (do
      let (_, fate) ← Carrier.hook.guarding ⟨j.scope, none⟩ (run j.body)
      Action.resume fate) := by
  simp only [Job.call, Hook.guarding, Hook.around, Hook.finish, Carrier.hook, Span.mark,
    bind_assoc, pure_bind]
  congr 1
  funext ⟨scope, turned⟩
  cases turned with
  | unwound p => simp
  | returned u => simp

end AmbientTx
