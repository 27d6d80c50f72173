import AmbientTx.Proofs.Client
import AmbientTx.Proofs.Course
import AmbientTx.Proofs.Identity

/-! # Where ids come from

An id is in the slot of a worker, captured or saved by a scope, the id of a call, or in what a
manager answers. Nothing in the library makes one: it comes from a text, from a scope of the client,
or from a manager that granted a request, and from there it is moved around as it is. So a property
that all ids have that are brought in is one of all ids that are ever held, and of all ids that a
manager is asked to commit or to roll back (`System.serve_only`).

`Only P` says of each part of a system that it holds no ids but those with `P`, and
`Action.Confines P x Q` that `x` keeps it so and returns something with `Q`.
-/

namespace AmbientTx

variable {ρ κ α β ε : Type} {P : Xid → Prop} {w : Worker} {s t : World ρ}

open World AmbientTx.Action

/-! ## The ids in a system -/

/-- What a scope captured and what it saved. -/
structure Scope.Only (P : Xid → Prop) (s : Scope) : Prop where
  captured : ∀ x, s.captured = some x → P x
  saved : ∀ x, s.saved = some (some x) → P x

/-- The scopes in a task, and the transactions of its calls. -/
def Task.Only (P : Xid → Prop) : Task κ → Prop
  | .plain _ | .ended => True
  | .carried carrier inner => carrier.scope.Only P ∧ inner.Only P
  | .fresh _ _ business => business.Only P
  | .called part carrier business => P part.xid ∧ carrier.scope.Only P ∧ business.Only P

/-- The scope of a layer, and the transaction of its call. -/
structure Layer.Only (P : Xid → Prop) (layer : Layer) : Prop where
  scope : layer.carrier.scope.Only P
  part : ∀ part, layer.part = some part → P part.xid

def Stay.Only (P : Xid → Prop) : Stay → Prop
  | .guarded scope => scope.Only P
  | .call part => P part.xid
  | .poll layers => ∀ layer ∈ layers, layer.Only P

/-- The ids that a manager has yet to grant. -/
def Manager.Only (P : Xid → Prop) (v : Manager) : Prop :=
  ∀ x, .granted x ∈ v.begins.next :: v.begins.later → P x

/-- The id that was granted, or that is to be committed or rolled back. -/
def Exchange.xid? : Exchange → Option Xid
  | .launch _ (.granted x) => some x
  | .launch _ _ => none
  | .commit x _ | .rollback x _ => some x

/-- What was bound during a call, and what the call was about. -/
structure Call.Only (P : Xid → Prop) (call : Call) : Prop where
  bound : ∀ x, call.bound = some x → P x
  about : ∀ x, call.exchange.xid? = some x → P x

/-- What is bound on any worker, what managers grant, and what they were asked for. -/
structure World.Only (P : Xid → Prop) (s : World ρ) : Prop where
  bound : ∀ w x, s.bound w = some x → P x
  managers : ∀ m, (s.managers m).Only P
  calls : ∀ call ∈ s.calls, call.Only P

structure System.Only (P : Xid → Prop) (c : System ρ κ) : Prop where
  world : c.world.Only P
  stays : ∀ e ∈ c.stays, e.2.Only P
  tasks : ∀ task ∈ c.tasks, task.Only P

theorem Scope.only_carrying {captured : Option Xid} (only : ∀ x, captured = some x → P x) :
    (carrying captured).Only P :=
  ⟨only, nofun⟩

theorem Layer.only_nil : ∀ layer ∈ ([] : List Layer), layer.Only P :=
  fun _ mem => absurd mem List.not_mem_nil

/-- The next answer that is given was among those that a manager had. -/
theorem Manager.Only.advance {v : Manager} (only : v.Only P) :
    Manager.Only P { v with begins := v.begins.advance } := by
  intro x mem
  obtain ⟨⟨next, _ | ⟨answer, later⟩⟩, commits, rollbacks⟩ := v
  · exact only x mem
  · exact only x (List.mem_cons_of_mem next mem)

theorem Manager.Only.closed {v : Manager} (only : v.Only P) (succeeded : Bool) :
    (v.closed succeeded).Only P := by
  cases succeeded <;> exact only

namespace World.Only

theorem of_turned (only : s.Only P) (turned : Turned w s t)
    (bound : ∀ x, t.bound w = some x → P x) : t.Only P := by
  refine ⟨fun v x found => ?_, ?_, ?_⟩
  · by_cases same : v = w
    · subst same
      exact bound x found
    · rw [World.bound, turned.slot v same] at found
      exact only.bound v x found
  · rw [turned.managers]
    exact only.managers
  · rw [turned.calls]
    exact only.calls

theorem of_same_slot (only : s.Only P) (turned : Turned w s t) (slot : t.slot w = s.slot w) :
    t.Only P := by
  refine only.of_turned turned fun x found => ?_
  rw [World.bound, slot] at found
  exact only.bound w x found

theorem record_event (only : s.Only P) (w : Worker) (e : Event) :
    (s.record w (.event e)).Only P := by
  refine ⟨only.bound, only.managers, ?_⟩
  rw [calls_event]
  exact only.calls

theorem setManager (only : s.Only P) (m : ManagerName) {v : Manager} (confined : v.Only P) :
    (s.setManager m v).Only P := by
  refine ⟨only.bound, fun m' => ?_, only.calls⟩
  show Manager.Only P (if m' = m then v else s.managers m')
  split
  · exact confined
  · exact only.managers m'

/-- A call records what is bound, and what it is about. -/
theorem record_call (only : s.Only P) (w : Worker) (m : ManagerName) {e : Exchange}
    (about : ∀ x, e.xid? = some x → P x) :
    (s.record w (.call ⟨m, s.bound w, e⟩)).Only P := by
  refine ⟨only.bound, only.managers, fun call mem => ?_⟩
  rw [calls_record, List.mem_append] at mem
  rcases mem with earlier | new
  · exact only.calls call earlier
  · obtain rfl := List.mem_singleton.1 new
    exact ⟨only.bound w, about⟩

end World.Only

/-! ## Actions that keep it so -/

/-- If `Q` holds of what an end returns. -/
def Fate.All (Q : α → Prop) (fate : Fate α) : Prop :=
  ∀ a, fate = .returned a → Q a

/-- Where only ids with `P` are held before a run, only such are held after it, and what is returned
satisfies `Q`. -/
def Action.Confines (P : Xid → Prop) (x : Action ρ α) (Q : α → Prop) : Prop :=
  ∀ ⦃w s r⦄, s.Only P → x w s = .ok r → r.world.Only P ∧ r.fate.All Q

theorem Fate.all_returned {Q : α → Prop} {a : α} (h : Q a) : (Fate.returned a).All Q := by
  rintro b ⟨⟩
  exact h

theorem Fate.all_unwound {Q : α → Prop} (p : Panic) : (Fate.unwound p : Fate α).All Q :=
  nofun

theorem Fate.All.map {Q : α → Prop} {R : β → Prop} {f : α → β} {fate : Fate α} (h : fate.All Q)
    (sub : ∀ a, Q a → R (f a)) : (fate.map f).All R := by
  cases fate with
  | returned a => exact all_returned (sub a (h a rfl))
  | unwound p => exact all_unwound p

namespace Action.Confines

variable {x : Action ρ α} {f : α → Action ρ β} {Q : α → Prop} {R : β → Prop}

theorem pure {a : α} (h : Q a) : Confines P (Pure.pure a : Action ρ α) Q := by
  intro w s r only ran
  obtain rfl := pure_eq_ok.1 ran
  exact ⟨only, Fate.all_returned h⟩

theorem panic (p : Panic) : Confines P (Action.panic p : Action ρ α) Q := by
  intro w s r only ran
  obtain rfl := Except.ok.inj ran
  exact ⟨only, Fate.all_unwound p⟩

theorem bind (hx : Confines P x Q) (hf : ∀ a, Q a → Confines P (f a) R) :
    Confines P (x >>= f) R := by
  intro w s r only ran
  rcases bind_eq_ok.1 ran with ⟨a, t, first, second⟩ | ⟨p, t, first, rfl⟩
  · obtain ⟨left, all⟩ := hx only first
    exact hf a (all a rfl) left second
  · exact ⟨(hx only first).1, Fate.all_unwound p⟩

theorem attempt (h : Confines P x Q) : Confines P x.attempt (Fate.All Q) := by
  intro w s r only ran
  obtain ⟨q, inner, rfl⟩ := attempt_eq_ok.1 ran
  obtain ⟨left, all⟩ := h only inner
  exact ⟨left, Fate.all_returned all⟩

theorem resume {fate : Fate α} (h : fate.All Q) : Confines P (Action.resume fate : Action ρ α) Q := by
  cases fate with
  | returned a => exact pure (h a rfl)
  | unwound p => exact panic p

theorem settle {fate : Fate α} (after : Fate Unit) (h : fate.All Q) :
    Confines P (Action.settle fate after : Action ρ (Fate α)) (Fate.All Q) := by
  intro w s r only ran
  obtain ⟨world, ⟨-, same⟩ | ⟨a, p, -, -, same⟩⟩ := settle_eq_ok ran
  · rw [world, same]
    exact ⟨only, Fate.all_returned h⟩
  · rw [world, same]
    exact ⟨only, Fate.all_returned (Fate.all_unwound p)⟩

theorem ensuring {cleanup : Action ρ Unit} (hx : Confines P x Q)
    (hc : Confines P cleanup fun _ => True) : Confines P (x.ensuring cleanup) Q :=
  hx.attempt.bind fun _ all => hc.attempt.bind fun after _ => (settle after all).bind fun _ all =>
    resume all

theorem read (g : Worker → World ρ → α) (run : ∀ w s, x w s = .ok ⟨.returned (g w s), s⟩)
    (h : ∀ w s, s.Only P → Q (g w s)) : Confines P x Q := by
  intro w s r only ran
  obtain rfl := Except.ok.inj ((run w s).symm.trans ran)
  exact ⟨only, Fate.all_returned (h w s only)⟩

theorem log (e : Event) : Confines P (Action.log e : Action ρ Unit) fun _ => True := by
  intro w s r only ran
  obtain rfl := Except.ok.inj ran
  exact ⟨only.record_event w e, Fate.all_returned trivial⟩

/-- It is enough to know what is left bound. -/
theorem of_rebinds {a : Worker → World ρ → α} {v : Worker → World ρ → Option Xid}
    (run : ∀ w s, Rebinds x w s (a w s) (v w s))
    (h : ∀ w s, s.Only P → Q (a w s) ∧ ∀ y, v w s = some y → P y) : Confines P x Q := by
  intro w s r only ran
  obtain ⟨t, rebound, turned, slot⟩ := run w s
  obtain rfl := Except.ok.inj (rebound.symm.trans ran)
  obtain ⟨returned, left⟩ := h w s only
  refine ⟨only.of_turned turned fun y found => ?_, Fate.all_returned returned⟩
  by_cases hasSlot : w.hasSlot
  · rw [World.bound, slot hasSlot] at found
    exact left y found
  · rw [bound_of_not_hasSlot hasSlot] at found
    cases found

end Action.Confines

/-! ## The slot and scopes -/

namespace Ambient

theorem current_confines :
    Confines P (current : Action ρ (Option Xid)) fun bound => ∀ x, bound = some x → P x :=
  .read (fun w s => s.bound w) current_run fun w _ only => only.bound w

theorem bind_confines {x : Xid} (h : P x) :
    Confines P (bind x : Action ρ (Option Xid)) fun _ => True := by
  refine .of_rebinds (bind_run x) fun w s only => ⟨trivial, ?_⟩
  rintro y ⟨⟩
  exact h

end Ambient

namespace Scope

/-- Activating saves what is bound, and binds what was captured. -/
theorem activate_confines {scope : Scope} (only : scope.Only P) :
    Confines P (scope.activate : Action ρ (Except ScopeError Scope)) fun outcome =>
      ∀ active, outcome = .ok active → active.Only P := by
  obtain ⟨captured, _ | saved⟩ := scope
  · refine .of_rebinds (activate_run captured) fun w s held => ⟨?_, fun x found => ?_⟩
    · rintro _ ⟨⟩
      exact ⟨only.captured, fun x same => held.bound w x (Option.some.inj same)⟩
    · rcases Option.or_eq_some_iff.1 found with own | ⟨-, outer⟩
      · exact only.captured x own
      · exact held.bound w x outer
  · exact .read _ (activate_active rfl) fun _ _ _ => nofun

/-- Deactivating binds what was saved. -/
theorem deactivate_confines {scope : Scope} (only : scope.Only P) :
    Confines P (scope.deactivate : Action ρ (Except ScopeError Scope)) fun outcome =>
      ∀ idle, outcome = .ok idle → idle.Only P := by
  obtain ⟨captured, _ | saved⟩ := scope
  · exact .pure nofun
  · refine .of_rebinds (deactivate_run captured saved) fun w s held => ⟨?_, fun x found => ?_⟩
    · rintro _ ⟨⟩
      exact only_carrying only.captured
    · exact only.saved x (congrArg some found)

theorem release_confines {scope : Scope} (only : scope.Only P) :
    Confines P (scope.release : Action ρ Scope) (Scope.Only P) := by
  refine (deactivate_confines only).bind fun outcome idle => ?_
  cases outcome with
  | ok scope => exact .pure (idle scope rfl)
  | error e => exact (Confines.log _).bind fun _ _ => .pure only

/-- A hook over a scope goes on with the scope that was turned, or with the one that it had. -/
theorem turn_only {scope : Scope} {outcome : Except ScopeError Scope} (only : scope.Only P)
    (turned : ∀ other, outcome = .ok other → other.Only P) :
    (Hook.turn scope outcome).1.Only P := by
  cases outcome with
  | ok other => exact turned other rfl
  | error e => exact only

theorem resume_confines {scope : Scope} (only : scope.Only P) :
    Confines P (Hook.scope.resume scope : Action ρ (Scope × Fate Unit)) fun turned =>
      turned.1.Only P :=
  (activate_confines only).bind fun _ active => .pure (turn_only only active)

theorem suspend_confines {scope : Scope} (only : scope.Only P) :
    Confines P (Hook.scope.suspend scope : Action ρ (Scope × Fate Unit)) fun turned =>
      turned.1.Only P :=
  (deactivate_confines only).bind fun _ idle => .pure (turn_only only idle)

end Scope

theorem Span.mark_confines (phase : SpanPhase) (span : Option Span) :
    Confines P (Span.mark phase span : Action ρ Unit) fun _ => True := by
  intro w s r only ran
  obtain ⟨t, marked, turned, slot⟩ := Span.mark_run phase span w s
  obtain rfl := Except.ok.inj (marked.symm.trans ran)
  exact ⟨only.of_same_slot turned slot, Fate.all_returned trivial⟩

namespace Carrier

theorem create_confines {scope : Scope} (only : scope.Only P) :
    Confines P (create scope : Action ρ Carrier) fun carrier => carrier.scope.Only P := by
  intro w s r held ran
  obtain ⟨span, t, created, turned, slot⟩ := create_run scope w s
  obtain rfl := Except.ok.inj (created.symm.trans ran)
  exact ⟨held.of_same_slot turned slot, Fate.all_returned only⟩

theorem resume_confines {c : Carrier} (only : c.scope.Only P) :
    Confines P (hook.resume c : Action ρ (Carrier × Fate Unit)) fun resumed =>
      resumed.1.scope.Only P := by
  refine (Span.mark_confines _ _).bind fun _ _ => (Scope.resume_confines only).bind ?_
  rintro ⟨scope, ⟨⟩ | p⟩ turned
  · exact .pure turned
  · exact (Span.mark_confines _ _).bind fun _ _ => .pure turned

theorem suspend_confines {c : Carrier} (only : c.scope.Only P) :
    Confines P (hook.suspend c : Action ρ (Carrier × Fate Unit)) fun suspended =>
      suspended.1.scope.Only P :=
  (Scope.suspend_confines only).bind fun _ turned => (Span.mark_confines _ _).bind fun _ _ =>
    .pure turned

end Carrier

/-! ## Calls -/

theorem Answer.fate_eq_ok_iff {answer : Answer α} {a : α} :
    answer.fate = .returned (.ok a) ↔ answer = .granted a := by
  cases answer <;> simp [fate]

theorem Exchange.xid?_launch_iff {request : BeginRequest} {answer : Answer Xid} {x : Xid} :
    (launch request answer).xid? = some x ↔ answer = .granted x := by
  cases answer <;> simp [xid?]

/-- The only call that brings in an id is one to begin. -/
theorem Manager.launch_confines (m : ManagerName) (request : BeginRequest) :
    Confines P (launch m request : Action ρ (Except ManagerFailure Xid)) fun answer =>
      ∀ x, answer = .ok x → P x := by
  intro w s r only ran
  obtain rfl := Except.ok.inj ((settle_run _ w _).symm.trans ran)
  have granted (x : Xid) (next : (s.managers m).begins.next = .granted x) : P x :=
    only.managers m x (by rw [next]; exact List.mem_cons_self)
  constructor
  · refine (only.setManager m (only.managers m).advance).record_call w m fun x about => ?_
    exact granted x (Exchange.xid?_launch_iff.1 about)
  · rintro _ returned x rfl
    exact granted x (Answer.fate_eq_ok_iff.1 returned)

namespace World.Closed

/-- Closing a transaction brings in nothing, and asks for nothing but that transaction. -/
theorem only {l : Launch} {succeeded : Bool} (closed : Closed w l succeeded s t) (held : s.Only P)
    (own : P l.xid) : t.Only P := by
  refine ⟨fun v x found => ?_, fun m => ?_, fun call mem => ?_⟩
  · rw [closed.silent.bound v] at found
    exact held.bound v x found
  · rw [closed.managers]
    exact (held.setManager l.manager ((held.managers l.manager).closed succeeded)).managers m
  · rw [closed.calls, List.mem_append] at mem
    rcases mem with earlier | new
    · exact held.calls call earlier
    · obtain rfl := List.mem_singleton.1 new
      refine ⟨held.bound w, fun x about => ?_⟩
      cases succeeded <;> cases about <;> exact own

end World.Closed

namespace Part

theorem complete_confines {part : Part} (own : P part.xid) (outcome : Except ε α) :
    Confines P (part.complete outcome : Action ρ (Except (CallError ε) α)) fun _ => True := by
  cases part with
  | joined x => exact .pure trivial
  | launched l =>
    intro w s r held ran
    obtain ⟨t, completed, closed⟩ := l.complete_run outcome w s
    obtain rfl := Except.ok.inj (completed.symm.trans ran)
    exact ⟨closed.only held own, fun _ _ => trivial⟩

theorem abandon_confines {part : Part} (own : P part.xid) :
    Confines P (part.abandon : Action ρ Unit) fun _ => True := by
  cases part with
  | joined x => exact .pure trivial
  | launched l =>
    intro w s r held ran
    obtain ⟨t, abandoned, closed⟩ := l.abandon_run w s
    obtain rfl := Except.ok.inj (abandoned.symm.trans ran)
    exact ⟨closed.only held own, fun _ _ => trivial⟩

theorem bind_confines {part : Part} (own : P part.xid) :
    Confines P (part.bind : Action ρ Unit) fun _ => True := by
  cases part with
  | joined x => exact .pure trivial
  | launched l => exact (Ambient.bind_confines own).bind fun _ _ => .pure trivial

theorem release_confines (part : Part) :
    Confines P (part.release : Action ρ Unit) fun _ => True := by
  cases part with
  | joined x => exact .pure trivial
  | launched l =>
    have run (w : Worker) (s : World ρ) : Rebinds l.release w s () none := by
      obtain ⟨t, released, turned, slot⟩ := l.release_run w s
      exact ⟨t, released, turned, fun _ => slot⟩
    exact .of_rebinds run fun _ _ _ => ⟨trivial, nofun⟩

theorem leave_confines {part : Part} (own : P part.xid) (fate : Fate (Except ε α)) :
    Confines P (part.leave fate : Action ρ (Except (CallError ε) α)) fun _ => True := by
  cases fate with
  | returned outcome => exact (complete_confines own outcome).ensuring part.release_confines
  | unwound p =>
    exact (Confines.panic p).ensuring
      (part.release_confines.bind fun _ _ => abandon_confines own)

end Part

namespace Template

theorem launch_confines (t : Template) (info : CallInfo) :
    Confines P (t.launch info : Action ρ (Except (CallError ε) Launch)) fun outcome =>
      ∀ l, outcome = .ok l → P l.xid := by
  refine (Confines.read (Q := fun _ => True) _ t.managerInUse_run fun _ _ _ => trivial).bind ?_
  rintro (_ | m) -
  · exact .pure nofun
  · refine (Confines.read (Q := fun _ => True) _ (t.timeoutInUse_run info) fun _ _ _ =>
      trivial).bind fun timeout _ => (Manager.launch_confines m _).bind ?_
    rintro (e | x) granted
    · exact (Confines.log _).bind fun _ _ => .pure nofun
    · refine (Confines.log _).bind fun _ _ => .pure ?_
      rintro _ ⟨⟩
      exact granted x rfl

/-- The part of a call is in what was bound, or in what a manager granted. -/
theorem start_confines (t : Template) (info : CallInfo) :
    Confines P (t.start info : Action ρ (Except (CallError ε) Part)) fun outcome =>
      ∀ part, outcome = .ok part → P part.xid := by
  refine Ambient.current_confines.bind ?_
  rintro (_ | x) bound
  · refine (t.launch_confines info).bind ?_
    rintro (e | l) own
    · exact .pure nofun
    · refine .pure ?_
      rintro _ ⟨⟩
      exact own l rfl
  · refine (Confines.log _).bind fun _ _ => .pure ?_
    rintro _ ⟨⟩
    exact bound x rfl

theorem enter_confines (t : Template) (info : CallInfo) :
    Confines P (t.enter info : Action ρ (Except (CallError ε) Part)) fun outcome =>
      ∀ part, outcome = .ok part → P part.xid := by
  refine (t.start_confines info).bind ?_
  rintro (e | part) own
  · exact .pure nofun
  · exact (Part.bind_confines (own part rfl)).bind fun _ _ => .pure own

end Template

/-! ## Tasks -/

namespace Task

/-- A drop rolls back nothing but the transactions of the calls in the task. -/
theorem drop_confines {task : Task κ} (only : task.Only P) :
    Confines P (task.drop : Action ρ Unit) fun _ => True := by
  induction task with
  | plain future => exact .pure trivial
  | carried carrier inner ih => exact ih only.2
  | fresh t info business ih => exact ih only
  | called part carrier business ih =>
    obtain ⟨own, -, inside⟩ := only
    exact (ih inside).ensuring (Part.abandon_confines own)
  | ended => exact .pure trivial

theorem endWith_confines (fate : Fate (Progress α)) {dropped : Action ρ Unit}
    (h : Confines P dropped fun _ => True) :
    Confines P (endWith fate dropped : Action ρ (Polled κ α)) fun polled => polled.1.Only P :=
  h.attempt.bind fun after _ => (Confines.settle (Q := fun _ => True) after fun _ _ => trivial).bind
    fun _ _ => .pure trivial

theorem settleUnder_confines {part : Option Part} {carrier : Carrier} {polled : Polled κ α}
    (own : ∀ p, part = some p → P p.xid) (scope : carrier.scope.Only P) (inside : polled.1.Only P) :
    Confines P (settleUnder part carrier polled : Action ρ (Polled κ α)) fun polled =>
      polled.1.Only P := by
  cases part with
  | none => exact .pure ⟨scope, inside⟩
  | some part =>
    have own := own part rfl
    obtain ⟨business, (_ | outcome) | p⟩ := polled
    · exact .pure ⟨own, scope, inside⟩
    · exact (Part.complete_confines own outcome).attempt.bind fun _ _ => .pure trivial
    · exact endWith_confines _ ((drop_confines inside).ensuring (Part.abandon_confines own))

end Task

/-- What the way in of a poll came to. -/
def Reached.Only (P : Xid → Prop) : Reached κ α → Prop
  | .inside _ => True
  | .ended polled => polled.1.Only P

namespace Task

theorem reachUnder_confines {part : Option Part} {carrier : Carrier} {inner : Task κ}
    {reach : Action ρ (List Layer × Reached κ α)} (own : ∀ p, part = some p → P p.xid)
    (scope : carrier.scope.Only P) (inside : inner.Only P)
    (h : Confines P reach fun found => (∀ layer ∈ found.1, layer.Only P) ∧ found.2.Only P) :
    Confines P (reachUnder part carrier inner reach) fun found =>
      (∀ layer ∈ found.1, layer.Only P) ∧ found.2.Only P := by
  refine (Carrier.resume_confines scope).bind ?_
  rintro ⟨carrier, ⟨⟩ | p⟩ resumed
  · refine h.bind fun found inner => .pure ⟨?_, inner.2⟩
    exact List.forall_mem_cons.2 ⟨⟨resumed, own⟩, inner.1⟩
  · exact (settleUnder_confines own resumed inside).bind fun _ left =>
      .pure ⟨Layer.only_nil, left⟩

/-- The way in of a poll puts into its layers what was in the task, and what its calls got. -/
theorem reach_confines {task : Task κ} (only : task.Only P) :
    Confines P (task.reach : Action ρ (List Layer × Reached κ α)) fun found =>
      (∀ layer ∈ found.1, layer.Only P) ∧ found.2.Only P := by
  induction task with
  | plain future => exact .pure ⟨Layer.only_nil, trivial⟩
  | carried carrier inner ih => exact reachUnder_confines nofun only.1 only.2 (ih only.2)
  | fresh t info business ih =>
    have refused (fate : Fate (Progress α)) : Confines P (do
        return ([], .ended (← endWith fate business.drop)) : Action ρ (List Layer × Reached κ α))
        fun found => (∀ layer ∈ found.1, layer.Only P) ∧ found.2.Only P :=
      (endWith_confines fate (drop_confines only)).bind fun _ left =>
        .pure ⟨Layer.only_nil, left⟩
    refine (t.start_confines info).attempt.bind ?_
    rintro ((e | part) | p) started
    · exact refused _
    · have own : P part.xid := started (.ok part) rfl part rfl
      have scope : (Scope.carrying (some part.xid)).Only P := by
        refine Scope.only_carrying ?_
        rintro _ ⟨⟩
        exact own
      refine (Carrier.create_confines scope).bind fun carrier created => ?_
      refine reachUnder_confines ?_ created only (ih only)
      rintro _ ⟨⟩
      exact own
    · exact refused _
  | called part carrier business ih =>
    obtain ⟨own, scope, inside⟩ := only
    refine reachUnder_confines ?_ scope inside (ih inside)
    rintro _ ⟨⟩
    exact own
  | ended => exact .pure ⟨Layer.only_nil, trivial⟩

theorem carry_confines {task : Task κ} {scope : Scope} (only : task.Only P)
    (carried : scope.Only P) : Confines P (task.carry scope : Action ρ (Task κ)) (Task.Only P) :=
  (Carrier.create_confines carried).bind fun _ created => .pure ⟨created, only⟩

end Task

theorem Layer.closeAll_confines {layers : List Layer} {polled : Polled κ α}
    (held : ∀ layer ∈ layers, layer.Only P) (inside : polled.1.Only P) :
    Confines P (closeAll layers polled : Action ρ (Polled κ α)) fun polled => polled.1.Only P := by
  induction layers with
  | nil => exact .pure inside
  | cons layer rest ih =>
    obtain ⟨top, below⟩ := List.forall_mem_cons.1 held
    refine (ih below).bind fun polled inner => ?_
    have finished : Confines P
        (Carrier.hook.finish layer.carrier polled.2 : Action ρ (Carrier × Fate (Progress α)))
        fun finished => finished.1.scope.Only P := by
      refine (Carrier.suspend_confines top.scope).bind fun suspended idle => ?_
      exact (Confines.settle (Q := fun _ => True) suspended.2 fun _ _ => trivial).bind fun _ _ =>
        .pure idle
    exact finished.bind fun _ idle => Task.settleUnder_confines top.part idle inner

theorem Task.approach_confines {task : Task κ} (only : task.Only P) :
    Confines P (task.approach : Action ρ (List Layer × κ ⊕ Polled κ α)) fun
      | .inl (layers, _) => ∀ layer ∈ layers, layer.Only P
      | .inr polled => polled.1.Only P := by
  refine (reach_confines only).bind ?_
  rintro ⟨layers, future | polled⟩ ⟨held, left⟩
  · exact .pure held
  · exact (Layer.closeAll_confines held left).bind fun _ closed => .pure closed

end AmbientTx
