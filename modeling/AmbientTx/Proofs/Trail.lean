import AmbientTx.Proofs.Course

/-! # The trail of a call

What code leaves behind for those who watch it: the calls that it made to managers, and the alarms
that it raised, which are the events that are at least warnings. Binding, unbinding and carrying a
transaction leave no trail (`World.Plain`). What a template does around its business leaves one in
which the alarms follow from the calls: there is one exactly if a call came out badly, or if
something was odd about the business (`Trail.Explains`).
-/

namespace AmbientTx

variable {ρ α ε : Type} {w : Worker} {s t u : World ρ}

/-! ## Alarms -/

/-- Whether a severity is that of a warning at least. -/
def Severity.isAlarm : Severity → Bool
  | .warning | .error => true
  | .trace | .debug | .info => false

/-- The alarm that a record is, if it is one. -/
def Record.alarm? (r : Record) : Option Event :=
  match r.happening with
  | .event e => if e.severity.isAlarm then some e else none
  | .span _ _ | .call _ => none

/-- Whether an alarm belongs to an exchange: the manager refused it, or completed the transaction
with a status that is not the one to expect. -/
def Exchange.isBad : Exchange → Bool
  | .launch _ (.refused _) | .commit _ (.refused _) | .rollback _ (.refused _) => true
  | .commit _ (.granted status) => !status.isCommitted
  | .rollback _ (.granted status) => !status.isRolledBack
  | .launch _ (.granted _) | .launch _ (.panicked _) | .commit _ (.panicked _)
  | .rollback _ (.panicked _) => false

/-- Whether a manager refused to roll back. -/
def Exchange.refusesRollback : Exchange → Bool
  | .rollback _ (.refused _) => true
  | _ => false

/-! ## Trails -/

/-- Calls to managers and alarms, each in order. -/
structure Trail where
  calls : List Call := []
  alarms : List Event := []

namespace Trail

instance : Append Trail :=
  ⟨fun a b => ⟨a.calls ++ b.calls, a.alarms ++ b.alarms⟩⟩

@[simp] theorem calls_append (a b : Trail) : (a ++ b).calls = a.calls ++ b.calls := rfl

@[simp] theorem alarms_append (a b : Trail) : (a ++ b).alarms = a.alarms ++ b.alarms := rfl

theorem ext {a b : Trail} (calls : a.calls = b.calls) (alarms : a.alarms = b.alarms) : a = b := by
  cases a
  cases b
  cases calls
  cases alarms
  rfl

@[simp] theorem append_empty (a : Trail) : a ++ ({} : Trail) = a :=
  ext (List.append_nil _) (List.append_nil _)

@[simp] theorem empty_append (a : Trail) : ({} : Trail) ++ a = a := rfl

theorem append_assoc (a b c : Trail) : a ++ b ++ c = a ++ (b ++ c) :=
  ext (List.append_assoc ..) (List.append_assoc ..)

theorem append_left_cancel {a b c : Trail} (same : a ++ b = a ++ c) : b = c :=
  ext (List.append_cancel_left (congrArg calls same))
    (List.append_cancel_left (congrArg alarms same))

/-- The alarms of a trail follow from its calls, and from whether something else was odd: there is
one if a call came out badly or something was odd, and there is an error among them if a rollback
was refused. -/
structure Explains (own : Trail) (odd : Prop) : Prop where
  alarm : own.alarms ≠ [] ↔ (∃ c ∈ own.calls, c.exchange.isBad) ∨ odd
  error : (∃ e ∈ own.alarms, e.severity = .error) ↔ ∃ c ∈ own.calls, c.exchange.refusesRollback

theorem Explains.of_iff {own : Trail} {odd odd' : Prop} (h : own.Explains odd)
    (same : odd ↔ odd') : own.Explains odd' :=
  ⟨h.alarm.trans (or_congr_right same), h.error⟩

theorem explains_empty : Explains {} False := by
  constructor <;> simp

theorem Explains.append {a b : Trail} {odd odd' : Prop} (h : a.Explains odd)
    (k : b.Explains odd') : (a ++ b).Explains (odd ∨ odd') := by
  constructor
  · have nonempty : (a ++ b).alarms ≠ [] ↔ a.alarms ≠ [] ∨ b.alarms ≠ [] := by
      rw [alarms_append, ne_eq, List.append_eq_nil_iff,
        Classical.not_and_iff_not_or_not]
    rw [nonempty, h.alarm, k.alarm]
    simp only [calls_append, List.mem_append, or_and_right, exists_or]
    exact or_or_or_comm
  · simp only [alarms_append, calls_append, List.mem_append, or_and_right, exists_or, h.error,
      k.error]

end Trail

namespace World

/-- The alarms of the history, in order. -/
def alarms (s : World ρ) : List Event :=
  s.history.filterMap Record.alarm?

/-- The trail of all that happened. -/
def trail (s : World ρ) : Trail :=
  ⟨s.calls, s.alarms⟩

theorem trail_of_history (same : t.history = s.history) : t.trail = s.trail := by
  simp only [trail, calls, alarms, same]

/-- What a record adds to the trail. -/
theorem trail_record (s : World ρ) (w : Worker) (h : Happening) :
    (s.record w h).trail = s.trail ++
      { calls := match h with
          | .call c => [c]
          | _ => []
        alarms := (Record.alarm? ⟨w, h⟩).toList } := by
  refine Trail.ext (calls_record s w h) ?_
  simp only [trail, alarms, history_record, List.filterMap_append, Trail.alarms_append]
  cases found : Record.alarm? ⟨w, h⟩ <;> simp [found]

theorem trail_mild (s : World ρ) (w : Worker) {e : Event} (mild : e.severity.isAlarm = false) :
    (s.record w (.event e)).trail = s.trail := by
  rw [trail_record]
  simp [Record.alarm?, mild]

theorem trail_alarm (s : World ρ) (w : Worker) {e : Event} (alarm : e.severity.isAlarm = true) :
    (s.record w (.event e)).trail = s.trail ++ { alarms := [e] } := by
  rw [trail_record]
  simp [Record.alarm?, alarm]

theorem trail_span (s : World ρ) (w : Worker) (phase : SpanPhase) (span : Span) (n : Nat) :
    World.trail { s.record w (.span phase span) with spans := n } = s.trail :=
  (trail_record s w (.span phase span)).trans (Trail.append_empty _)

theorem trail_call (s : World ρ) (w : Worker) (c : Call) :
    (s.record w (.call c)).trail = s.trail ++ { calls := [c] } := by
  rw [trail_record]
  simp [Record.alarm?]

/-- If it is known which calls a trail adds, then its calls are known. -/
theorem calls_of_trail {own : Trail} {cs : List Call} (grown : t.trail = s.trail ++ own)
    (calls : t.calls = s.calls ++ cs) : own.calls = cs := by
  have same : t.calls = s.calls ++ own.calls := congrArg Trail.calls grown
  exact List.append_cancel_left (same.symm.trans calls)

/-- Only the slot of `w` changed, and it left no trail. -/
structure Plain (w : Worker) (s t : World ρ) : Prop extends Turned w s t where
  alarms : t.alarms = s.alarms

theorem Plain.trail (h : Plain w s t) : t.trail = s.trail :=
  Trail.ext h.calls h.alarms

theorem plain_repeats : Repeats (Plain (ρ := ρ)) where
  refl w s := ⟨turned_repeats.refl w s, rfl⟩
  trans h k := ⟨turned_repeats.trans h.toTurned k.toTurned, k.alarms.trans h.alarms⟩

theorem Turned.plain (h : Turned w s t) (same : t.trail = s.trail) : Plain w s t :=
  ⟨h, congrArg Trail.alarms same⟩

/-- From one world to the other a trail was left whose alarms follow from its calls and `odd`. -/
def Explained (odd : Prop) : Effect ρ := fun _ s t =>
  ∃ own, t.trail = s.trail ++ own ∧ own.Explains odd

theorem Explained.of_grown {odd : Prop} {own : Trail} (h : Explained odd w s t)
    (grown : t.trail = s.trail ++ own) : own.Explains odd := by
  obtain ⟨own', grown', explains⟩ := h
  rwa [Trail.append_left_cancel (grown.symm.trans grown')]

theorem Plain.explained (h : Plain w s t) : Explained False w s t :=
  ⟨{}, by rw [h.trail, Trail.append_empty], Trail.explains_empty⟩

end World

open World AmbientTx.Action

theorem Action.Keeps.map {β : Type} {R : Effect ρ} {x : Action ρ α} (h : Keeps R x) (g : α → β) :
    Keeps R (x >>= fun a => Pure.pure (g a)) := by
  intro w s r ran
  obtain ⟨q, inner, rfl⟩ := map_eq_ok.1 ran
  exact h inner

/-! ## What leaves no trail -/

theorem log_plain {e : Event} (mild : e.severity.isAlarm = false) :
    Calm Plain (Action.log e : Action ρ Unit) := by
  have tame : e.isStray = false := by
    cases e with
    | guardFoundInactive error => cases mild
    | _ => rfl
  exact Calm.modify fun w s => (turned_event w s tame).plain (trail_mild s w mild)

namespace Ambient

theorem write_plain (f : Slot → Slot) : Calm Plain (write f : Action ρ Unit) :=
  Calm.modify fun w s =>
    (turned_mapSlot w s f).plain (trail_of_history (history_mapSlot s w f))

theorem current_plain : Calm Plain (current : Action ρ (Option Xid)) :=
  Calm.read plain_repeats _ current_run

theorem bind_plain (x : Xid) : Calm Plain (bind x : Action ρ (Option Xid)) :=
  Calm.bind plain_repeats (log_plain rfl) fun _ => Calm.bind plain_repeats current_plain fun a =>
    Calm.bind plain_repeats (write_plain _) fun _ => Calm.pure plain_repeats a

theorem unbind_plain : Calm Plain (unbind : Action ρ (Option Xid)) := by
  refine Calm.bind plain_repeats current_plain fun removed =>
    Calm.bind plain_repeats (write_plain _) fun _ => ?_
  cases removed with
  | none => exact Calm.pure plain_repeats none
  | some x => exact Calm.bind plain_repeats (log_plain rfl) fun _ => Calm.pure plain_repeats _

theorem restore_plain (saved : Option Xid) : Calm Plain (restore saved : Action ρ Unit) := by
  cases saved with
  | none => exact Calm.bind plain_repeats unbind_plain fun _ => Calm.pure plain_repeats ()
  | some x => exact Calm.bind plain_repeats (bind_plain x) fun _ => Calm.pure plain_repeats ()

end Ambient

namespace Scope

theorem resume_plain (scope : Scope) :
    Calm Plain (Hook.scope.resume scope : Action ρ (Scope × Fate Unit)) := by
  have activated : Calm Plain (scope.activate : Action ρ (Except ScopeError Scope)) := by
    obtain ⟨captured, _ | saved⟩ := scope
    · refine Calm.bind plain_repeats Ambient.current_plain fun previous =>
        Calm.bind plain_repeats ?_ fun _ => Calm.pure plain_repeats _
      cases captured with
      | none => exact Calm.pure plain_repeats ()
      | some x =>
        exact Calm.bind plain_repeats (log_plain rfl) fun _ =>
          Calm.bind plain_repeats (Ambient.bind_plain x) fun _ => Calm.pure plain_repeats ()
    · exact Calm.pure plain_repeats _
  exact Calm.bind plain_repeats activated fun _ => Calm.pure plain_repeats _

theorem suspend_plain (scope : Scope) :
    Calm Plain (Hook.scope.suspend scope : Action ρ (Scope × Fate Unit)) := by
  have deactivated : Calm Plain (scope.deactivate : Action ρ (Except ScopeError Scope)) := by
    obtain ⟨captured, _ | saved⟩ := scope
    · exact Calm.pure plain_repeats _
    · have compared : Calm Plain (Ambient.isCurrent saved : Action ρ Bool) :=
        Calm.bind plain_repeats Ambient.current_plain fun _ => Calm.pure plain_repeats _
      refine Calm.bind plain_repeats compared fun same => ?_
      split
      · exact Calm.pure plain_repeats _
      · exact Calm.bind plain_repeats (log_plain rfl) fun _ =>
          Calm.bind plain_repeats (Ambient.restore_plain saved) fun _ => Calm.pure plain_repeats _
  exact Calm.bind plain_repeats deactivated fun _ => Calm.pure plain_repeats _

end Scope

theorem Span.mark_plain (phase : SpanPhase) (span : Option Span) :
    Calm Plain (Span.mark phase span : Action ρ Unit) := by
  cases span with
  | none => exact Calm.pure plain_repeats ()
  | some span =>
    exact Calm.modify fun w s =>
      (turned_span w s phase span s.spans).plain (trail_span s w phase span s.spans)

theorem Span.create_plain (captured : Option Xid) :
    Calm Plain (Span.create? captured : Action ρ (Option Span)) := by
  cases captured with
  | none => exact Calm.pure plain_repeats none
  | some x =>
    have read : Calm Plain (Ambient.config : Action ρ ContextConfig) :=
      Calm.read plain_repeats (fun _ s => s.config) fun _ _ => rfl
    refine Calm.bind plain_repeats read fun config => ?_
    split
    · refine Calm.bind plain_repeats (Calm.read plain_repeats (fun _ s => s) fun _ _ => rfl)
        fun found => Calm.bind plain_repeats (Calm.modify fun w s => ?_) fun _ =>
          Calm.pure plain_repeats _
      exact (turned_span w s .created ⟨found.spans, x⟩ (s.spans + 1)).plain (trail_span ..)
    · exact Calm.pure plain_repeats none

namespace Carrier

theorem create_plain (scope : Scope) : Calm Plain (create scope : Action ρ Carrier) :=
  Calm.bind plain_repeats (Span.create_plain _) fun _ => Calm.pure plain_repeats _

theorem resume_plain (c : Carrier) :
    Calm Plain (hook.resume c : Action ρ (Carrier × Fate Unit)) := by
  refine Calm.bind plain_repeats (Span.mark_plain .entered c.span) fun _ =>
    Calm.bind plain_repeats (Scope.resume_plain c.scope) fun turned => ?_
  obtain ⟨scope, ⟨⟩ | p⟩ := turned
  · exact Calm.pure plain_repeats _
  · exact Calm.bind plain_repeats (Span.mark_plain .exited c.span) fun _ =>
      Calm.pure plain_repeats _

theorem suspend_plain (c : Carrier) :
    Calm Plain (hook.suspend c : Action ρ (Carrier × Fate Unit)) :=
  Calm.bind plain_repeats (Scope.suspend_plain c.scope) fun _ =>
    Calm.bind plain_repeats (Span.mark_plain .exited c.span) fun _ => Calm.pure plain_repeats _

end Carrier

theorem Part.bind_plain (part : Part) : Calm Plain (part.bind : Action ρ Unit) := by
  cases part with
  | joined x => exact Calm.pure plain_repeats ()
  | launched l =>
    exact Calm.bind plain_repeats (Ambient.bind_plain l.xid) fun _ => Calm.pure plain_repeats ()

/-! ## What leaves one -/

namespace Manager

/-- Asking a manager adds one call to the trail, and the code goes on with the answer. -/
def Asks (x : Action ρ (Except ManagerFailure α)) (m : ManagerName) (e : Answer α → Exchange) :
    Prop :=
  ∀ w s, ∃ answer t, x w s = .ok ⟨answer.fate, t⟩ ∧
    t.trail = s.trail ++ { calls := [⟨m, s.bound w, e answer⟩] }

theorem launch_asks (m : ManagerName) (request : BeginRequest) :
    Asks (launch m request : Action ρ (Except ManagerFailure Xid)) m (.launch request) :=
  fun w s => ⟨_, _, settle_run _ w _, trail_call (s.setManager m _) w _⟩

theorem commit_asks (m : ManagerName) (x : Xid) :
    Asks (commit m x : Action ρ (Except ManagerFailure GlobalStatus)) m (.commit x) :=
  fun w s => ⟨_, _, settle_run _ w _, trail_call (s.setManager m _) w _⟩

theorem rollback_asks (m : ManagerName) (x : Xid) :
    Asks (rollback m x : Action ρ (Except ManagerFailure GlobalStatus)) m (.rollback x) :=
  fun w s => ⟨_, _, settle_run _ w _, trail_call (s.setManager m _) w _⟩

end Manager

/-- Exactly these alarms were raised, and no manager was called. -/
def World.Raises (events : List Event) : Effect ρ := fun _ s t =>
  t.trail = s.trail ++ { alarms := events }

/-- An alarm is raised, or an event logged that is none. -/
theorem log_raises (e : Event) :
    Keeps (Raises (if e.severity.isAlarm then [e] else [])) (Action.log e : Action ρ Unit) := by
  intro w s r ran
  obtain rfl := Except.ok.inj ran
  show (s.record w (.event e)).trail = _
  cases alarm : e.severity.isAlarm with
  | true => exact trail_alarm s w alarm
  | false => exact (trail_mild s w alarm).trans (Trail.append_empty _).symm

/-- Code that warns first is explained if something is odd. -/
theorem explained_of_warned {β : Type} (e : Event) (warns : e.severity = .warning)
    {rest : Action ρ β} {odd : Prop} (after : Keeps (Explained odd) rest) :
    Keeps (Explained True) (Action.log e >>= fun _ => rest) := by
  intro w s r ran
  have told : (Action.log e : Action ρ Unit) w s =
    .ok ⟨.returned (), s.record w (.event e)⟩ := rfl
  rw [bind_of_returned told] at ran
  obtain ⟨own, grown, explains⟩ := after ran
  have warned : Trail.Explains { alarms := [e] } True := by
    constructor <;> simp [warns]
  have alarm : e.severity.isAlarm = true := by
    rw [warns]
    rfl
  refine ⟨{ alarms := [e] } ++ own, ?_, (warned.append explains).of_iff (by simp)⟩
  rw [grown, trail_alarm s w alarm, Trail.append_assoc]

/-- Code that asks a manager is explained if what it tells about each answer is. -/
theorem Manager.Asks.explained {β : Type} {x : Action ρ (Except ManagerFailure α)}
    {m : ManagerName} {e : Answer α → Exchange} (asks : Asks x m e)
    {f : Except ManagerFailure α → Action ρ β} {odd : Prop} (told : Answer α → List Event)
    (granted : ∀ a, Keeps (Raises (told (.granted a))) (f (.ok a)))
    (refused : ∀ failure, Keeps (Raises (told (.refused failure))) (f (.error failure)))
    (panicked : ∀ p, told (.panicked p) = [])
    (explains : ∀ bound answer, Trail.Explains ⟨[⟨m, bound, e answer⟩], told answer⟩ odd) :
    Keeps (Explained odd) (x >>= f) := by
  intro w s r ran
  obtain ⟨answer, t, asked, grown⟩ := asks w s
  refine ⟨⟨[⟨m, s.bound w, e answer⟩], told answer⟩, ?_, explains _ answer⟩
  have after : r.world.trail = t.trail ++ { alarms := told answer } := by
    cases answer with
    | granted a =>
      rw [bind_of_returned asked] at ran
      exact granted a ran
    | refused failure =>
      rw [bind_of_returned asked] at ran
      exact refused failure ran
    | panicked p =>
      rw [bind_of_unwound asked] at ran
      obtain rfl := Except.ok.inj ran
      rw [panicked]
      exact (Trail.append_empty _).symm
  rw [after, grown]
  exact Trail.ext (by simp) (by simp)

namespace Launch

/-- The alarms about the answer to a commit. -/
def commitAlarms (x : Xid) : Answer GlobalStatus → List Event
  | .granted status => if status.isCommitted then [] else [.oddCommit x status]
  | .refused failure => [.commitFailed x failure]
  | .panicked _ => []

/-- The alarms about the answer to a rollback. -/
def rollbackAlarms (x : Xid) (failed : ManagerFailure → Event) : Answer GlobalStatus → List Event
  | .granted status => if status.isRolledBack then [] else [.oddRollback x status]
  | .refused failure => [failed failure]
  | .panicked _ => []

theorem commitAlarms_explains (m : ManagerName) (x : Xid) (bound : Option Xid)
    (answer : Answer GlobalStatus) :
    Trail.Explains ⟨[⟨m, bound, .commit x answer⟩], commitAlarms x answer⟩ False := by
  cases answer with
  | granted status =>
    cases committed : status.isCommitted <;>
      constructor <;>
        simp [commitAlarms, Exchange.isBad, Exchange.refusesRollback, committed, Event.severity]
  | refused failure =>
    constructor <;>
      simp [commitAlarms, Exchange.isBad, Exchange.refusesRollback, Event.severity]
  | panicked p =>
    constructor <;> simp [commitAlarms, Exchange.isBad, Exchange.refusesRollback]

theorem rollbackAlarms_explains (m : ManagerName) (x : Xid) {failed : ManagerFailure → Event}
    (error : ∀ failure, (failed failure).severity = .error) (bound : Option Xid)
    (answer : Answer GlobalStatus) :
    Trail.Explains ⟨[⟨m, bound, .rollback x answer⟩], rollbackAlarms x failed answer⟩ False := by
  cases answer with
  | granted status =>
    cases rolledBack : status.isRolledBack <;>
      constructor <;>
        simp [rollbackAlarms, Exchange.isBad, Exchange.refusesRollback, rolledBack,
          Event.severity]
  | refused failure =>
    constructor <;>
      simp [rollbackAlarms, Exchange.isBad, Exchange.refusesRollback, error failure]
  | panicked p =>
    constructor <;> simp [rollbackAlarms, Exchange.isBad, Exchange.refusesRollback]

theorem logCommit_raises (x : Xid) (status : GlobalStatus) :
    Keeps (Raises (commitAlarms x (.granted status))) (logCommit x status : Action ρ Unit) := by
  have told := log_raises (ρ := ρ)
    (if status.isCommitted then .committed x status else .oddCommit x status)
  cases committed : status.isCommitted with
  | true => simpa [logCommit, commitAlarms, committed, Event.severity, Severity.isAlarm] using told
  | false => simpa [logCommit, commitAlarms, committed, Event.severity, Severity.isAlarm] using told

theorem logRollback_raises (x : Xid) (failed : ManagerFailure → Event) (status : GlobalStatus) :
    Keeps (Raises (rollbackAlarms x failed (.granted status)))
      (logRollback x status : Action ρ Unit) := by
  have told := log_raises (ρ := ρ)
    (if status.isRolledBack then .rolledBack x status else .oddRollback x status)
  cases rolledBack : status.isRolledBack with
  | true =>
    simpa [logRollback, rollbackAlarms, rolledBack, Event.severity, Severity.isAlarm] using told
  | false =>
    simpa [logRollback, rollbackAlarms, rolledBack, Event.severity, Severity.isAlarm] using told

/-- Completing raises an alarm only about the answer that it got. -/
theorem complete_explained (l : Launch) (outcome : Except ε α) :
    Keeps (Explained False) (l.complete outcome : Action ρ (Except (CallError ε) α)) := by
  cases outcome with
  | ok a =>
    refine (Manager.commit_asks l.manager l.xid).explained (commitAlarms l.xid) ?_ ?_ (fun _ => rfl)
      (commitAlarms_explains l.manager l.xid)
    · intro status
      exact (logCommit_raises l.xid status).map _
    · intro failure
      exact (log_raises (.commitFailed l.xid failure)).map _
  | error b =>
    refine (Manager.rollback_asks l.manager l.xid).explained
      (rollbackAlarms l.xid (.rollbackFailed l.xid)) ?_ ?_ (fun _ => rfl)
      (rollbackAlarms_explains l.manager l.xid fun _ => rfl)
    · intro status
      exact (logRollback_raises l.xid _ status).map _
    · intro failure
      exact (log_raises (.rollbackFailed l.xid failure)).map _

/-- Abandoning always raises an alarm: it is odd that a launcher ends so. -/
theorem abandon_explained (l : Launch) :
    Keeps (Explained True) (l.abandon : Action ρ Unit) := by
  apply explained_of_warned (.abandoned l.xid) rfl
  refine (Manager.rollback_asks l.manager l.xid).explained
    (rollbackAlarms l.xid (.abandonedRollbackFailed l.xid)) ?_ ?_ (fun _ => rfl)
    (rollbackAlarms_explains l.manager l.xid fun _ => rfl)
  · intro status
    exact logRollback_raises l.xid _ status
  · intro failure
    exact log_raises (.abandonedRollbackFailed l.xid failure)

/-- Releasing calls no manager, and raises an alarm if another transaction is bound. -/
theorem release_explained (l : Launch) (w : Worker) (s : World ρ) :
    ∃ own t, l.release w s = .ok ⟨.returned (), t⟩ ∧ t.trail = s.trail ++ own ∧
      own.calls = [] ∧ own.Explains (∃ x, s.bound w = some x ∧ x ≠ l.xid) := by
  obtain ⟨t, unbound, turned, -⟩ := Ambient.unbind_run w s
  have plain : t.trail = s.trail := (Ambient.unbind_plain.keeps unbound).trail
  have quiet (fine : ¬ ∃ x, s.bound w = some x ∧ x ≠ l.xid) :
      Trail.Explains {} (∃ x, s.bound w = some x ∧ x ≠ l.xid) :=
    Trail.explains_empty.of_iff (iff_of_false not_false fine)
  have same : t.trail = s.trail ++ ({} : Trail) := plain.trans (Trail.append_empty _).symm
  rw [release, bind_of_returned unbound]
  cases bound : s.bound w with
  | none =>
    rw [bound] at quiet
    exact ⟨{}, t, rfl, same, rfl, quiet (by simp)⟩
  | some found =>
    rw [bound] at quiet
    by_cases own : found = l.xid
    · refine ⟨{}, t, by simp only [if_pos own]; rfl, same, rfl, quiet ?_⟩
      simp [own]
    · refine ⟨{ alarms := [.rebound l.xid found] }, t.record w (.event (.rebound l.xid found)),
        by simp only [if_neg own]; rfl, ?_, rfl, ?_⟩
      · rw [trail_alarm t w rfl, plain]
      · constructor <;> simp [own, Event.severity]

end Launch

namespace Part

/-- The calls that close the part of a call in a transaction: it has to close what it launched. -/
def closing (part : Part) (bound : Option Xid) (succeeded : Bool)
    (answer : Answer GlobalStatus) : List Call :=
  match part with
  | .joined _ => []
  | .launched l => [⟨l.manager, bound, .closing succeeded l.xid answer⟩]

/-- The calls that got a call its part. -/
def opening (part : Part) (request : BeginRequest) : List Call :=
  match part with
  | .joined _ => []
  | .launched l => [⟨l.manager, none, .launch request (.granted l.xid)⟩]

theorem complete_explained (part : Part) (outcome : Except ε α) :
    Keeps (Explained False) (part.complete outcome : Action ρ (Except (CallError ε) α)) := by
  cases part with
  | joined x => exact (Calm.pure plain_repeats _).keeps.mono Plain.explained
  | launched l => exact l.complete_explained outcome

/-- It is odd only for a launcher that its business does not return. -/
theorem abandon_explained (part : Part) :
    Keeps (Explained (∃ l, part = .launched l)) (part.abandon : Action ρ Unit) := by
  intro w s r ran
  cases part with
  | joined x =>
    obtain ⟨own, grown, explains⟩ :=
      ((Calm.pure plain_repeats ()).keeps ran : Plain w s r.world).explained
    exact ⟨own, grown, explains.of_iff (by simp)⟩
  | launched l =>
    obtain ⟨own, grown, explains⟩ := l.abandon_explained ran
    exact ⟨own, grown, explains.of_iff (by simp)⟩

theorem complete_calls (part : Part) {outcome : Except ε α} {r : Ran ρ (Except (CallError ε) α)}
    (ran : part.complete outcome w s = .ok r) :
    ∃ answer, r.world.calls = s.calls ++ part.closing (s.bound w) outcome.isOk answer := by
  cases part with
  | joined x =>
    obtain rfl := pure_eq_ok.1 ran
    exact ⟨.granted .finished, (List.append_nil _).symm⟩
  | launched l =>
    obtain ⟨t, completed, closed⟩ := l.complete_run outcome w s
    obtain rfl := Except.ok.inj (completed.symm.trans ran)
    exact ⟨_, closed.calls⟩

theorem abandon_calls (part : Part) {r : Ran ρ Unit} (ran : part.abandon w s = .ok r) :
    ∃ answer, r.world.calls = s.calls ++ part.closing (s.bound w) false answer := by
  cases part with
  | joined x =>
    obtain rfl := pure_eq_ok.1 ran
    exact ⟨.granted .finished, (List.append_nil _).symm⟩
  | launched l =>
    obtain ⟨t, abandoned, closed⟩ := l.abandon_run w s
    obtain rfl := Except.ok.inj (abandoned.symm.trans ran)
    exact ⟨_, closed.calls⟩

end Part

/-! ## Starting -/

/-- The alarms about the answer to a begin. -/
def Template.beginAlarms (info : CallInfo) : Answer Xid → List Event
  | .refused failure => [.beginFailed info.name failure]
  | .granted _ | .panicked _ => []

theorem Template.launch_explained (t : Template) (info : CallInfo) :
    Keeps (Explained False) (t.launch info : Action ρ (Except (CallError ε) Launch)) := by
  intro w s r ran
  rw [launch, bind_of_returned (t.managerInUse_run w s)] at ran
  cases found : t.manager.or s.installed with
  | none =>
    rw [found] at ran
    obtain rfl := pure_eq_ok.1 ran
    exact (plain_repeats.refl w s).explained
  | some m =>
    rw [found] at ran
    simp only at ran
    rw [bind_of_returned (t.timeoutInUse_run info w s)] at ran
    refine (Manager.launch_asks m _).explained (beginAlarms info) ?_ ?_ (fun _ => rfl) ?_ ran
    · intro x
      exact (log_raises (.began x info.name _)).map _
    · intro failure
      exact (log_raises (.beginFailed info.name failure)).map _
    · intro bound answer
      cases answer <;> constructor <;>
        simp [beginAlarms, Exchange.isBad, Exchange.refusesRollback, Event.severity]

/-- Starting a call raises an alarm exactly if a manager refused to begin. -/
theorem Template.start_explained (t : Template) (info : CallInfo) :
    Keeps (Explained False) (t.start info : Action ρ (Except (CallError ε) Part)) := by
  intro w s r ran
  rw [start, bind_of_returned (Ambient.current_run w s)] at ran
  cases bound : s.bound w with
  | some x =>
    rw [bound] at ran
    have joined : Keeps Plain (do
        Action.log (.joined x info.name)
        return .ok (.joined x) : Action ρ (Except (CallError ε) Part)) :=
      (Calm.bind plain_repeats (log_plain rfl) fun _ => Calm.pure plain_repeats _).keeps
    exact (joined ran).explained
  | none =>
    rw [bound] at ran
    exact (t.launch_explained info).map _ ran

/-- A call that takes part made the calls that got it its part. -/
theorem Template.Starts.opening {t : Template} {info : CallInfo} {part : Part}
    (starts : t.Starts (ε := ε) info w s (.returned (.ok part)) u) :
    u.calls = s.calls ++ part.opening (t.request info s.config (s.slot w)) := by
  generalize started : (.returned (.ok part) : Fate (Except (CallError ε) Part)) = fate at starts
  cases starts with
  | joins bound =>
    cases started
    exact (calls_event s w _).trans (List.append_nil _).symm
  | unmanaged unbound missing => cases started
  | @asks m answer _ unbound found called =>
    cases answer with
    | granted x =>
      cases started
      rw [called.calls, unbound]
      rfl
    | refused e => cases started
    | panicked p => cases started

/-- A call that takes no part made at most one call, which began nothing. -/
theorem Template.Starts.unopened {t : Template} {info : CallInfo}
    {fate : Fate (Except (CallError ε) Part)} (starts : t.Starts info w s fate u)
    (refused : ∀ part, fate ≠ .returned (.ok part)) :
    u.calls = s.calls ++ [] ∨ ∃ m answer, (∀ x, answer ≠ .granted x) ∧
      u.calls = s.calls ++ [⟨m, none, .launch (t.request info s.config (s.slot w)) answer⟩] := by
  cases starts with
  | joins bound => exact absurd rfl (refused _)
  | unmanaged unbound missing => exact .inl (List.append_nil _).symm
  | @asks m answer _ unbound found called =>
    refine .inr ⟨m, answer, ?_, unbound ▸ called.calls⟩
    rintro x rfl
    exact refused _ rfl

end AmbientTx
