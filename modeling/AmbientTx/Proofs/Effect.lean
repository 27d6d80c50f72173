import AmbientTx.Proofs.Call
import AmbientTx.System

/-! # Effects of everything that the library does

An effect that the events, the bindings, the spans and the manager calls of the library have
(`World.Pervades`) is an effect of all that is built from them: of scopes and carriers, of
transactional calls, of the way in and the way out of a poll, of drops, and so of every step of a
system that performs no operation of a client (`Pervades.step`). What marks no span has the effect
even if spans do not (`World.Underlies`), and what begins no transaction has it even if beginning
one does not (`World.Carries`). Nothing is asked about beginning a transaction while another one is
bound, for no call does that.
-/

namespace AmbientTx

variable {ρ κ α ε : Type} {R : Effect ρ}

open World AmbientTx.Action

/-- An effect of the pieces that the library is made of, but for spans and for beginning a
transaction. -/
structure World.Grounds (R : Effect ρ) : Prop where
  repeats : Repeats R
  /-- An event that is not about a binding. -/
  event : ∀ w s e, e.rebinds? = none → R w s (s.record w (.event e))
  bind : ∀ x, Keeps R (Ambient.bind x)
  unbind : Keeps R Ambient.unbind
  commit : ∀ m x, Keeps R (Manager.commit m x)
  rollback : ∀ m x, Keeps R (Manager.rollback m x)

/-- An effect of the pieces that the library is made of, but for spans. -/
structure World.Underlies (R : Effect ρ) : Prop extends Grounds R where
  /-- A transaction is begun where none is bound. -/
  launch : ∀ m request {w s r}, s.bound w = none → Manager.launch m request w s = .ok r →
    R w s r.world

/-- An effect of the pieces that the library is made of, but for beginning a transaction. -/
structure World.Carries (R : Effect ρ) : Prop extends Grounds R where
  span : ∀ w s phase span n, R w s { s.record w (.span phase span) with spans := n }

/-- An effect of all pieces that the library is made of. -/
structure World.Pervades (R : Effect ρ) : Prop extends Underlies R, Carries R

namespace World.Grounds

/-! ## Scopes -/

theorem log (h : Grounds R) {e : Event} (quiet : e.rebinds? = none) :
    Keeps R (Action.log e) :=
  (Calm.modify fun w s => h.event w s e quiet).keeps

theorem current (h : Grounds R) : Keeps R (Ambient.current : Action ρ (Option Xid)) :=
  (Calm.read h.repeats (fun w s => s.bound w) fun _ _ => rfl).keeps

theorem restore (h : Grounds R) (saved : Option Xid) : Keeps R (Ambient.restore saved) := by
  cases saved with
  | none => exact Keeps.bind h.repeats h.unbind fun _ => Keeps.pure h.repeats ()
  | some x => exact Keeps.bind h.repeats (h.bind x) fun _ => Keeps.pure h.repeats ()

theorem activate (h : Grounds R) (scope : Scope) : Keeps R scope.activate := by
  obtain ⟨captured, _ | saved⟩ := scope
  · refine Keeps.bind h.repeats h.current fun previous =>
      Keeps.bind h.repeats ?_ fun _ => Keeps.pure h.repeats _
    cases captured with
    | none => exact Keeps.pure h.repeats ()
    | some x =>
      exact Keeps.bind h.repeats (h.log rfl) fun _ =>
        Keeps.bind h.repeats (h.bind x) fun _ => Keeps.pure h.repeats ()
  · exact Keeps.pure h.repeats _

theorem deactivate (h : Grounds R) (scope : Scope) : Keeps R scope.deactivate := by
  obtain ⟨captured, _ | saved⟩ := scope
  · exact Keeps.pure h.repeats _
  · refine Keeps.bind h.repeats
      (Keeps.bind h.repeats h.current fun _ => Keeps.pure h.repeats _) fun same => ?_
    split
    · exact Keeps.pure h.repeats _
    · exact Keeps.bind h.repeats (h.log rfl) fun _ =>
        Keeps.bind h.repeats (h.restore saved) fun _ => Keeps.pure h.repeats _

theorem scopeRelease (h : Grounds R) (scope : Scope) : Keeps R scope.release := by
  refine Keeps.bind h.repeats (h.deactivate scope) fun outcome => ?_
  cases outcome with
  | ok scope => exact Keeps.pure h.repeats scope
  | error e => exact Keeps.bind h.repeats (h.log rfl) fun _ => Keeps.pure h.repeats scope

theorem scopeResume (h : Grounds R) (scope : Scope) : Keeps R (Hook.scope.resume scope) :=
  Keeps.bind h.repeats (h.activate scope) fun _ => Keeps.pure h.repeats _

theorem scopeSuspend (h : Grounds R) (scope : Scope) : Keeps R (Hook.scope.suspend scope) :=
  Keeps.bind h.repeats (h.deactivate scope) fun _ => Keeps.pure h.repeats _

/-! ## Transactional calls -/

theorem logCommit (h : Grounds R) (x : Xid) (status : GlobalStatus) :
    Keeps R (Launch.logCommit x status) := by
  refine h.log ?_
  split <;> rfl

theorem logRollback (h : Grounds R) (x : Xid) (status : GlobalStatus) :
    Keeps R (Launch.logRollback x status) := by
  refine h.log ?_
  split <;> rfl

theorem complete (h : Grounds R) (part : Part) (outcome : Except ε α) :
    Keeps R (part.complete outcome) := by
  rcases part with x | l
  · exact Keeps.pure h.repeats _
  · rcases outcome with b | a
    · refine Keeps.bind h.repeats (h.rollback l.manager l.xid) fun answer => ?_
      cases answer with
      | error e => exact Keeps.bind h.repeats (h.log rfl) fun _ => Keeps.pure h.repeats _
      | ok status =>
        exact Keeps.bind h.repeats (h.logRollback l.xid status) fun _ => Keeps.pure h.repeats _
    · refine Keeps.bind h.repeats (h.commit l.manager l.xid) fun answer => ?_
      cases answer with
      | error e => exact Keeps.bind h.repeats (h.log rfl) fun _ => Keeps.pure h.repeats _
      | ok status =>
        exact Keeps.bind h.repeats (h.logCommit l.xid status) fun _ => Keeps.pure h.repeats _

theorem abandon (h : Grounds R) (part : Part) : Keeps R part.abandon := by
  cases part with
  | joined x => exact Keeps.pure h.repeats ()
  | launched l =>
    refine Keeps.bind h.repeats (h.log rfl) fun _ =>
      Keeps.bind h.repeats (h.rollback l.manager l.xid) fun answer => ?_
    cases answer with
    | error e => exact h.log rfl
    | ok status => exact h.logRollback l.xid status

theorem bindPart (h : Grounds R) (part : Part) : Keeps R part.bind := by
  cases part with
  | joined x => exact Keeps.pure h.repeats ()
  | launched l => exact Keeps.bind h.repeats (h.bind l.xid) fun _ => Keeps.pure h.repeats ()

theorem release (h : Grounds R) (part : Part) : Keeps R part.release := by
  cases part with
  | joined x => exact Keeps.pure h.repeats ()
  | launched l =>
    refine Keeps.bind h.repeats h.unbind fun removed => ?_
    cases removed with
    | none => exact Keeps.pure h.repeats ()
    | some found =>
      show Keeps R (if found = l.xid then _ else _)
      split
      · exact Keeps.pure h.repeats ()
      · exact h.log rfl

theorem leave (h : Grounds R) (part : Part) (fate : Fate (Except ε α)) :
    Keeps R (part.leave fate) := by
  cases fate with
  | returned outcome =>
    exact Keeps.ensuring h.repeats (h.complete part outcome) (h.release part)
  | unwound p =>
    exact Keeps.ensuring h.repeats (Keeps.panic h.repeats p)
      (Keeps.bind h.repeats (h.release part) fun _ => h.abandon part)

/-! ## What becomes of a task -/

theorem drop (h : Grounds R) (t : Task κ) : Keeps R t.drop := by
  induction t with
  | plain future => exact Keeps.pure h.repeats ()
  | carried carrier inner ih => exact ih
  | fresh t info business ih => exact ih
  | called part carrier business ih => exact Keeps.ensuring h.repeats ih (h.abandon part)
  | ended => exact Keeps.pure h.repeats ()

theorem endWith (h : Grounds R) (fate : Fate (Progress α)) {dropped : Action ρ Unit}
    (kept : Keeps R dropped) : Keeps R (Task.endWith (κ := κ) fate dropped) :=
  Keeps.bind h.repeats (Keeps.attempt kept) fun _ =>
    Keeps.bind h.repeats (Keeps.settle h.repeats _ _) fun _ => Keeps.pure h.repeats _

theorem afterBusiness (h : Grounds R) (part : Part) (carrier : Carrier) (polled : Polled κ α) :
    Keeps R (Task.afterBusiness part carrier polled) := by
  obtain ⟨business, (_ | outcome) | p⟩ := polled
  · exact Keeps.pure h.repeats _
  · exact Keeps.bind h.repeats (Keeps.attempt (h.complete part outcome)) fun _ =>
      Keeps.pure h.repeats _
  · exact h.endWith _ (Keeps.ensuring h.repeats (h.drop business) (h.abandon part))

theorem settleUnder (h : Grounds R) (part : Option Part) (carrier : Carrier)
    (polled : Polled κ α) : Keeps R (Task.settleUnder part carrier polled) := by
  cases part with
  | none => exact Keeps.pure h.repeats _
  | some part => exact h.afterBusiness part carrier polled

/-! ## Operations -/

theorem operate (h : Grounds R) {op : Operation}
    (slot : ∀ inner, op = .slot inner → Keeps R inner.perform)
    (shared : ∀ inner, op = .shared inner → Keeps R inner.perform) :
    Keeps R (op.perform : Action ρ Unit) := by
  cases op with
  | slot op => exact Keeps.bind h.repeats (slot op rfl) fun _ => Keeps.pure h.repeats ()
  | shared op => exact Keeps.bind h.repeats (shared op rfl) fun _ => Keeps.pure h.repeats ()
  | activate scope => exact Keeps.bind h.repeats (h.activate scope) fun _ => Keeps.pure h.repeats ()
  | deactivate scope =>
    exact Keeps.bind h.repeats (h.deactivate scope) fun _ => Keeps.pure h.repeats ()
  | resume scope =>
    exact Keeps.bind h.repeats (h.scopeResume scope) fun _ => Keeps.pure h.repeats ()
  | suspend scope =>
    exact Keeps.bind h.repeats (h.scopeSuspend scope) fun _ => Keeps.pure h.repeats ()

end World.Grounds

namespace World.Underlies

/-! ## Calls that begin -/

/-- Looking up the manager and the timeout leaves the world alone, so the transaction is begun in
the world in which none is bound. -/
theorem launchCall (h : Underlies R) (t : Template) (info : CallInfo) {w : Worker} {s : World ρ}
    (unbound : s.bound w = none) {r : Ran ρ (Except (CallError ε) Launch)}
    (ran : t.launch info w s = .ok r) : R w s r.world := by
  rw [Template.launch, bind_of_returned (t.managerInUse_run w s)] at ran
  cases found : t.manager.or s.installed with
  | none =>
    rw [found] at ran
    exact Keeps.pure h.repeats _ ran
  | some m =>
    rw [found] at ran
    simp only at ran
    rw [bind_of_returned (t.timeoutInUse_run info w s)] at ran
    rcases bind_eq_ok.1 ran with ⟨answer, u, begun, after⟩ | ⟨p, u, begun, rfl⟩
    · refine h.repeats.trans (h.launch m _ unbound begun) ?_
      cases answer with
      | error e =>
        exact Keeps.bind h.repeats (h.log rfl) (fun _ => Keeps.pure h.repeats _) after
      | ok x =>
        exact Keeps.bind h.repeats (h.log rfl) (fun _ => Keeps.pure h.repeats _) after
    · exact h.launch m _ unbound begun

theorem start (h : Underlies R) (t : Template) (info : CallInfo) :
    Keeps R (t.start info : Action ρ (Except (CallError ε) Part)) := by
  intro w s r ran
  rw [Template.start, bind_of_returned (Ambient.current_run w s)] at ran
  cases bound : s.bound w with
  | some x =>
    rw [bound] at ran
    exact Keeps.bind h.repeats (h.log rfl) (fun _ => Keeps.pure h.repeats _) ran
  | none =>
    rw [bound] at ran
    rcases bind_eq_ok.1 ran with ⟨outcome, u, launched, after⟩ | ⟨p, u, launched, rfl⟩
    · obtain rfl := pure_eq_ok.1 after
      exact h.launchCall t info bound launched
    · exact h.launchCall t info bound launched

theorem enter (h : Underlies R) (t : Template) (info : CallInfo) :
    Keeps R (t.enter info : Action ρ (Except (CallError ε) Part)) := by
  refine Keeps.bind h.repeats (h.start t info) fun outcome => ?_
  cases outcome with
  | error e => exact Keeps.pure h.repeats _
  | ok part => exact Keeps.bind h.repeats (h.bindPart part) fun _ => Keeps.pure h.repeats _

end World.Underlies

namespace World.Carries

/-! ## Carriers -/

theorem mark (h : Carries R) (phase : SpanPhase) (span : Option Span) :
    Keeps R (Span.mark phase span) := by
  cases span with
  | none => exact Keeps.pure h.repeats ()
  | some span => exact (Calm.modify fun w s => h.span w s phase span s.spans).keeps

theorem createSpan (h : Carries R) (captured : Option Xid) :
    Keeps R (Span.create? captured) := by
  cases captured with
  | none => exact Keeps.pure h.repeats none
  | some x =>
    refine Keeps.bind h.repeats
      (Calm.read h.repeats (fun _ s => s.config) fun _ _ => rfl).keeps fun config => ?_
    split
    · refine Keeps.bind h.repeats
        (Calm.read h.repeats (fun _ s => s) fun _ _ => rfl).keeps fun found => ?_
      exact Keeps.bind h.repeats
        (Calm.modify fun w s => h.span w s .created ⟨found.spans, x⟩ (s.spans + 1)).keeps
        fun _ => Keeps.pure h.repeats _
    · exact Keeps.pure h.repeats none

theorem create (h : Carries R) (scope : Scope) : Keeps R (Carrier.create scope) :=
  Keeps.bind h.repeats (h.createSpan _) fun _ => Keeps.pure h.repeats _

theorem resume (h : Carries R) (c : Carrier) : Keeps R (Carrier.hook.resume c) := by
  refine Keeps.bind h.repeats (h.mark .entered c.span) fun _ =>
    Keeps.bind h.repeats (h.scopeResume c.scope) fun turned => ?_
  obtain ⟨scope, ⟨⟩ | p⟩ := turned
  · exact Keeps.pure h.repeats _
  · exact Keeps.bind h.repeats (h.mark .exited c.span) fun _ => Keeps.pure h.repeats _

theorem suspend (h : Carries R) (c : Carrier) : Keeps R (Carrier.hook.suspend c) :=
  Keeps.bind h.repeats (h.scopeSuspend c.scope) fun _ =>
    Keeps.bind h.repeats (h.mark .exited c.span) fun _ => Keeps.pure h.repeats _

/-! ## Polls -/

theorem reachUnder (h : Carries R) (part : Option Part) (carrier : Carrier) (inner : Task κ)
    {reach : Action ρ (List Layer × Reached κ α)} (kept : Keeps R reach) :
    Keeps R (Task.reachUnder part carrier inner reach) := by
  refine Keeps.bind h.repeats (h.resume carrier) fun resumed => ?_
  obtain ⟨carrier, ⟨⟩ | p⟩ := resumed
  · exact Keeps.bind h.repeats kept fun _ => Keeps.pure h.repeats _
  · exact Keeps.bind h.repeats (h.settleUnder part carrier _) fun _ => Keeps.pure h.repeats _

theorem close (h : Carries R) (layer : Layer) (polled : Polled κ α) :
    Keeps R (layer.close polled) :=
  Keeps.bind h.repeats
    (Keeps.bind h.repeats (h.suspend _) fun _ =>
      Keeps.bind h.repeats (Keeps.settle h.repeats _ _) fun _ => Keeps.pure h.repeats _)
    fun _ => h.settleUnder _ _ _

theorem closeAll (h : Carries R) (layers : List Layer) (polled : Polled κ α) :
    Keeps R (Layer.closeAll layers polled) := by
  induction layers with
  | nil => exact Keeps.pure h.repeats _
  | cons layer rest ih => exact Keeps.bind h.repeats ih fun _ => h.close layer _

end World.Carries

namespace World.Pervades

theorem reach (h : Pervades R) (t : Task κ) : Keeps R (t.reach (α := α)) := by
  induction t with
  | plain future => exact Keeps.pure h.repeats _
  | carried carrier inner ih => exact h.reachUnder none carrier inner ih
  | fresh t info business ih =>
    refine Keeps.bind h.repeats (Keeps.attempt (h.start t info)) fun outcome => ?_
    obtain (e | part) | p := outcome
    · exact Keeps.bind h.repeats (h.endWith _ (h.drop business)) fun _ => Keeps.pure h.repeats _
    · exact Keeps.bind h.repeats (h.create _) fun carrier =>
        h.reachUnder (some part) carrier business ih
    · exact Keeps.bind h.repeats (h.endWith _ (h.drop business)) fun _ => Keeps.pure h.repeats _
  | called part carrier business ih => exact h.reachUnder (some part) carrier business ih
  | ended => exact Keeps.pure h.repeats _

/-! ## Steps -/

/-- Every step but the operations of clients has the effect, if managers may change their minds
about their next answers. -/
theorem step_of_ne (h : Pervades R) {w : Worker} {mark : Mark} {c d : System ρ κ}
    (step : System.Step w mark c d) (other : mark ≠ .operates)
    (answers : ∀ w s m v, R w s (s.setManager m v)) : R w c.world d.world := by
  cases step with
  | operate op ran => exact absurd rfl other
  | answers m v => exact answers w _ m v
  | enter ran => exact h.activate _ ran
  | resume ran => exact h.scopeResume _ ran
  | release top ran => exact h.scopeRelease _ ran
  | suspend top ran => exact h.scopeSuspend _ ran
  | call t info ran => exact h.enter t info ran
  | refuse t info ran refused => exact h.enter t info ran
  | leave top fate ran => exact h.leave _ fate ran
  | future future => exact h.repeats.refl w _
  | carry perm scope ran =>
    exact Keeps.bind h.repeats (h.create scope) (fun _ => Keeps.pure h.repeats _) ran
  | wrap perm template info => exact h.repeats.refl w _
  | poll perm ran => exact h.reach _ ran
  | pass perm ran closed => exact h.repeats.trans (h.reach _ ran) (h.closeAll _ _ closed)
  | finish top future fate ran => exact h.closeAll _ _ ran
  | drop perm ran => exact h.drop _ ran

/-- Every step has the effect, if the operations of clients have it too. -/
theorem step (h : Pervades R) {w : Worker} {mark : Mark} {c d : System ρ κ}
    (step : System.Step w mark c d) (answers : ∀ w s m v, R w s (s.setManager m v))
    (operates : ∀ (op : Operation) (r : Ran ρ Unit), op.perform w c.world = .ok r →
      d = { c with world := r.world } → R w c.world r.world) :
    R w c.world d.world := by
  by_cases same : mark = .operates
  · subst same
    cases step with
    | operate op ran => exact operates op _ ran rfl
  · exact h.step_of_ne step same answers

end World.Pervades
end AmbientTx
