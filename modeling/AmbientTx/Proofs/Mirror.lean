import Mathlib.Data.List.Forall2
import AmbientTx.Proofs.Operation
import AmbientTx.Proofs.Pairing
import AmbientTx.Proofs.Poll

/-! # Worlds that the library cannot tell apart

Two worlds may differ in what is of no concern to the code at hand. If the pieces that the library
is made of keep a relation between worlds (`World.Mirrors`), then all that is built from them does:
it halts for the same reason, or ends the same way with the same value. The spans of carriers are
part of what may differ.

Only two things are not settled by that. A call that launches without a timeout of its own reads the
timeout of its worker, and some operations read more of the slot than what is bound: there the slots
have to be the same (`World.Sees`). And who asks for the configuration needs the same one
(`World.Tells`).
-/

namespace AmbientTx

variable {ρ κ α ε : Type} {w : Worker} {s t : World ρ} {A : World ρ → World ρ → Prop}
  {S : Option Span → Option Span → Prop}

open World AmbientTx.Action

namespace World

/-- The pieces of the library, run on `w`, keep worlds related by `A`, and carriers made in both
have spans related by `S`. -/
structure Mirrors (w : Worker) (A : World ρ → World ρ → Prop)
    (S : Option Span → Option Span → Prop) : Prop where
  bound : ∀ {s t}, A s t → t.bound w = s.bound w
  defaultMode : ∀ {s t}, A s t → t.config.defaultMode = s.config.defaultMode
  defaultTimeout : ∀ {s t}, A s t → t.config.defaultTimeout = s.config.defaultTimeout
  installed : ∀ {s t}, A s t → t.installed = s.installed
  managers : ∀ {s t}, A s t → t.managers = s.managers
  event : ∀ e {s t}, A s t → A (s.record w (.event e)) (t.record w (.event e))
  call : ∀ call {s t}, A s t → A (s.record w (.call call)) (t.record w (.call call))
  setManager : ∀ m v {s t}, A s t → A (s.setManager m v) (t.setManager m v)
  install : ∀ m {s t}, A s t → A { s with installed := m } { t with installed := m }
  /-- A write that does not mix the other entries into what is bound. -/
  write : ∀ f : Slot → Slot, (∀ a b, a.xid = b.xid → (f a).xid = (f b).xid) →
    ∀ {s t}, A s t → A (s.mapSlot w f) (t.mapSlot w f)
  create : ∀ captured, Coupled w A S (Span.create? captured) (Span.create? captured)
  mark : ∀ phase {a b}, S a b → Coupled w A Eq (Span.mark phase a) (Span.mark phase b)

/-- The worker reads the same slot in both worlds. -/
def Sees (w : Worker) (A : World ρ → World ρ → Prop) : Prop :=
  ∀ ⦃s t⦄, A s t → t.slot w = s.slot w

/-- The configuration is the same in both worlds, whichever is installed in both. -/
structure Tells (A : World ρ → World ρ → Prop) : Prop where
  config : ∀ {s t}, A s t → t.config = s.config
  configure : ∀ c {s t}, A s t → A { s with config := c } { t with config := c }

namespace Mirrors

/-! ## Operations on the slot -/

theorem logAll (h : Mirrors w A S) (events : List Event) {s t : World ρ} (worlds : A s t) :
    A (s.logAll w events) (t.logAll w events) := by
  induction events generalizing s t with
  | nil => simpa only [logAll_nil] using worlds
  | cons e rest ih =>
    rw [← logAll_record, ← logAll_record]
    exact ih (h.event e worlds)

/-- An operation on the slot, if it returns and logs the same in both worlds. -/
theorem does (h : Mirrors w A S) {x : Action ρ α} {reads : ContextConfig → Slot → α}
    {writes : Slot → Slot} {logs : Slot → List Event} (does : Ambient.Does x reads writes logs)
    (unmixed : ∀ a b : Slot, a.xid = b.xid → (writes a).xid = (writes b).xid) (worlds : A s t)
    (read : reads t.config (t.slot w) = reads s.config (s.slot w))
    (told : logs (t.slot w) = logs (s.slot w)) : Paired A Eq (x w s) (x w t) := by
  rw [does, does, read, told]
  exact .returned rfl (h.logAll _ (h.write writes unmixed worlds))

theorem log (h : Mirrors w A S) (e : Event) : Coupled w A Eq (Action.log e) (Action.log e) :=
  fun _ _ worlds => .returned rfl (h.event e worlds)

theorem current (h : Mirrors w A S) : Coupled w A Eq Ambient.current Ambient.current :=
  fun _ _ worlds => .returned (h.bound worlds).symm worlds

theorem bind (h : Mirrors w A S) (x : Xid) : Coupled w A Eq (Ambient.bind x) (Ambient.bind x) :=
  fun _ _ worlds => h.does (Ambient.bind_does x) (fun _ _ _ => rfl) worlds (h.bound worlds) rfl

theorem unbind (h : Mirrors w A S) : Coupled w A Eq Ambient.unbind Ambient.unbind :=
  fun _ _ worlds => h.does Ambient.unbind_does (fun _ _ _ => rfl) worlds (h.bound worlds)
    (congrArg (fun found : Option Xid => (found.map Event.unbound).toList) (h.bound worlds))

theorem restore (h : Mirrors w A S) (saved : Option Xid) :
    Coupled w A Eq (Ambient.restore saved) (Ambient.restore saved) := by
  cases saved with
  | none => exact h.unbind.bind_eq fun _ => Coupled.pure rfl
  | some x => exact (h.bind x).bind_eq fun _ => Coupled.pure rfl

/-! ## Scopes -/

theorem activate (h : Mirrors w A S) (scope : Scope) :
    Coupled w A Eq scope.activate scope.activate := by
  obtain ⟨captured, _ | saved⟩ := scope
  · refine h.current.bind_eq fun previous => Coupled.bind_eq ?_ fun _ => Coupled.pure rfl
    cases captured with
    | none => exact Coupled.pure rfl
    | some x =>
      exact (h.log _).bind_eq fun _ => (h.bind x).bind_eq fun _ => Coupled.pure rfl
  · exact Coupled.pure rfl

theorem deactivate (h : Mirrors w A S) (scope : Scope) :
    Coupled w A Eq scope.deactivate scope.deactivate := by
  obtain ⟨captured, _ | saved⟩ := scope
  · exact Coupled.pure rfl
  · refine (h.current.bind_eq fun _ => Coupled.pure rfl).bind_eq fun same => ?_
    split
    · exact Coupled.pure rfl
    · exact (h.log _).bind_eq fun _ => (h.restore saved).bind_eq fun _ => Coupled.pure rfl

theorem scopeRelease (h : Mirrors w A S) (scope : Scope) :
    Coupled w A Eq scope.release scope.release := by
  refine (h.deactivate scope).bind_eq fun outcome => ?_
  cases outcome with
  | ok scope => exact Coupled.pure rfl
  | error e => exact (h.log _).bind_eq fun _ => Coupled.pure rfl

theorem scopeResume (h : Mirrors w A S) (scope : Scope) :
    Coupled w A Eq (Hook.scope.resume scope) (Hook.scope.resume scope) :=
  (h.activate scope).bind_eq fun _ => Coupled.pure rfl

theorem scopeSuspend (h : Mirrors w A S) (scope : Scope) :
    Coupled w A Eq (Hook.scope.suspend scope) (Hook.scope.suspend scope) :=
  (h.deactivate scope).bind_eq fun _ => Coupled.pure rfl

/-! ## Calls to a manager -/

/-- A manager gives the same answer, for it has the same answers left. -/
theorem called (h : Mirrors w A S) {m : ManagerName} {e : Answer α → Exchange}
    (next : Manager → Answer α) (after : Manager → Manager)
    {x : Action ρ (Except ManagerFailure α)}
    (ran : ∀ w s, x w s = .ok ⟨(next (s.managers m)).fate,
      (s.setManager m (after (s.managers m))).record w
        (.call ⟨m, s.bound w, e (next (s.managers m))⟩)⟩) : Coupled w A Eq x x := by
  intro s t worlds
  rw [ran, ran, h.managers worlds, h.bound worlds]
  exact .ended (.refl _) (h.call _ (h.setManager m _ worlds))

theorem launch (h : Mirrors w A S) (m : ManagerName) (request : BeginRequest) :
    Coupled w A Eq (Manager.launch m request) (Manager.launch m request) :=
  h.called (fun v => v.begins.next) (fun v => { v with begins := v.begins.advance })
    fun w _ => Manager.settle_run _ w _

theorem commit (h : Mirrors w A S) (m : ManagerName) (x : Xid) :
    Coupled w A Eq (Manager.commit m x) (Manager.commit m x) :=
  h.called (fun v => v.commits.next) (fun v => { v with commits := v.commits.advance })
    fun w _ => Manager.settle_run _ w _

theorem rollback (h : Mirrors w A S) (m : ManagerName) (x : Xid) :
    Coupled w A Eq (Manager.rollback m x) (Manager.rollback m x) :=
  h.called (fun v => v.rollbacks.next) (fun v => { v with rollbacks := v.rollbacks.advance })
    fun w _ => Manager.settle_run _ w _

/-! ## Transactional calls -/

theorem complete (h : Mirrors w A S) (part : Part) (outcome : Except ε α) :
    Coupled w A Eq (part.complete outcome) (part.complete outcome) := by
  rcases part with x | l
  · exact Coupled.pure rfl
  · rcases outcome with b | a
    · refine (h.rollback l.manager l.xid).bind_eq fun answer => ?_
      cases answer <;> exact (h.log _).bind_eq fun _ => Coupled.pure rfl
    · refine (h.commit l.manager l.xid).bind_eq fun answer => ?_
      cases answer <;> exact (h.log _).bind_eq fun _ => Coupled.pure rfl

theorem abandon (h : Mirrors w A S) (part : Part) :
    Coupled w A Eq part.abandon part.abandon := by
  cases part with
  | joined x => exact Coupled.pure rfl
  | launched l =>
    refine (h.log _).bind_eq fun _ => (h.rollback l.manager l.xid).bind_eq fun answer => ?_
    cases answer <;> exact h.log _

theorem release (h : Mirrors w A S) (part : Part) :
    Coupled w A Eq part.release part.release := by
  cases part with
  | joined x => exact Coupled.pure rfl
  | launched l =>
    refine h.unbind.bind_eq fun removed => ?_
    cases removed with
    | none => exact Coupled.pure rfl
    | some found =>
      show Coupled w A Eq (if found = l.xid then _ else _) (if found = l.xid then _ else _)
      split
      · exact Coupled.pure rfl
      · exact h.log _

theorem leave (h : Mirrors w A S) (part : Part) (fate : Fate (Except ε α)) :
    Coupled w A Eq (part.leave fate) (part.leave fate) := by
  cases fate with
  | returned outcome => exact (h.complete part outcome).ensuring (h.release part)
  | unwound p =>
    exact (Coupled.panic p).ensuring ((h.release part).bind_eq fun _ => h.abandon part)

end Mirrors
end World

/-- Whether a call launches with the timeout of its worker, given what is bound there and which
manager is installed. -/
def Template.takesTimeout (t : Template) (info : CallInfo) (bound : Option Xid)
    (installed : Option ManagerName) : Bool :=
  bound.isNone && info.timeout.isNone && (t.manager.or installed).isSome

namespace World.Mirrors

/-- A call that launches reads the slot of its worker for the timeout, and for nothing else. -/
theorem launchCall (h : Mirrors w A S) (template : Template) (info : CallInfo) (worlds : A s t)
    (unbound : s.bound w = none)
    (sees : template.takesTimeout info (s.bound w) s.installed = true → Sees w A) :
    Paired A Eq ((template.launch info : Action ρ (Except (CallError ε) Launch)) w s)
      (template.launch info w t) := by
  rw [Template.launch, bind_of_returned (template.managerInUse_run w s),
    bind_of_returned (template.managerInUse_run w t), h.installed worlds]
  cases found : template.manager.or s.installed with
  | none => exact .returned rfl worlds
  | some m =>
    have same : info.timeout.or ((t.slot w).timeout.or t.config.defaultTimeout) =
        info.timeout.or ((s.slot w).timeout.or s.config.defaultTimeout) := by
      cases own : info.timeout with
      | some n => rfl
      | none =>
        rw [sees (by simp [Template.takesTimeout, unbound, own, found]) worlds,
          h.defaultTimeout worlds]
    simp only
    rw [bind_of_returned (template.timeoutInUse_run info w s),
      bind_of_returned (template.timeoutInUse_run info w t), same]
    refine (h.launch m _).bind_eq (fun answer => ?_) worlds
    cases answer <;> exact (h.log _).bind_eq fun _ => Coupled.pure rfl

theorem start (h : Mirrors w A S) (template : Template) (info : CallInfo) (worlds : A s t)
    (sees : template.takesTimeout info (s.bound w) s.installed = true → Sees w A) :
    Paired A Eq ((template.start info : Action ρ (Except (CallError ε) Part)) w s)
      (template.start info w t) := by
  rw [Template.start, bind_of_returned (Ambient.current_run w s),
    bind_of_returned (Ambient.current_run w t), h.bound worlds]
  cases bound : s.bound w with
  | some x => exact (h.log _).bind_eq (fun _ => Coupled.pure rfl) worlds
  | none =>
    refine (h.launchCall template info worlds bound sees).bind ?_
    rintro outcome _ s' t' - rfl worlds
    exact .returned rfl worlds

theorem enter (h : Mirrors w A S) (template : Template) (info : CallInfo) (worlds : A s t)
    (sees : template.takesTimeout info (s.bound w) s.installed = true → Sees w A) :
    Paired A Eq ((template.enter info : Action ρ (Except (CallError ε) Part)) w s)
      (template.enter info w t) := by
  refine (h.start template info worlds sees).bind ?_
  rintro (e | part) _ s' t' - rfl worlds
  · exact .returned rfl worlds
  · refine Coupled.bind_eq ?_ (fun _ => Coupled.pure rfl) worlds
    cases part with
    | joined x => exact Coupled.pure rfl
    | launched l => exact (h.bind l.xid).bind_eq fun _ => Coupled.pure rfl

theorem execute (h : Mirrors w A S) (sees : Sees w A) (template : Template) (info : CallInfo)
    {business : Action ρ (Except ε α)} (inside : Coupled w A Eq business business) :
    Coupled w A Eq (template.execute info business) (template.execute info business) := by
  intro s t worlds
  refine (h.enter template info worlds fun _ => sees).bind ?_
  rintro (e | part) _ s' t' - rfl worlds
  · exact .returned rfl worlds
  · refine inside.attempt.bind (fun fate fate' fates => ?_) worlds
    obtain rfl := fates.eq
    exact h.leave part fate'

end World.Mirrors

/-! ## Tasks that differ in their spans -/

/-- Carriers with the same scope, whose spans are related. -/
structure Carrier.Like (S : Option Span → Option Span → Prop) (c d : Carrier) : Prop where
  scope : d.scope = c.scope
  span : S c.span d.span

/-- The same task, but for the spans. -/
inductive Task.Like (S : Option Span → Option Span → Prop) : Task κ → Task κ → Prop where
  | plain (future : κ) : Like S (.plain future) (.plain future)
  | carried {c d : Carrier} {inner inner' : Task κ} (carriers : c.Like S d)
      (inside : Like S inner inner') : Like S (.carried c inner) (.carried d inner')
  | fresh (template : Template) (info : CallInfo) {business business' : Task κ}
      (inside : Like S business business') :
      Like S (.fresh template info business) (.fresh template info business')
  | called (part : Part) {c d : Carrier} {business business' : Task κ} (carriers : c.Like S d)
      (inside : Like S business business') :
      Like S (.called part c business) (.called part d business')
  | ended : Like S .ended .ended

/-- The same end of a poll, but for the spans in the task that is left. -/
structure Polled.Like (S : Option Span → Option Span → Prop) (p q : Polled κ α) : Prop where
  task : p.1.Like S q.1
  fate : q.2 = p.2

/-- The same layer, but for the span. -/
structure Layer.Like (S : Option Span → Option Span → Prop) (l m : Layer) : Prop where
  carrier : l.carrier.Like S m.carrier
  part : m.part = l.part

/-- The poll came to the same point on the way in. -/
inductive Reached.Like (S : Option Span → Option Span → Prop) :
    Reached κ α → Reached κ α → Prop where
  | inside (future : κ) : Like S (.inside future) (.inside future)
  | ended {p q : Polled κ α} (polled : Polled.Like S p q) : Like S (.ended p) (.ended q)

/-- A poll came to the same point through the same layers. -/
structure Way.Like (S : Option Span → Option Span → Prop)
    (p q : List Layer × Reached κ α) : Prop where
  layers : List.Forall₂ (Layer.Like S) p.1 q.1
  reached : p.2.Like S q.2

namespace World.Mirrors

variable {c d : Carrier} {a b : Task κ} {p q : Polled κ α}

theorem createCarrier (h : Mirrors w A S) (scope : Scope) :
    Coupled w A (Carrier.Like S) (Carrier.create scope) (Carrier.create scope) :=
  (h.create scope.captured).bind fun _ _ spans => Coupled.pure ⟨rfl, spans⟩

/-- Resuming carries on with the same end and the same scope. -/
theorem resume (h : Mirrors w A S) (carriers : c.Like S d) :
    Coupled w A (fun r q => r.1.Like S q.1 ∧ q.2 = r.2) (Carrier.hook.resume c)
      (Carrier.hook.resume d) := by
  obtain ⟨scope, span⟩ := c
  obtain ⟨_, span'⟩ := d
  obtain ⟨rfl, spans⟩ := carriers
  refine (h.mark .entered spans).bind_eq fun _ => (h.scopeResume _).bind_eq fun turned => ?_
  obtain ⟨active, ⟨⟩ | p⟩ := turned
  · exact Coupled.pure ⟨⟨rfl, spans⟩, rfl⟩
  · exact (h.mark .exited spans).bind_eq fun _ => Coupled.pure ⟨⟨rfl, spans⟩, rfl⟩

theorem suspend (h : Mirrors w A S) (carriers : c.Like S d) :
    Coupled w A (fun r q => r.1.Like S q.1 ∧ q.2 = r.2) (Carrier.hook.suspend c)
      (Carrier.hook.suspend d) := by
  obtain ⟨scope, span⟩ := c
  obtain ⟨_, span'⟩ := d
  obtain ⟨rfl, spans⟩ := carriers
  exact (h.scopeSuspend _).bind_eq fun _ => (h.mark .exited spans).bind_eq fun _ =>
    Coupled.pure ⟨⟨rfl, spans⟩, rfl⟩

theorem drop (h : Mirrors w A S) (tasks : a.Like S b) :
    Coupled w A Eq (a.drop : Action ρ Unit) b.drop := by
  induction tasks with
  | plain future => exact Coupled.pure rfl
  | carried carriers inside ih => exact ih
  | fresh template info inside ih => exact ih
  | called part carriers inside ih => exact ih.ensuring (h.abandon part)
  | ended => exact Coupled.pure rfl

theorem endWith (fate : Fate (Progress α)) {x y : Action ρ Unit} (dropped : Coupled w A Eq x y) :
    Coupled w A (Polled.Like S) (Task.endWith (κ := κ) fate x) (Task.endWith fate y) := by
  refine dropped.attempt.bind fun after after' same => ?_
  obtain rfl := same.eq
  refine (Coupled.settle (.refl fate) after').bind fun _ _ joined => ?_
  exact Coupled.pure ⟨.ended, joined.eq⟩

theorem afterBusiness (h : Mirrors w A S) (part : Part) (carriers : c.Like S d)
    (polled : p.Like S q) :
    Coupled w A (Polled.Like S) (Task.afterBusiness part c p) (Task.afterBusiness part d q) := by
  obtain ⟨business, _⟩ := p
  obtain ⟨business', fate⟩ := q
  obtain ⟨tasks, rfl⟩ := polled
  obtain (_ | outcome) | p := fate
  · exact Coupled.pure ⟨.called part carriers tasks, rfl⟩
  · refine (h.complete part outcome).attempt.bind fun _ _ fates => ?_
    rw [fates.eq]
    exact Coupled.pure ⟨.ended, rfl⟩
  · exact endWith _ ((h.drop tasks).ensuring (h.abandon part))

theorem settleUnder (h : Mirrors w A S) (part : Option Part) (carriers : c.Like S d)
    (polled : p.Like S q) :
    Coupled w A (Polled.Like S) (Task.settleUnder part c p) (Task.settleUnder part d q) := by
  cases part with
  | none => exact Coupled.pure ⟨.carried carriers polled.task, polled.fate⟩
  | some part => exact h.afterBusiness part carriers polled

/-! ## Polls -/

theorem reachUnder (h : Mirrors w A S) (part : Option Part) (carriers : c.Like S d)
    (tasks : a.Like S b) {x y : Action ρ (List Layer × Reached κ α)} (worlds : A s t)
    (inside : ∀ active s' t',
      Carrier.hook.resume c w s = .ok ⟨.returned (active, .returned ()), s'⟩ → A s' t' →
      Paired A (Way.Like S) (x w s') (y w t')) :
    Paired A (Way.Like S) (Task.reachUnder part c a x w s) (Task.reachUnder part d b y w t) := by
  refine (h.resume carriers worlds).bind ?_
  rintro ⟨active, ⟨⟩ | p⟩ ⟨active', _⟩ s' t' resumed ⟨carriers, rfl⟩ worlds
  · refine (inside active s' t' resumed worlds).bind fun way way' _ _ _ ways worlds => ?_
    exact .returned ⟨.cons ⟨carriers, rfl⟩ ways.layers, ways.reached⟩ worlds
  · have polled : Polled.Like (α := α) S (a, .unwound p) (b, .unwound p) := ⟨tasks, rfl⟩
    exact (h.settleUnder part carriers polled).bind
      (fun _ _ polled => Coupled.pure ⟨.nil, .ended polled⟩) worlds

end World.Mirrors

/-- Whether the next poll of a task launches a transaction with the timeout of the worker, given
what is bound there and which manager is installed. -/
def Task.takesTimeout (installed : Option ManagerName) : Option Xid → Task κ → Bool
  | _, .plain _ | _, .ended => false
  | bound, .carried carrier inner | bound, .called _ carrier inner =>
    !carrier.scope.isActive && inner.takesTimeout installed (carrier.scope.captured.or bound)
  -- the business of a call runs inside a transaction
  | bound, .fresh template info _ => template.takesTimeout info bound installed

/-- Inside a transaction no poll launches. -/
theorem Task.takesTimeout_of_bound (installed : Option ManagerName) (x : Xid) (t : Task κ) :
    t.takesTimeout installed (some x) = false := by
  induction t generalizing x with
  | plain future => rfl
  | carried carrier inner ih =>
    cases found : carrier.scope.captured <;> simp [takesTimeout, found, ih]
  | fresh template info business ih => rfl
  | called part carrier business ih =>
    cases found : carrier.scope.captured <;> simp [takesTimeout, found, ih]
  | ended => rfl

/-- A carrier that is resumed was not active, and what it captured is bound. -/
theorem Carrier.resumed_inactive {c active : Carrier}
    (resumed : hook.resume c w s = .ok ⟨.returned (active, .returned ()), t⟩) :
    c.scope.isActive = false ∧ t.installed = s.installed ∧
      (w.hasSlot → t.bound w = c.scope.captured.or (s.bound w)) := by
  obtain ⟨⟨captured, _ | saved⟩, span⟩ := c
  · obtain ⟨u, ran, turned, slot⟩ := resume_run captured span w s
    obtain ⟨⟩ := Except.ok.inj (ran.symm.trans resumed)
    exact ⟨rfl, turned.installed, fun hasSlot => congrArg Slot.xid (slot hasSlot)⟩
  · obtain ⟨u, ran, -⟩ := resume_active (c := ⟨⟨captured, some saved⟩, span⟩) rfl w s
    obtain ⟨⟩ := Except.ok.inj (ran.symm.trans resumed)

namespace World.Mirrors

variable {a b : Task κ}

/-- The way in of a poll. Unless its worker sees the same slot in both worlds, it must not launch
with a timeout from there. -/
theorem reach (h : Mirrors w A S) (tasks : a.Like S b) (worlds : A s t)
    (sees : Sees w A ∨ w.hasSlot ∧ a.takesTimeout s.installed (s.bound w) = false) :
    Paired A (Way.Like S) ((a.reach : Action ρ (List Layer × Reached κ α)) w s) (b.reach w t) := by
  -- what a carrier captured is bound when the poll goes on with the task inside
  have under {s s' : World ρ} {c active : Carrier} {inner : Task κ}
      (resumed : Carrier.hook.resume c w s = .ok ⟨.returned (active, .returned ()), s'⟩)
      (sees : Sees w A ∨ w.hasSlot ∧
        (!c.scope.isActive &&
          inner.takesTimeout s.installed (c.scope.captured.or (s.bound w))) = false) :
      Sees w A ∨ w.hasSlot ∧ inner.takesTimeout s'.installed (s'.bound w) = false := by
    obtain ⟨inactive, installed, bound⟩ := Carrier.resumed_inactive resumed
    refine sees.imp_right ?_
    rintro ⟨hasSlot, untimed⟩
    rw [installed, bound hasSlot]
    exact ⟨hasSlot, by simpa [inactive] using untimed⟩
  induction tasks generalizing s t with
  | plain future => exact .returned ⟨.nil, .inside future⟩ worlds
  | carried carriers inside ih =>
    exact h.reachUnder none carriers inside worlds fun active s' t' resumed worlds =>
      ih worlds (under resumed sees)
  | @fresh template info business business' inside ih =>
    have takes (takes : template.takesTimeout info (s.bound w) s.installed = true) :
        Sees w A := by
      rcases sees with sees | ⟨-, untimed⟩
      · exact sees
      · cases takes.symm.trans untimed
    refine (h.start template info worlds takes).attempt.bind ?_
    rintro outcome outcome' s' t' - fates worlds
    obtain rfl := fates.eq
    have dropped (fate : Fate (Progress α)) := endWith (κ := κ) (S := S) fate (h.drop inside)
    obtain (e | part) | p := outcome'
    · exact (dropped _).bind (fun _ _ polled => Coupled.pure ⟨.nil, .ended polled⟩) worlds
    · refine (h.createCarrier _ worlds).bind ?_
      rintro carrier carrier' u v created carriers worlds
      obtain ⟨span, u', calm, -⟩ := Span.create_calm (some part.xid) w s'
      obtain ⟨⟩ := Except.ok.inj ((bind_of_returned calm _).symm.trans created)
      refine h.reachUnder (some part) carriers inside worlds fun active u v resumed worlds =>
        ih worlds (under resumed (sees.imp_right fun untimed => ⟨untimed.1, ?_⟩))
      exact Bool.and_eq_false_imp.2 fun _ => Task.takesTimeout_of_bound _ part.xid _
    · exact (dropped _).bind (fun _ _ polled => Coupled.pure ⟨.nil, .ended polled⟩) worlds
  | called part carriers inside ih =>
    exact h.reachUnder (some part) carriers inside worlds fun active s' t' resumed worlds =>
      ih worlds (under resumed sees)
  | ended => exact .returned ⟨.nil, .ended ⟨.ended, rfl⟩⟩ worlds

theorem close (h : Mirrors w A S) {l m : Layer} (layers : l.Like S m) {p q : Polled κ α}
    (polled : Polled.Like S p q) : Coupled w A (Polled.Like S) (l.close p) (m.close q) := by
  obtain ⟨carrier, _⟩ := l
  obtain ⟨carrier', part⟩ := m
  obtain ⟨carriers, rfl⟩ := layers
  obtain ⟨tasks, same⟩ := polled
  refine Coupled.bind (B := fun r q => r.1.Like S q.1 ∧ q.2 = r.2) ?_ fun r q finished => ?_
  · refine (h.suspend carriers).bind ?_
    rintro ⟨after, _⟩ ⟨after', turned⟩ ⟨carriers, rfl⟩
    rw [same]
    refine (Coupled.settle (.refl _) turned).bind fun _ _ joined => ?_
    exact Coupled.pure ⟨carriers, joined.eq⟩
  · exact h.settleUnder part finished.1 ⟨tasks, finished.2⟩

theorem closeAll (h : Mirrors w A S) {layers layers' : List Layer}
    (alike : List.Forall₂ (Layer.Like S) layers layers') {p q : Polled κ α}
    (polled : Polled.Like S p q) :
    Coupled w A (Polled.Like S) (Layer.closeAll layers p) (Layer.closeAll layers' q) := by
  induction alike with
  | nil => exact Coupled.pure polled
  | cons layer rest ih => exact ih.bind fun _ _ polled => h.close layer polled

end World.Mirrors
end AmbientTx
