import AmbientTx.Proofs.Operation

/-! # Scopes are lexical

Programs of one worker, built from operations on the slot, panics, catches, and brackets: a body
that runs within a scope or under its guard, under the guard of a hook, as a job, or as the poll of
a carried future. They run on the slot of the worker (`Prog.exec`), where a bracket saves what is
bound, installs what its scope captured, and puts back what it saved.

The reference (`Prog.eval`) has no scopes to activate. It computes on a slot as a value, and a
bracket runs its body on a local copy of the transaction, which starts with what the scope captured,
or with the enclosing transaction if it captured nothing, and is thrown away afterwards. For a
worker that has lost its slot it is the same, but that nothing stays of what is written. The two
agree on the end of a program, on the final slot, and on everything that the program saw, which
includes the scopes that brackets hand back.
-/

namespace AmbientTx

variable {ρ ν α β : Type} {w : Worker} {s t : World ρ}

open World AmbientTx.Action Script

/-! ## Programs -/

/-- The ways to run a body over a scope. -/
inductive Bracket where
  /-- Within the scope, or under the guard of `Scope.within`. -/
  | within
  /-- Under the guard of the scope as a hook. -/
  | guarding
  /-- As a job that is called on the spot. -/
  | call
  /-- As the poll of a future that is carried by the scope, after which the future waits or is
  ready. -/
  | poll (span : Option Span) (waits : Bool)

/-- A program with values `ν`. -/
inductive Prog (ν : Type) where
  | value (value : ν)
  | panic (panic : Panic)
  | perform (op : SlotOp) (next : Reply → Prog ν)
  /-- Runs a body, and goes on however it ends. -/
  | catching (body : Prog ν) (next : Fate ν → Prog ν)
  /-- Runs a body over an inactive scope, and goes on with its value and the scope, unless the
  bracket used it up. -/
  | bracket (kind : Bracket) (scope : Scope) (inactive : scope.isActive = false)
      (body : Prog ν) (next : Option Scope → ν → Prog ν)

/-- What a program sees. -/
inductive Sight where
  | replied (reply : Reply)
  /-- A bracket is over, and this became of its scope. -/
  | closed (scope : Option Scope)

/-! ## Programs on the slot of a worker -/

/-- Adds to what a program has seen. -/
def observe (sight : Sight) : Action (List Sight) Unit :=
  Action.modify fun _ s => { s with rest := s.rest ++ [sight] }

namespace Bracket

/-- The poll of a future that runs this body, keeps its value, and waits or is ready. -/
def piece (waits : Bool) (body : Action ρ ν) :
    Option ν → Action ρ (Option ν × Fate (Progress ν)) := fun _ => do
  match ← body.attempt with
  | .returned v => return (some v, .returned (if waits then .waiting else .ready (.ok v)))
  | .unwound p => return (none, .unwound p)

/-- What a poll of such a future comes to. -/
def pollEnd : Task (Option ν) → Fate (Progress ν) → Fate ν
  | .carried _ (.plain (some v)), .returned _ => .returned v
  | _, .unwound p => .unwound p
  | _, .returned _ => .unwound ⟨"the future kept no value"⟩

/-- Runs a body over a scope, and reports what became of the scope and how the body ended. -/
def run (scope : Scope) (body : Action ρ ν) : Bracket → Action ρ (Option Scope × Fate ν)
  | .within => do
    match ← scope.within body with
    | (scope, .ok fate) => return (some scope, fate)
    | (scope, .error e) => return (some scope, .unwound ⟨e.message⟩)
  | .guarding => do
    let (scope, fate) ← Hook.scope.guarding scope body
    return (some scope, fate)
  | .call => do
    let fate ← ((⟨scope, body⟩ : Job (Action ρ ν)).call id).attempt
    return (none, fate)
  | .poll span waits => do
    let (task, fate) ← (Task.carried ⟨scope, span⟩ (.plain none)).poll (piece waits body)
    return (task.scope?, pollEnd task fate)

/-- What a bracket hands back when all goes well: its scope, unless the body took it along. -/
def handsBack (scope : Scope) : Bracket → Option Scope
  | .within | .guarding | .poll _ _ => some scope
  | .call => none

end Bracket

namespace Prog

/-- Runs a program on the slot of this worker. -/
def exec : Prog ν → Action (List Sight) ν
  | .value v => return v
  | .panic p => Action.panic p
  | .perform op next => do
    let reply ← op.perform
    observe (.replied reply)
    (next reply).exec
  | .catching body next => do
    let fate ← body.exec.attempt
    (next fate).exec
  | .bracket kind scope _ body next => do
    let (scope, fate) ← kind.run scope body.exec
    observe (.closed scope)
    let v ← Action.resume fate
    (next scope v).exec

end Prog

/-! ## The reference -/

/-- How a computation on a slot ends, the slot that it leaves, and what it saw. -/
structure Outcome (α : Type) where
  fate : Fate α
  slot : Slot
  seen : List Sight

/-- A computation on a slot. -/
abbrev Reference (α : Type) := Slot → Outcome α

/-- What stays of what was written: nothing, if there is no slot. -/
def Slot.kept (hasSlot : Bool) (written : Slot) : Slot :=
  if hasSlot then written else {}

namespace Reference

/-- Ends so, and does nothing. -/
def ends (fate : Fate α) : Reference α :=
  fun slot => ⟨fate, slot, []⟩

/-- One computation and then another with its value, unless the first unwinds. -/
def andThen (x : Reference α) (f : α → Reference β) : Reference β := fun slot =>
  match x slot with
  | ⟨.returned a, slot, seen⟩ => { f a slot with seen := seen ++ (f a slot).seen }
  | ⟨.unwound p, slot, seen⟩ => ⟨.unwound p, slot, seen⟩

/-- A computation whose end is a value. -/
def attempt (x : Reference α) : Reference (Fate α) := fun slot =>
  { x slot with fate := .returned (x slot).fate }

/-- Sees this. -/
def sees (sight : Sight) : Reference Unit :=
  fun slot => ⟨.returned (), slot, [sight]⟩

/-- An operation on the slot. -/
def performs (hasSlot : Bool) (config : ContextConfig) (op : SlotOp) : Reference Reply :=
  fun slot => ⟨.returned (op.apply config slot).1, (op.apply config slot).2.kept hasSlot, []⟩

/-- The same with another value. -/
def map (g : α → β) (x : Reference α) : Reference β := fun slot =>
  { x slot with fate := (x slot).fate.map g }

/-- Runs a body on a local copy of the transaction, and reports how it ended. The copy is thrown
away, and everything else in the slot is as the body left it. -/
def locally (hasSlot : Bool) (captured : Option Xid) (body : Reference α) :
    Reference (Fate α) := fun slot =>
  let after := body (Slot.kept hasSlot { slot with xid := captured.or slot.xid })
  ⟨.returned after.fate, { after.slot with xid := slot.xid }, after.seen⟩

end Reference

open Reference in
/-- Runs a program on a slot as a value. -/
def Prog.eval (hasSlot : Bool) (config : ContextConfig) : Prog ν → Reference ν
  | .value v => ends (.returned v)
  | .panic p => ends (.unwound p)
  | .perform op next => andThen (performs hasSlot config op) fun reply =>
    andThen (sees (.replied reply)) fun _ => (next reply).eval hasSlot config
  | .catching body next =>
    andThen (attempt (body.eval hasSlot config)) fun fate => (next fate).eval hasSlot config
  | .bracket kind scope _ body next =>
    andThen (locally hasSlot scope.captured (body.eval hasSlot config)) fun fate =>
      andThen (sees (.closed (kind.handsBack scope))) fun _ =>
        andThen (ends fate) fun v => (next (kind.handsBack scope) v).eval hasSlot config

/-! ## Brackets -/

/-- What was written where there is a slot stays as far as anything does. -/
theorem slot_eq_kept {written : Slot} (slot : w.hasSlot → t.slot w = written) :
    t.slot w = written.kept w.hasSlot := by
  unfold Slot.kept
  split
  · next hasSlot => exact slot hasSlot
  · next slotless => exact slot_of_not_hasSlot slotless t

/-- What was bound before is bound again also where there is no slot, and nothing ever was. -/
theorem slot_eq_restored {v : World ρ}
    (slot : w.hasSlot → t.slot w = { v.slot w with xid := s.bound w }) :
    t.slot w = { v.slot w with xid := s.bound w } := by
  by_cases hasSlot : w.hasSlot
  · exact slot hasSlot
  · rw [slot_of_not_hasSlot hasSlot, slot_of_not_hasSlot hasSlot, bound_of_not_hasSlot hasSlot]

namespace Bracket

/-- What a bracket makes of a body that ran after `u` and left `v`: the end is that of the body,
and of the slot only the transaction is put back. -/
def Encloses (x : Action ρ (Option Scope × Fate ν)) (left : Option Scope) (body : Action ρ ν)
    (w : Worker) (s u : World ρ) : Prop :=
  ∀ fate v, body w u = .ok ⟨fate, v⟩ → ∃ t, x w s = .ok ⟨.returned (left, fate), t⟩ ∧
    Turned w v t ∧ t.slot w = { v.slot w with xid := s.bound w }

/-- A bracket over an inactive scope runs its body with what the scope captured, or with what is
bound if it captured nothing, and then binds what it found again. -/
theorem run_encloses (kind : Bracket) {scope : Scope} (inactive : scope.isActive = false)
    (body : Action ρ ν) (w : Worker) (s : World ρ) :
    ∃ u, Turned w s u ∧
      u.slot w = Slot.kept w.hasSlot { s.slot w with xid := scope.captured.or (s.bound w) } ∧
      Encloses (kind.run scope body) (kind.handsBack scope) body w s u := by
  rw [Scope.eq_carrying inactive]
  generalize scope.captured = captured
  cases kind with
  | within =>
    obtain ⟨u, hact, hturn, hslot⟩ := Scope.activate_run captured w s
    refine ⟨u, hturn, slot_eq_kept hslot, fun fate v ran => ?_⟩
    obtain ⟨t, hrel, hturn', hslot'⟩ := Scope.release_run captured (s.bound w) w v
    refine ⟨t, ?_, hturn', slot_eq_restored hslot'⟩
    have within : Scope.within (.carrying captured) body w s =
        .ok ⟨.returned (.carrying captured, .ok fate), t⟩ := by
      rw [Scope.within, bind_of_returned hact]
      simp only
      rw [bind_of_returned (attempt_of_ran ran), bind_of_returned hrel]
      rfl
    exact bind_of_returned within _
  | guarding =>
    obtain ⟨u, hres, hturn, hslot⟩ := Scope.resume_run captured w s
    refine ⟨u, hturn, slot_eq_kept hslot, fun fate v ran => ?_⟩
    obtain ⟨t, hfin, hturn', hslot'⟩ := Scope.finish_run captured (s.bound w) fate w v
    exact ⟨t, bind_of_returned (Hook.guarding_run hres ran hfin) _, hturn', slot_eq_restored hslot'⟩
  | call =>
    obtain ⟨u, hres, hturn, hslot⟩ := Scope.resume_run captured w s
    refine ⟨u, hturn, slot_eq_kept hslot, fun fate v ran => ?_⟩
    obtain ⟨t, hfin, hturn', hslot'⟩ := Scope.finish_run captured (s.bound w) fate w v
    refine ⟨t, ?_, hturn', slot_eq_restored hslot'⟩
    have called : (⟨.carrying captured, body⟩ : Job (Action ρ ν)).call id w s = .ok ⟨fate, t⟩ :=
      (bind_of_returned (Hook.guarding_run hres ran hfin) _).trans (resume_run fate w t)
    exact bind_of_returned (attempt_of_ran called) _
  | poll span waits =>
    obtain ⟨u, hres, hturn, hslot⟩ := Carrier.resume_run captured span w s
    refine ⟨u, hturn, slot_eq_kept hslot, fun fate v ran => ?_⟩
    -- the body runs as the only piece of the future, which keeps its value
    have future : ∃ kept polled, piece waits body none w u = .ok ⟨.returned (kept, polled), v⟩ ∧
        ∀ carrier, pollEnd (.carried carrier (.plain kept)) polled = fate := by
      rw [piece, bind_of_returned (attempt_of_ran ran)]
      cases fate with
      | returned a => exact ⟨_, _, rfl, fun _ => rfl⟩
      | unwound p => exact ⟨_, _, rfl, fun _ => rfl⟩
    obtain ⟨kept, polled, hfuture, hend⟩ := future
    have inner : (Task.plain none).poll (piece waits body) w u =
        .ok ⟨.returned (.plain kept, polled), v⟩ :=
      bind_of_returned hfuture _
    obtain ⟨t, hfin, hturn', hslot'⟩ := Carrier.finish_run captured (s.bound w) span polled w v
    have task :
        (Task.carried ⟨.carrying captured, span⟩ (.plain none)).poll (piece waits body) w s =
          .ok ⟨.returned (.carried ⟨.carrying captured, span⟩ (.plain kept), polled), t⟩ :=
      bind_of_returned (Hook.around_run hres inner hfin) _
    refine ⟨t, ?_, hturn', slot_eq_restored hslot'⟩
    rw [run, bind_of_returned task]
    simp only [hend]
    rfl

end Bracket

/-! ## Agreement -/

/-- A run leaves what a computation on the slot says, apart from what the program has seen it is
calm, and it saw what the computation saw. -/
structure Agrees (w : Worker) (s : World (List Sight)) (outcome : Outcome α)
    (t : World (List Sight)) : Prop where
  turned : Turned w s { t with rest := s.rest }
  slot : t.slot w = outcome.slot
  seen : t.rest = s.rest ++ outcome.seen

/-- On every worker, every run of an action ends like the reference on the slot, and agrees with
it. -/
def Evaluates (x : Action (List Sight) α) (f : Bool → ContextConfig → Reference α) : Prop :=
  ∀ w s, ∃ t, x w s = .ok ⟨(f w.hasSlot s.config (s.slot w)).fate, t⟩ ∧
    Agrees w s (f w.hasSlot s.config (s.slot w)) t

namespace Evaluates

variable {x : Action (List Sight) α} {f : Bool → ContextConfig → Reference α}

theorem ends (fate : Fate α) : Evaluates (Action.resume fate) fun _ _ => .ends fate :=
  fun w s => ⟨s, resume_run fate w s, turned_repeats.refl w s, rfl, (List.append_nil _).symm⟩

theorem sees (sight : Sight) : Evaluates (observe sight) fun _ _ => .sees sight :=
  fun _ _ => ⟨_, rfl, ⟨fun _ _ => rfl, rfl, rfl, rfl, rfl, rfl, rfl⟩, rfl, rfl⟩

theorem performs (op : SlotOp) :
    Evaluates op.perform fun hasSlot config => .performs hasSlot config op := by
  intro w s
  obtain ⟨t, hrun, hturn, hslot⟩ := op.perform_computes w s
  refine ⟨t, hrun, ?_, slot_eq_kept hslot, ?_⟩
  · rw [← hturn.rest]
    exact hturn
  · rw [hturn.rest]
    exact (List.append_nil _).symm

/-- One run after another, of which each is calm apart from what the program has seen. -/
theorem turned_trans {s t u : World (List Sight)} (h : Turned w s { t with rest := s.rest })
    (k : Turned w t { u with rest := t.rest }) : Turned w s { u with rest := s.rest } :=
  ⟨fun v hv => (k.slot v hv).trans (h.slot v hv), k.config.trans h.config,
    k.installed.trans h.installed, k.managers.trans h.managers, k.calls.trans h.calls,
    k.strays.trans h.strays, rfl⟩

theorem andThen {y : α → Action (List Sight) β} {g : Bool → ContextConfig → α → Reference β}
    (hx : Evaluates x f) (hy : ∀ a, Evaluates (y a) fun hasSlot config => g hasSlot config a) :
    Evaluates (x >>= y) fun hasSlot config => (f hasSlot config).andThen (g hasSlot config) := by
  intro w s
  obtain ⟨t, hrun, hturn, hslot, hseen⟩ := hx w s
  simp only [Reference.andThen]
  generalize f w.hasSlot s.config (s.slot w) = outcome at hrun hslot hseen
  obtain ⟨a | p, slot, seen⟩ := outcome
  · obtain ⟨u, hrun', hturn', hslot', hseen'⟩ := hy a w t
    have config : t.config = s.config := hturn.config
    have left : t.slot w = slot := hslot
    rw [config, left] at hrun' hslot' hseen'
    refine ⟨u, (bind_of_returned hrun _).trans hrun', turned_trans hturn hturn', hslot', ?_⟩
    rw [hseen', hseen, List.append_assoc]
  · exact ⟨t, bind_of_unwound hrun _, hturn, hslot, hseen⟩

theorem attempt (hx : Evaluates x f) :
    Evaluates x.attempt fun hasSlot config => (f hasSlot config).attempt := by
  intro w s
  obtain ⟨t, hrun, hturn, hslot, hseen⟩ := hx w s
  exact ⟨t, attempt_of_ran hrun, hturn, hslot, hseen⟩

theorem of_turned {s t : World (List Sight)} (h : Turned w s t) :
    Turned w s { t with rest := s.rest } :=
  ⟨h.slot, h.config, h.installed, h.managers, h.calls, h.strays, rfl⟩

/-- A bracket agrees with a local copy of the transaction, and its scope comes back as it was. -/
theorem bracket {body : Action (List Sight) ν} {f : Bool → ContextConfig → Reference ν}
    (hbody : Evaluates body f) (kind : Bracket) {scope : Scope}
    (inactive : scope.isActive = false) :
    Evaluates (kind.run scope body) fun hasSlot config =>
      ((f hasSlot config).locally hasSlot scope.captured).map fun fate =>
        (kind.handsBack scope, fate) := by
  intro w s
  obtain ⟨u, hturn, hslot, encloses⟩ := kind.run_encloses inactive body w s
  obtain ⟨v, hrun, hturn', hslot', hseen⟩ := hbody w u
  obtain ⟨t, hrun', hturn'', hslot''⟩ := encloses _ v hrun
  rw [hturn.config, hslot] at hrun' hslot' hseen
  refine ⟨t, hrun', ?_, ?_, ?_⟩
  · exact turned_trans (turned_trans (of_turned hturn) hturn') (of_turned hturn'')
  · rw [hslot'', hslot']
    rfl
  · rw [hturn''.rest, hseen, hturn.rest]
    rfl

end Evaluates

theorem Reference.andThen_map (x : Reference α) (g : α → β) (f : β → Reference ν) :
    (x.map g).andThen f = x.andThen fun a => f (g a) := by
  funext slot
  simp only [andThen, map]
  generalize x slot = outcome
  obtain ⟨a | p, slot, seen⟩ := outcome <;> rfl

/-- The run of every program on the slot of a worker agrees with the reference. -/
theorem Prog.exec_evaluates (prog : Prog ν) :
    Evaluates prog.exec fun hasSlot config => prog.eval hasSlot config := by
  -- both sides are built from the same combinators, so each case is one lemma per combinator
  induction prog with
  | value v => exact Evaluates.ends (.returned v)
  | panic p => exact Evaluates.ends (.unwound p)
  | perform op next ih =>
    exact (Evaluates.performs op).andThen fun reply =>
      (Evaluates.sees (.replied reply)).andThen fun _ => ih reply
  | catching body next ihBody ih => exact ihBody.attempt.andThen ih
  | bracket kind scope inactive body next ihBody ih =>
    -- how the bracket ended is raised again only after its scope was seen
    have whole := (ihBody.bracket kind inactive).andThen
      (y := fun left => do
        observe (.closed left.1)
        let v ← Action.resume left.2
        (next left.1 v).exec)
      fun left => (Evaluates.sees (.closed left.1)).andThen fun _ =>
        (Evaluates.ends left.2).andThen fun v => ih left.1 v
    simp only [Reference.andThen_map] at whole
    exact whole

/-! ## The scopes that brackets hand back -/

/-- Whether a computation sees no scope handed back active. -/
def Reference.Tidy (x : Reference α) : Prop :=
  ∀ slot scope, .closed (some scope) ∈ (x slot).seen → scope.isActive = false

namespace Reference.Tidy

theorem ends (fate : Fate α) : Tidy (ends fate) :=
  fun _ _ mem => absurd mem List.not_mem_nil

theorem replied (reply : Reply) : Tidy (sees (.replied reply)) := by
  intro _ _ mem
  cases List.mem_singleton.1 mem

theorem closed {scope : Scope} (inactive : scope.isActive = false) (kind : Bracket) :
    Tidy (sees (.closed (kind.handsBack scope))) := by
  intro _ scope' mem
  have same := List.mem_singleton.1 mem
  cases kind <;> cases same <;> exact inactive

theorem andThen {x : Reference α} {f : α → Reference β} (hx : Tidy x) (hf : ∀ a, Tidy (f a)) :
    Tidy (x.andThen f) := by
  intro slot scope mem
  have before := hx slot scope
  simp only [Reference.andThen] at mem
  generalize x slot = outcome at mem before
  obtain ⟨a | p, slot, seen⟩ := outcome
  · rcases List.mem_append.1 mem with mem | mem
    · exact before mem
    · exact hf a slot scope mem
  · exact before mem

end Reference.Tidy

/-- Every scope that a bracket hands back is inactive. -/
theorem Prog.eval_tidy (hasSlot : Bool) (config : ContextConfig) (prog : Prog ν) :
    (prog.eval hasSlot config).Tidy := by
  induction prog with
  | value v => exact .ends _
  | panic p => exact .ends _
  | perform op next ih =>
    exact .andThen (fun _ _ mem => absurd mem List.not_mem_nil) fun reply =>
      .andThen (.replied reply) fun _ => ih reply
  | catching body next ihBody ih => exact .andThen (fun slot scope => ihBody slot scope) ih
  | bracket kind scope inactive body next ihBody ih =>
    exact .andThen (fun slot scope => ihBody _ scope) fun fate =>
      .andThen (.closed inactive kind) fun _ => .andThen (.ends fate) fun v => ih _ v

/-- Scopes are lexical: a program runs on the slot of a worker as the reference says. It ends the
same way, so no guard panics; it leaves the same slot, and no other slot changes; and it sees the
same. Every scope that a bracket hands back is inactive, and no guard found its scope so. -/
theorem exec_eq_eval (prog : Prog ν) (w : Worker) (s : World (List Sight)) :
    let outcome := prog.eval w.hasSlot s.config (s.slot w)
    ∃ t, prog.exec w s = .ok ⟨outcome.fate, t⟩ ∧
      t.slot w = outcome.slot ∧
      (∀ v, v ≠ w → t.slot v = s.slot v) ∧
      t.rest = s.rest ++ outcome.seen ∧
      (∀ scope, .closed (some scope) ∈ outcome.seen → scope.isActive = false) ∧
      t.strays = s.strays := by
  intro outcome
  obtain ⟨t, hrun, hturn, hslot, hseen⟩ := prog.exec_evaluates w s
  exact ⟨t, hrun, hslot, hturn.slot, hseen, prog.eval_tidy w.hasSlot s.config (s.slot w),
    hturn.strays⟩

/-- A body that unbinds what its scope installed, and panics; the panic is caught. -/
theorem exec_eq_eval_of_panic :
    let x := Manager.firstXid
    let scope := Scope.carrying (some x)
    let body : Prog Unit := .perform .current fun _ => .perform .unbind fun _ => .panic ⟨"failed"⟩
    let prog : Prog Unit := .catching (.bracket .guarding scope rfl body fun _ v => .value v)
      fun _ => .perform .current fun _ => .value ()
    ∃ t : World (List Sight), prog.exec .main { rest := [] } = .ok ⟨.returned (), t⟩ ∧
      t.rest = [.replied (.xid (some x)), .replied (.xid (some x)), .closed (some scope),
        .replied (.xid none)] := by
  intro x scope body prog
  obtain ⟨t, hrun, -, -, hseen, -, -⟩ := exec_eq_eval prog .main { rest := [] }
  exact ⟨t, hrun, hseen⟩

/-- A worker that read its slot has lost it when it ends. A body there sees nothing bound, although
its scope captured something, which it would see on a slot. -/
theorem exec_ne_eval_of_ending :
    let x := Manager.firstXid
    let scope := Scope.carrying (some x)
    let prog : Prog Unit := .bracket .within scope rfl (.perform .current fun _ => .value ())
      fun _ v => .value v
    let ending : Action (List Sight) Unit := do
      let _ ← Action.onWorker (.fresh 0) Ambient.current
      Action.onWorker (.ending 0 true) prog.exec
    (∃ t, ending .main { rest := [] } = .ok ⟨.returned (), t⟩ ∧
      t.rest = [.replied (.xid none), .closed (some scope)]) ∧
    (prog.eval true {} {}).seen = [.replied (.xid (some x)), .closed (some scope)] :=
  ⟨⟨_, rfl, rfl⟩, rfl⟩

end AmbientTx
