import AmbientTx.Proofs.Call

/-! # What a poll leaves bound

On the way in, the outermost carrier saves what is bound; on the way out it is the last to put
something back, and what a call does after its business changes no slot. So a poll leaves bound what
it found, whatever happened inside. It does not unwind either, for what is inside reports its
panics.
-/

namespace AmbientTx

variable {ρ κ α : Type} {v w : Worker} {s t : World ρ}

open World AmbientTx.Action

/-! ## The slots of other workers -/

namespace World

/-- No other worker's slot changed. -/
def Elsewhere (w : Worker) (s t : World ρ) : Prop :=
  ∀ v, v ≠ w → t.slot v = s.slot v

theorem elsewhere_repeats : Repeats (Elsewhere (ρ := ρ)) where
  refl _ _ _ _ := rfl
  trans h k v hv := (k v hv).trans (h v hv)

theorem Silent.elsewhere (h : Silent w s t) : Elsewhere w s t :=
  fun v _ => h.slot v

theorem Elsewhere.bound {v : Worker} (h : Elsewhere w s t) (hv : v ≠ w) :
    t.bound v = s.bound v := by
  rw [World.bound, h v hv, World.bound]

end World

/-! ## What changes no slot -/

namespace Task

theorem drop_silent (t : Task κ) : Keeps Silent (t.drop : Action ρ Unit) := by
  induction t with
  | plain future => exact Keeps.pure silent_repeats ()
  | carried carrier inner ih => exact ih
  | fresh t info business ih => exact ih
  | called part carrier business ih => exact Keeps.ensuring silent_repeats ih part.abandon_silent
  | ended => exact Keeps.pure silent_repeats ()

theorem endWith_silent (fate : Fate (Progress α)) {dropped : Action ρ Unit}
    (h : Keeps Silent dropped) : Keeps Silent (endWith (κ := κ) fate dropped) :=
  Keeps.bind silent_repeats (Keeps.attempt h) fun _ =>
    Keeps.bind silent_repeats (Keeps.settle silent_repeats _ _) fun _ =>
      Keeps.pure silent_repeats _

theorem afterBusiness_silent (part : Part) (carrier : Carrier) (polled : Polled κ α) :
    Keeps Silent (afterBusiness part carrier polled : Action ρ (Polled κ α)) := by
  obtain ⟨business, (_ | outcome) | p⟩ := polled
  · exact Keeps.pure silent_repeats _
  · exact Keeps.bind silent_repeats (Keeps.attempt (part.complete_silent outcome)) fun _ =>
      Keeps.pure silent_repeats _
  · exact endWith_silent _ (Keeps.ensuring silent_repeats business.drop_silent part.abandon_silent)

theorem settleUnder_silent (part : Option Part) (carrier : Carrier) (polled : Polled κ α) :
    Keeps Silent (settleUnder part carrier polled : Action ρ (Polled κ α)) := by
  cases part with
  | none => exact Keeps.pure silent_repeats _
  | some part => exact afterBusiness_silent part carrier polled

end Task

/-! ## What the worker of a poll has bound -/

theorem Span.create_silent (captured : Option Xid) :
    Keeps Silent (Span.create? captured : Action ρ (Option Span)) := by
  cases captured with
  | none => exact Keeps.pure silent_repeats none
  | some x =>
    refine Keeps.bind silent_repeats
      (Calm.read silent_repeats (fun _ s => s.config) fun _ _ => rfl).keeps fun config => ?_
    split
    · refine Keeps.bind silent_repeats
        (Calm.read silent_repeats (fun _ s => s) fun _ _ => rfl).keeps fun _ => ?_
      refine Keeps.bind silent_repeats (Calm.keeps (Calm.modify fun w s => ?_)) fun _ =>
        Keeps.pure silent_repeats _
      exact ⟨rfl, rfl, rfl, rfl⟩
    · exact Keeps.pure silent_repeats none

theorem Carrier.create_silent (scope : Scope) :
    Keeps Silent (create scope : Action ρ Carrier) :=
  Keeps.bind silent_repeats (Span.create_silent _) fun _ => Keeps.pure silent_repeats _

/-- A carrier is made without a change of a slot. -/
theorem Carrier.create_run (scope : Scope) (w : Worker) (s : World ρ) :
    ∃ span t, Carrier.create scope w s = .ok ⟨.returned ⟨scope, span⟩, t⟩ ∧ Turned w s t ∧
      t.slot w = s.slot w := by
  obtain ⟨span, t, ran, turned⟩ := Span.create_calm scope.captured w s
  have silent : Silent w s t := Span.create_silent scope.captured ran
  exact ⟨span, t, bind_of_returned ran _, turned, silent.slot w⟩

theorem Task.carry_silent (t : Task κ) (scope : Scope) :
    Keeps Silent (t.carry scope : Action ρ (Task κ)) :=
  Keeps.bind silent_repeats (Carrier.create_silent scope) fun _ => Keeps.pure silent_repeats _

theorem Carrier.resume_saves (c : Carrier) (v : Option Xid) :
    Triple w (fun s : World ρ => s.bound w = v) (hook.resume c) fun
      | .returned (c, .returned ()), _ => c.scope.saved = some v
      | .returned (_, .unwound _), s => s.bound w = v
      | .unwound _, _ => False := by
  intro s r bound ran
  obtain ⟨⟨captured, _ | saved⟩, span⟩ := c
  · obtain ⟨t, hrun, -, -⟩ := resume_run captured span w s
    obtain rfl := Except.ok.inj (hrun.symm.trans ran)
    exact congrArg some bound
  · obtain ⟨t, hrun, -, hslot⟩ := resume_active (c := ⟨⟨captured, some saved⟩, span⟩) rfl w s
    obtain rfl := Except.ok.inj (hrun.symm.trans ran)
    exact (congrArg Slot.xid hslot).trans bound

/-- Suspending a carrier leaves bound what its scope saved. -/
theorem Carrier.suspend_restores {c : Carrier} {v : Option Xid} (saved : c.scope.saved = some v)
    (hasSlot : w.hasSlot) :
    Triple w (fun _ : World ρ => True) (hook.suspend c) fun _ s => s.bound w = v := by
  obtain ⟨⟨captured, _ | v⟩, span⟩ := c
  · cases saved
  · obtain rfl := Option.some.inj saved
    exact bound_of_rebinds (suspend_run captured v span w) hasSlot

namespace Task

/-- A poll that resumed no carrier changed nothing, and otherwise the outermost carrier saved what
was bound. -/
def ReachSaves (w : Worker) (v : Option Xid) :
    Fate (List Layer × Reached κ α) → World ρ → Prop
  | .returned ([], _), s => s.bound w = v
  | .returned (layer :: _, _), _ => layer.carrier.scope.saved = some v
  | .unwound _, _ => True

theorem reachUnder_saves (part : Option Part) (carrier : Carrier) (inner : Task κ)
    (reach : Action ρ (List Layer × Reached κ α)) (v : Option Xid) :
    Triple w (fun s => s.bound w = v) (reachUnder part carrier inner reach) (ReachSaves w v) := by
  refine Triple.bind (Carrier.resume_saves carrier v) (fun resumed => ?_) fun _ _ h => h.elim
  obtain ⟨carrier, ⟨⟩ | p⟩ := resumed
  · intro s r saved ran
    rcases bind_eq_ok.1 ran with ⟨⟨layers, reached⟩, t, -, hret⟩ | ⟨p, t, -, rfl⟩
    · obtain rfl := pure_eq_ok.1 hret
      exact saved
    · trivial
  · exact Triple.bind (bound_of_silent (settleUnder_silent part carrier _) v)
      (fun _ => Triple.pure fun _ h => h) fun _ _ _ => trivial

/-- The way in of a poll. -/
theorem reach_saves (t : Task κ) (v : Option Xid) :
    Triple w (fun s : World ρ => s.bound w = v) (t.reach (α := α)) (ReachSaves w v) := by
  cases t with
  | plain future => exact Triple.pure fun _ h => h
  | carried carrier inner => exact reachUnder_saves none carrier inner inner.reach v
  | fresh t info business =>
    have dropped := fun fate : Fate (Progress α) =>
      bound_of_silent (w := w) (endWith_silent (ρ := ρ) (κ := κ) fate business.drop_silent) v
    refine Triple.bind_attempt (bound_of_silent (t.start_silent info) v) fun outcome => ?_
    obtain (e | part) | p := outcome
    · exact Triple.bind (dropped _) (fun _ => Triple.pure fun _ h => h) fun _ _ _ => trivial
    · exact Triple.bind (bound_of_silent (Carrier.create_silent _) v)
        (fun carrier => reachUnder_saves (some part) carrier business business.reach v)
        fun _ _ _ => trivial
    · exact Triple.bind (dropped _) (fun _ => Triple.pure fun _ h => h) fun _ _ _ => trivial
  | called part carrier business =>
    exact reachUnder_saves (some part) carrier business business.reach v
  | ended => exact Triple.pure fun _ h => h

end Task

namespace Layer

/-- The way out of a poll leaves bound what the outermost carrier saved. -/
theorem closeAll_restores {layer : Layer} {v : Option Xid}
    (saved : layer.carrier.scope.saved = some v) (hasSlot : w.hasSlot) (rest : List Layer)
    (polled : Polled κ α) :
    Triple w (fun _ : World ρ => True) (closeAll (layer :: rest) polled) fun
      | .returned _, s => s.bound w = v
      | .unwound _, _ => True := by
  -- what the inner layers do is forgotten: the outermost carrier is the last to write
  refine Triple.bind (N := fun _ _ => True) (fun _ _ _ _ => trivial) (fun inside => ?_)
    fun _ _ _ => trivial
  refine Triple.bind (N := fun _ s => s.bound w = v) ?_ (fun finished => ?_) fun _ _ _ => trivial
  · refine Triple.bind (Carrier.suspend_restores saved hasSlot) (fun suspended => ?_)
      fun _ _ h => h
    exact Triple.bind (Triple.settle (Q := fun _ s => s.bound w = v) (fun _ h => h) fun _ _ h => h)
      (fun _ => Triple.pure fun _ h => h) fun _ _ h => h
  · intro s r bound ran
    have after := bound_of_silent (Task.settleUnder_silent layer.part finished.1
      (inside.1, finished.2)) v bound ran
    cases r.fate
    · exact after
    · trivial

end Layer

/-! ## Polls report how they end

A poll does not unwind, provided that the future inside reports its panics. -/

/-- Every run that ends at all returns. -/
def Action.Reports (v : Worker) (x : Action ρ α) : Prop :=
  Triple v (fun _ => True) x fun fate _ => ∃ a, fate = .returned a

namespace Action.Reports

variable {β : Type} {x : Action ρ α} {f : α → Action ρ β}

theorem pure (a : α) : Reports v (Pure.pure a : Action ρ α) :=
  Triple.pure fun _ _ => ⟨a, rfl⟩

theorem bind (hx : Reports v x) (hf : ∀ a, Reports v (f a)) : Reports v (x >>= f) := by
  refine Triple.bind hx (fun a => ?_) ?_
  · exact Triple.of_imp (fun _ _ => trivial) (hf a)
  · rintro p s ⟨a, same⟩
    cases same

theorem of_calm {R : Effect ρ} (calm : Calm R x) : Reports v x := by
  intro s r _ ran
  obtain ⟨a, t, hrun, -⟩ := calm v s
  obtain rfl := Except.ok.inj (hrun.symm.trans ran)
  exact ⟨a, rfl⟩

theorem attempt (x : Action ρ α) : Reports v x.attempt := by
  intro s r _ ran
  obtain ⟨q, -, rfl⟩ := attempt_eq_ok.1 ran
  exact ⟨q.fate, rfl⟩

theorem settle (fate : Fate α) (after : Fate Unit) :
    Reports v (Action.settle fate after : Action ρ (Fate α)) :=
  Triple.settle (fun _ _ => ⟨fate, rfl⟩) fun p _ _ => ⟨.unwound p, rfl⟩

end Action.Reports

open AmbientTx.Action (Reports)

namespace Task

theorem endWith_reports (fate : Fate (Progress α)) (dropped : Action ρ Unit) :
    Reports v (endWith (κ := κ) fate dropped) :=
  (Reports.attempt dropped).bind fun after =>
    (Reports.settle fate after).bind fun _ => Reports.pure _

theorem settleUnder_reports (part : Option Part) (carrier : Carrier) (polled : Polled κ α) :
    Reports v (settleUnder part carrier polled : Action ρ (Polled κ α)) := by
  cases part with
  | none => exact Reports.pure _
  | some part =>
    obtain ⟨business, (_ | outcome) | p⟩ := polled
    · exact Reports.pure _
    · exact (Reports.attempt _).bind fun _ => Reports.pure _
    · exact endWith_reports _ _

theorem reachUnder_reports (part : Option Part) (carrier : Carrier) (inner : Task κ)
    {reach : Action ρ (List Layer × Reached κ α)} (reports : Reports v reach) :
    Reports v (reachUnder part carrier inner reach) := by
  refine (Reports.of_calm (Carrier.resume_calm carrier)).bind fun resumed => ?_
  obtain ⟨carrier, ⟨⟩ | p⟩ := resumed
  · exact reports.bind fun _ => Reports.pure _
  · exact (settleUnder_reports part carrier _).bind fun _ => Reports.pure _

theorem reach_reports (t : Task κ) :
    Reports v (t.reach : Action ρ (List Layer × Reached κ α)) := by
  induction t with
  | plain future => exact Reports.pure _
  | carried carrier inner ih => exact reachUnder_reports none carrier inner ih
  | fresh t info business ih =>
    refine (Reports.attempt _).bind fun outcome => ?_
    obtain (e | part) | p := outcome
    · exact (endWith_reports _ _).bind fun _ => Reports.pure _
    · exact (Reports.of_calm (Carrier.create_calm _)).bind fun carrier =>
        reachUnder_reports (some part) carrier business ih
    · exact (endWith_reports _ _).bind fun _ => Reports.pure _
  | called part carrier business ih => exact reachUnder_reports (some part) carrier business ih
  | ended => exact Reports.pure _

theorem closeAll_reports (layers : List Layer) (polled : Polled κ α) :
    Reports v (Layer.closeAll layers polled : Action ρ (Polled κ α)) := by
  induction layers with
  | nil => exact Reports.pure _
  | cons layer rest ih =>
    have finished (polled : Polled κ α) :
        Reports v (Carrier.hook.finish layer.carrier polled.2 :
          Action ρ (Carrier × Fate (Progress α))) :=
      (Reports.of_calm (Carrier.suspend_calm _)).bind fun _ =>
        (Reports.settle _ _).bind fun _ => Reports.pure _
    exact ih.bind fun polled => (finished polled).bind fun _ => settleUnder_reports _ _ _

theorem pollUpTo_reports {run : κ → Action ρ (κ × Fate (Progress α))}
    (reports : ∀ future, Reports v (run future)) (n : Nat) (t : Task κ) :
    Reports v (t.pollUpTo run n) := by
  induction n generalizing t with
  | zero => exact Reports.pure _
  | succ n ih =>
    have polled : Reports v (t.poll run) := by
      rw [poll_eq]
      refine t.reach_reports.bind fun found => ?_
      refine Reports.bind (x := pollReached run found.2) ?_ fun _ => closeAll_reports _ _
      cases found.2 with
      | inside future => exact (reports future).bind fun _ => Reports.pure _
      | ended polled => exact Reports.pure _
    refine polled.bind fun outcome => ?_
    obtain ⟨t, (_ | outcome) | p⟩ := outcome
    · exact ih t
    · exact Reports.pure _
    · exact Reports.pure _

end Task

end AmbientTx
