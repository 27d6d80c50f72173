import AmbientTx.Proofs.Call
import AmbientTx.Proofs.Operation

/-! # Every transaction that is begun is completed once

The launcher of a transaction is a call that runs its business, or a task whose business waits. The
invariant of a run is a balance, for every manager and every transaction: what the manager began is
what was committed, what was rolled back, and what has a launcher still (`World.Owes`). Each
operation is given by what it does to the balance: a call that begins adds a launcher, and a call
that completes removes one. The rest of the balance is a list that every specification carries
along.
-/

namespace AmbientTx

variable {ρ κ α ε : Type} {w : Worker} {s t : World ρ} {ls : List Launch}

/-! ## The balance of a world -/

namespace Exchange

/-- The transaction that was begun. -/
def begun? : Exchange → Option Xid
  | .launch _ (.granted x) => some x
  | _ => none

/-- The transaction that was to be committed. -/
def committed? : Exchange → Option Xid
  | .commit x _ => some x
  | _ => none

/-- The transaction that was to be rolled back. -/
def rolledBack? : Exchange → Option Xid
  | .rollback x _ => some x
  | _ => none

end Exchange

open Exchange

namespace World

/-- How many calls to the manager of a launch were about its transaction in this way. -/
def tally (about : Exchange → Option Xid) (s : World ρ) (l : Launch) : Nat :=
  s.calls.countP fun c => decide (c.manager = l.manager ∧ about c.exchange = some l.xid)

/-- These launches were begun and are not completed, and all others are. -/
def Owes (ls : List Launch) (s : World ρ) : Prop :=
  ∀ l, s.tally begun? l = s.tally committed? l + s.tally rolledBack? l + ls.count l

theorem Owes.of_count {ls' : List Launch} (h : s.Owes ls) (same : ∀ l, ls'.count l = ls.count l) :
    s.Owes ls' := by
  intro l
  rw [same l]
  exact h l

theorem Owes.of_calls (h : s.Owes ls) (same : t.calls = s.calls) : t.Owes ls := by
  intro l
  simp only [tally, same]
  exact h l

theorem Called.tally {m : ManagerName} {e : Exchange} (h : Called w m e s t)
    (about : Exchange → Option Xid) (l : Launch) :
    t.tally about l =
      s.tally about l + if m = l.manager ∧ about e = some l.xid then 1 else 0 := by
  simp [World.tally, h.calls, List.countP_append, List.countP_singleton]

theorem count_launch (m : ManagerName) (x : Xid) (ls : List Launch) (l : Launch) :
    (Launch.mk m x :: ls).count l = ls.count l + if m = l.manager ∧ x = l.xid then 1 else 0 := by
  obtain ⟨m', x'⟩ := l
  simp [List.count_cons]

/-- A call that completes a transaction takes it off the balance. -/
theorem Called.owes_of_completed {m : ManagerName} {x : Xid} {answer : Answer GlobalStatus}
    {e : Exchange} (completes : e = .commit x answer ∨ e = .rollback x answer)
    (h : Called w m e s t) (owes : s.Owes (⟨m, x⟩ :: ls)) : t.Owes ls := by
  intro l
  have before := owes l
  rw [count_launch] at before
  rw [h.tally, h.tally, h.tally]
  rcases completes with rfl | rfl
  · simp only [begun?, committed?, rolledBack?, Option.some.injEq, reduceCtorEq, and_false,
      if_false]
    omega
  · simp only [begun?, committed?, rolledBack?, Option.some.injEq, reduceCtorEq, and_false,
      if_false]
    omega

end World

open World AmbientTx.Action

/-- The launches that a call of this end led to. -/
def Fate.launches {δ : Type} (launches : α → List Launch) : Fate (Except δ α) → List Launch
  | .returned (.ok a) => launches a
  | .returned (.error _) | .unwound _ => []

theorem Fate.launches_of_refused {δ : Type} {launches : α → List Launch}
    {fate : Fate (Except δ α)} (refused : ∀ a, fate ≠ .returned (.ok a)) :
    fate.launches launches = [] := by
  obtain (e | a) | p := fate
  · rfl
  · exact absurd rfl (refused a)
  · rfl

namespace Manager

theorem launch_owes (m : ManagerName) (request : BeginRequest) :
    Triple w (Owes (ρ := ρ) ls) (launch m request) fun fate =>
      Owes (fate.launches (fun x => [⟨m, x⟩]) ++ ls) := by
  intro s r owes ran
  obtain ⟨answer, t, hrun, hcall⟩ := launch_run m request w s
  obtain rfl := Except.ok.inj (hrun.symm.trans ran)
  intro l
  have before := owes l
  rw [hcall.tally, hcall.tally, hcall.tally]
  cases answer with
  | granted x =>
    simp only [Answer.fate, Fate.launches, List.singleton_append, count_launch, begun?,
      committed?, rolledBack?, Option.some.injEq, reduceCtorEq, and_false, if_false]
    omega
  | refused e => simpa [Answer.fate, Fate.launches, begun?, committed?, rolledBack?] using before
  | panicked p => simpa [Answer.fate, Fate.launches, begun?, committed?, rolledBack?] using before

theorem commit_owes (m : ManagerName) (x : Xid) :
    Triple w (Owes (ρ := ρ) (⟨m, x⟩ :: ls)) (commit m x) fun _ => Owes ls := by
  intro s r owes ran
  obtain ⟨answer, t, hrun, hcall⟩ := commit_run m x w s
  obtain rfl := Except.ok.inj (hrun.symm.trans ran)
  exact hcall.owes_of_completed (.inl rfl) owes

theorem rollback_owes (m : ManagerName) (x : Xid) :
    Triple w (Owes (ρ := ρ) (⟨m, x⟩ :: ls)) (rollback m x) fun _ => Owes ls := by
  intro s r owes ran
  obtain ⟨answer, t, hrun, hcall⟩ := rollback_run m x w s
  obtain rfl := Except.ok.inj (hrun.symm.trans ran)
  exact hcall.owes_of_completed (.inr rfl) owes

end Manager

/-! ## Transactional calls -/

/-- The balance stays as it is while no manager is called. -/
theorem Owes.of_calm {x : Action ρ α} (h : Calm Turned x) :
    Triple w (Owes ls) x fun _ => Owes ls :=
  Triple.of_keeps h.keeps fun turned owes => owes.of_calls turned.calls

theorem Owes.bind_calm {x : Action ρ α} {f : α → Action ρ ε} {Q : Fate ε → World ρ → Prop}
    (h : Calm Turned x) (hf : ∀ a, Triple w (Owes ls) (f a) Q) :
    Triple w (Owes ls) (x >>= f) Q :=
  Triple.bind_calm h (fun turned owes => owes.of_calls turned.calls) hf

namespace Launch

theorem complete_owes (l : Launch) (outcome : Except ε α) :
    Triple w (Owes (ρ := ρ) (l :: ls)) (l.complete outcome) fun _ => Owes ls := by
  cases outcome with
  | ok a =>
    refine Triple.bind (Manager.commit_owes l.manager l.xid) (fun answer => ?_) fun _ _ h => h
    cases answer with
    | error e => exact Owes.bind_calm (log_calm rfl) fun _ => Triple.pure fun _ h => h
    | ok status => exact Owes.bind_calm (logCommit_calm _ _) fun _ => Triple.pure fun _ h => h
  | error b =>
    refine Triple.bind (Manager.rollback_owes l.manager l.xid) (fun answer => ?_) fun _ _ h => h
    cases answer with
    | error e => exact Owes.bind_calm (log_calm rfl) fun _ => Triple.pure fun _ h => h
    | ok status => exact Owes.bind_calm (logRollback_calm _ _) fun _ => Triple.pure fun _ h => h

theorem abandon_owes (l : Launch) :
    Triple w (Owes (ρ := ρ) (l :: ls)) l.abandon fun _ => Owes ls := by
  refine Owes.bind_calm (log_calm rfl) fun _ =>
    Triple.bind (Manager.rollback_owes l.manager l.xid) (fun answer => ?_) fun _ _ h => h
  cases answer with
  | error e => exact Owes.of_calm (log_calm rfl)
  | ok status => exact Owes.of_calm (logRollback_calm _ _)

end Launch

namespace Part

/-- What a part has to complete. -/
def launches : Part → List Launch
  | .joined _ => []
  | .launched l => [l]

/-- What a part has to complete, if there is one. -/
def launchesOf (part : Option Part) : List Launch :=
  (part.map launches).getD []

theorem complete_owes (part : Part) (outcome : Except ε α) :
    Triple w (Owes (ρ := ρ) (part.launches ++ ls)) (part.complete outcome) fun _ => Owes ls := by
  cases part with
  | joined x => exact Triple.pure fun _ h => h
  | launched l => exact l.complete_owes outcome

theorem abandon_owes (part : Part) :
    Triple w (Owes (ρ := ρ) (part.launches ++ ls)) part.abandon fun _ => Owes ls := by
  cases part with
  | joined x => exact Triple.pure fun _ h => h
  | launched l => exact l.abandon_owes

/-- A call completes what it launched, whether its business returned or unwound. -/
theorem leave_owes (part : Part) (fate : Fate (Except ε α)) :
    Triple w (Owes (ρ := ρ) (part.launches ++ ls)) (part.leave fate) fun _ => Owes ls := by
  cases fate with
  | returned outcome =>
    exact Triple.ensuring (part.complete_owes outcome) (Owes.of_calm part.release_calm)
  | unwound p =>
    exact Triple.ensuring (Triple.panic fun _ h => h)
      (Owes.bind_calm part.release_calm fun _ => part.abandon_owes)

end Part

namespace Template

theorem launch_owes (t : Template) (info : CallInfo) :
    Triple w (Owes (ρ := ρ) ls) (t.launch info : Action ρ (Except (CallError ε) Launch))
      fun fate => Owes (fate.launches (fun l => [l]) ++ ls) := by
  refine Owes.bind_calm t.managerInUse_calm fun found => ?_
  cases found with
  | none => exact Triple.pure fun _ h => h
  | some m =>
    refine Owes.bind_calm (t.timeoutInUse_calm info) fun timeout =>
      Triple.bind (Manager.launch_owes m _) (fun answer => ?_) fun _ _ h => h
    cases answer with
    | error e => exact Owes.bind_calm (log_calm rfl) fun _ => Triple.pure fun _ h => h
    | ok x => exact Owes.bind_calm (log_calm rfl) fun _ => Triple.pure fun _ h => h

theorem start_owes (t : Template) (info : CallInfo) :
    Triple w (Owes (ρ := ρ) ls) (t.start info : Action ρ (Except (CallError ε) Part))
      fun fate => Owes (fate.launches Part.launches ++ ls) := by
  refine Owes.bind_calm Ambient.current_calm fun bound => ?_
  cases bound with
  | some x => exact Owes.bind_calm (log_calm rfl) fun _ => Triple.pure fun _ h => h
  | none =>
    refine Triple.bind (t.launch_owes info) (fun outcome => ?_) fun _ _ h => h
    cases outcome with
    | error e => exact Triple.pure fun _ h => h
    | ok l => exact Triple.pure fun _ h => h

theorem enter_owes (t : Template) (info : CallInfo) :
    Triple w (Owes (ρ := ρ) ls) (t.enter info : Action ρ (Except (CallError ε) Part))
      fun fate => Owes (fate.launches Part.launches ++ ls) := by
  refine Triple.bind (t.start_owes info) (fun outcome => ?_) fun _ _ h => h
  cases outcome with
  | error e => exact Triple.pure fun _ h => h
  | ok part => exact Owes.bind_calm part.bind_calm fun _ => Triple.pure fun _ h => h

end Template

/-! ## Tasks -/

namespace Task

/-- What the calls in a task have to complete. -/
def launches : Task κ → List Launch
  | .plain _ | .ended => []
  | .carried _ inner => inner.launches
  | .fresh _ _ business => business.launches
  | .called part _ business => business.launches ++ part.launches

/-- Dropping a task completes whatever the calls in it launched. -/
theorem drop_owes (t : Task κ) :
    Triple w (Owes (ρ := ρ) (t.launches ++ ls)) t.drop fun _ => Owes ls := by
  induction t generalizing ls with
  | plain future => exact Triple.pure fun _ h => h
  | carried carrier inner ih => exact ih
  | fresh t info business ih => exact ih
  | called part carrier business ih =>
    rw [launches, List.append_assoc]
    exact Triple.ensuring ih part.abandon_owes
  | ended => exact Triple.pure fun _ h => h

/-- A task that is ready has nothing left to complete. -/
def Spent (polled : Polled κ α) : Prop :=
  ∀ outcome, polled.2 = .returned (.ready outcome) → polled.1.launches = []

theorem spent_of_unwound (t : Task κ) (p : Panic) :
    Spent (t, (.unwound p : Fate (Progress α))) := by
  intro outcome h
  cases h

/-- The balance after a poll. -/
def PollOwes (ls : List Launch) : Fate (Polled κ α) → World ρ → Prop
  | .returned polled, s => Spent polled ∧ s.Owes (polled.1.launches ++ ls)
  | .unwound _, _ => False

theorem endWith_owes {ls' : List Launch} (fate : Fate (Progress α)) {dropped : Action ρ Unit}
    (h : Triple w (Owes ls') dropped fun _ => Owes ls) :
    Triple w (Owes ls') (endWith (κ := κ) fate dropped) (PollOwes ls) := by
  have settled (after : Fate Unit) : Triple w (Owes (ρ := ρ) ls) (Action.settle fate after)
      fun joined s => (∃ fate, joined = .returned fate) ∧ s.Owes ls :=
    Triple.settle (fun _ owes => ⟨⟨_, rfl⟩, owes⟩) fun _ _ owes => ⟨⟨_, rfl⟩, owes⟩
  refine Triple.bind_attempt h fun after => Triple.bind (settled after) (fun fate => ?_) ?_
  · exact Triple.pure fun _ h => ⟨fun _ _ => rfl, h.2⟩
  · rintro p s ⟨⟨fate, unwound⟩, -⟩
    cases unwound

/-- A call completes its transaction in the poll that ends the business. -/
theorem afterBusiness_owes (part : Part) (carrier : Carrier) (polled : Polled κ α)
    (spent : Spent polled) :
    Triple w (Owes (ρ := ρ) (polled.1.launches ++ (part.launches ++ ls)))
      (afterBusiness part carrier polled) (PollOwes ls) := by
  -- the business waits, is ready, or panicked
  obtain ⟨business, (_ | outcome) | p⟩ := polled
  · refine Triple.pure fun s owes => ⟨fun _ h => (nomatch h), ?_⟩
    rwa [launches, List.append_assoc]
  · rw [show business.launches = [] from spent outcome rfl]
    exact Triple.bind_attempt (part.complete_owes outcome) fun fate =>
      Triple.pure fun _ owes => ⟨fun _ _ => rfl, owes⟩
  · exact endWith_owes _ (Triple.ensuring business.drop_owes part.abandon_owes)

theorem settleUnder_owes (part : Option Part) (carrier : Carrier) (polled : Polled κ α)
    (spent : Spent polled) :
    Triple w (Owes (ρ := ρ) (polled.1.launches ++ (Part.launchesOf part ++ ls)))
      (settleUnder part carrier polled) (PollOwes ls) := by
  cases part with
  | none => exact Triple.pure fun s owes => ⟨spent, owes⟩
  | some part => exact afterBusiness_owes part carrier polled spent

end Task

/-- What the calls between a poll and the future inside have to complete. -/
def layersLaunches (layers : List Layer) : List Launch :=
  layers.flatMap fun layer => Part.launchesOf layer.part

namespace Task

/-- The balance after the way in of a poll. -/
def ReachOwes (ls : List Launch) : Fate (List Layer × Reached κ α) → World ρ → Prop
  | .returned (layers, .inside _), s => s.Owes (layersLaunches layers ++ ls)
  | .returned (layers, .ended polled), s =>
    PollOwes (layersLaunches layers ++ ls) (.returned polled) s
  | .unwound _, _ => False

theorem reachUnder_owes (part : Option Part) (carrier : Carrier) (inner : Task κ)
    {reach : Action ρ (List Layer × Reached κ α)}
    (h : ∀ ls, Triple w (Owes (inner.launches ++ ls)) reach (ReachOwes ls)) :
    Triple w (Owes (inner.launches ++ (Part.launchesOf part ++ ls)))
      (reachUnder part carrier inner reach) (ReachOwes ls) := by
  refine Owes.bind_calm (Carrier.resume_calm carrier) fun resumed => ?_
  obtain ⟨carrier, ⟨⟩ | p⟩ := resumed
  · refine Triple.bind (h _) (fun found => ?_) fun _ _ h => h
    obtain ⟨layers, future | polled⟩ := found
    · refine Triple.pure fun s owes => owes.of_count fun l => ?_
      simp only [layersLaunches, List.flatMap_cons, List.count_append]
      omega
    · refine Triple.pure fun s owes => ⟨owes.1, owes.2.of_count fun l => ?_⟩
      simp only [layersLaunches, List.flatMap_cons, List.count_append]
      omega
  · exact Triple.bind (settleUnder_owes part carrier (inner, .unwound p) (spent_of_unwound inner p))
      (fun _ => Triple.pure fun _ h => h) fun _ _ h => h

/-- The way in of a poll may launch a transaction, whose launcher is then the outermost layer. -/
theorem reach_owes (t : Task κ) :
    Triple w (Owes (ρ := ρ) (t.launches ++ ls)) (t.reach (α := α)) (ReachOwes ls) := by
  -- the layers around `t` are in `ls`, so the induction needs every `ls`
  induction t generalizing ls with
  | plain future => exact Triple.pure fun _ h => h
  | carried carrier inner ih => exact reachUnder_owes none carrier inner fun _ => ih
  | fresh t info business ih =>
    refine Triple.bind_attempt (t.start_owes info) fun outcome => ?_
    obtain (e | part) | p := outcome
    · exact Triple.bind (endWith_owes _ business.drop_owes) (fun _ => Triple.pure fun _ h => h)
        fun _ _ h => h
    · refine Owes.bind_calm (Carrier.create_calm _) fun carrier => ?_
      refine Triple.of_imp (fun s owes => owes.of_count fun l => ?_)
        (reachUnder_owes (some part) carrier business fun _ => ih)
      simp only [launches, Fate.launches, Part.launchesOf, Option.map_some, Option.getD_some,
        List.count_append]
      omega
    · exact Triple.bind (endWith_owes _ business.drop_owes) (fun _ => Triple.pure fun _ h => h)
        fun _ _ h => h
  | called part carrier business ih =>
    rw [launches, List.append_assoc]
    exact reachUnder_owes (some part) carrier business fun _ => ih
  | ended => exact Triple.pure fun _ h => ⟨spent_of_unwound _ _, h⟩

end Task

namespace Layer

/-- The balance once the end of what is inside a layer is joined with that of its carrier. -/
def JoinedOwes (inside : Task κ) (ls : List Launch) :
    Fate (Fate (Progress α)) → World ρ → Prop
  | .returned fate, s => Task.Spent (inside, fate) ∧ s.Owes (inside.launches ++ ls)
  | .unwound _, _ => False

theorem close_owes (layer : Layer) (polled : Polled κ α) (spent : Task.Spent polled) :
    Triple w (Owes (ρ := ρ) (polled.1.launches ++ (Part.launchesOf layer.part ++ ls)))
      (layer.close polled) (Task.PollOwes ls) := by
  simp only [close, Hook.finish, bind_assoc, pure_bind]
  refine Owes.bind_calm (Carrier.suspend_calm _) fun suspended => ?_
  refine Triple.bind (N := JoinedOwes polled.1 (Part.launchesOf layer.part ++ ls))
    (Triple.settle (fun s owes => ⟨spent, owes⟩) fun p s owes =>
      ⟨Task.spent_of_unwound polled.1 p, owes⟩)
    (fun fate => ?_) fun _ _ h => h.elim
  intro s r h ran
  exact Task.settleUnder_owes layer.part suspended.1 (polled.1, fate) h.1 h.2 ran

/-- The way out of a poll. -/
theorem closeAll_owes (layers : List Layer) (polled : Polled κ α) (spent : Task.Spent polled) :
    Triple w (Owes (ρ := ρ) (polled.1.launches ++ (layersLaunches layers ++ ls)))
      (closeAll layers polled) (Task.PollOwes ls) := by
  induction layers generalizing ls with
  | nil => exact Triple.pure fun _ h => ⟨spent, h⟩
  | cons layer rest ih =>
    have inside : Triple w
        (Owes (ρ := ρ) (polled.1.launches ++ (layersLaunches (layer :: rest) ++ ls)))
        (closeAll rest polled) (Task.PollOwes (Part.launchesOf layer.part ++ ls)) :=
      Triple.of_imp (fun s owes => owes.of_count fun l => by
        simp only [layersLaunches, List.flatMap_cons, List.count_append]
        omega) ih
    refine Triple.bind inside (fun polled => ?_) fun _ _ h => h
    intro s r h ran
    exact layer.close_owes polled h.1 h.2 ran

end Layer

/-! ## Polls that end a call -/

/-- Suspending a hook never makes a body return that did not. -/
theorem Hook.returned_of_finish {η : Type} {h : Hook ρ η} {active after : η} {fate : Fate α} {a : α}
    (ran : h.finish active fate w s = .ok ⟨.returned (after, .returned a), t⟩) :
    fate = .returned a := by
  obtain ⟨⟨state, suspended⟩, u, -, ran⟩ := bind_eq_returned.1 ran
  obtain ⟨joined, v, settled, ran⟩ := bind_eq_returned.1 ran
  cases ran
  obtain ⟨-, ⟨-, same⟩ | ⟨a', p, -, -, unwound⟩⟩ := settle_eq_ok settled
  · exact (Fate.returned.inj same).symm
  · cases unwound

namespace Task

/-- Whether a task is a transactional call, whatever came of it. -/
def isCall : Task κ → Bool
  | .fresh _ _ _ | .called _ _ _ | .ended => true
  | .plain _ | .carried _ _ => false

theorem ended_of_endWith {fate : Fate (Progress α)} {dropped : Action ρ Unit} {polled : Polled κ α}
    (ran : endWith fate dropped w s = .ok ⟨.returned polled, t⟩) : polled.1 = .ended := by
  obtain ⟨after, u, -, ran⟩ := bind_eq_returned.1 ran
  obtain ⟨joined, v, -, ran⟩ := bind_eq_returned.1 ran
  cases ran
  rfl

theorem ended_of_afterBusiness {part : Part} {carrier : Carrier} {inside polled : Polled κ α}
    (ran : afterBusiness part carrier inside w s = .ok ⟨.returned polled, t⟩)
    (answered : polled.2 ≠ .returned .waiting) : polled.1 = .ended := by
  obtain ⟨business, (_ | outcome) | p⟩ := inside
  · cases ran
    exact absurd rfl answered
  · obtain ⟨fate, u, -, ran⟩ := bind_eq_returned.1 ran
    cases ran
    rfl
  · exact ended_of_endWith ran

variable {run : κ → Action ρ (κ × Fate (Progress α))} {task : Task κ} {polled : Polled κ α}

theorem ended_of_pollCalled {part : Part} {carrier : Carrier} {business : Task κ}
    {poll : Action ρ (Polled κ α)}
    (ran : pollCalled part carrier business poll w s = .ok ⟨.returned polled, t⟩)
    (answered : polled.2 ≠ .returned .waiting) : polled.1 = .ended := by
  obtain ⟨⟨carrier', inside⟩, u, -, ran⟩ := bind_eq_returned.1 ran
  exact ended_of_afterBusiness ran answered

/-- A call ends in the poll that does not leave it waiting. -/
theorem ended_of_poll (call : task.isCall)
    (ran : task.poll run w s = .ok ⟨.returned polled, t⟩)
    (answered : polled.2 ≠ .returned .waiting) : polled.1 = .ended := by
  cases task with
  | plain future | carried carrier inner => cases call
  | fresh template info business =>
    obtain ⟨outcome, u, -, ran⟩ := bind_eq_returned.1 ran
    obtain (e | part) | p := outcome
    · exact ended_of_endWith ran
    · obtain ⟨carrier, v, -, ran⟩ := bind_eq_returned.1 ran
      exact ended_of_pollCalled ran answered
    · exact ended_of_endWith ran
  | called part carrier business => exact ended_of_pollCalled ran answered
  | ended =>
    cases ran
    rfl

/-- A task that is ready has nothing left to complete: if it is carried, neither has what is
inside. -/
theorem launches_of_ready {outcome : Except TaskFailure α}
    (ran : task.poll run w s = .ok ⟨.returned polled, t⟩)
    (ready : polled.2 = .returned (.ready outcome)) : polled.1.launches = [] := by
  have answered : polled.2 ≠ .returned .waiting := by
    rw [ready]
    exact fun waits => nomatch waits
  induction task generalizing s t polled with
  | plain future =>
    obtain ⟨⟨future', fate⟩, u, -, ran⟩ := bind_eq_returned.1 ran
    cases ran
    rfl
  | carried carrier inner ih =>
    obtain ⟨⟨carrier', inner', fate⟩, u, around, ran⟩ := bind_eq_returned.1 ran
    cases ran
    obtain ⟨⟨active, resumed⟩, v, -, around⟩ := bind_eq_returned.1 around
    obtain ⟨⟩ | p := resumed
    · obtain ⟨⟨kept, fate'⟩, v', inside, around⟩ := bind_eq_returned.1 around
      obtain ⟨⟨idle, fate''⟩, v'', finished, around⟩ := bind_eq_returned.1 around
      cases around
      obtain rfl : fate = _ := ready
      obtain rfl := Hook.returned_of_finish finished
      exact @ih _ _ (inner', _) inside rfl answered
    · cases around
      cases ready
  | fresh template info business =>
    rw [ended_of_poll rfl ran answered]
    rfl
  | called part carrier business =>
    rw [ended_of_poll rfl ran answered]
    rfl
  | ended =>
    rw [ended_of_poll rfl ran answered]
    rfl

end Task

/-! ## Runs -/

/-- What a worker in the middle of a stay has to complete. -/
def Stay.launches : Stay → List Launch
  | .guarded _ => []
  | .call part => part.launches
  | .poll layers => layersLaunches layers

namespace System

/-- What all workers that are in the middle of a stay have to complete. -/
def stayLaunches (stays : List (Worker × Stay)) : List Launch :=
  stays.flatMap fun e => e.2.launches

/-- What all tasks have to complete. -/
def taskLaunches (tasks : List (Task κ)) : List Launch :=
  tasks.flatMap Task.launches

/-- The launchers that have not completed their transaction: calls that run their business, and
tasks that are polled or wait. -/
def live (c : System ρ κ) : List Launch :=
  stayLaunches c.stays ++ taskLaunches c.tasks

variable {c d : System ρ κ} {mark : Mark} {stay : Stay} {t : Task κ} {tasks : List (Task κ)}
  {inner outer : List (Worker × Stay)}

/-- The innermost stay of a worker set apart. -/
theorem owes_of_innermost (top : c.Innermost w stay inner outer) (owes : c.world.Owes c.live) :
    c.world.Owes (stay.launches ++ (stayLaunches (inner ++ outer) ++ taskLaunches c.tasks)) := by
  refine owes.of_count fun l => ?_
  rw [live, top.split]
  simp only [stayLaunches, List.flatMap_append, List.flatMap_cons, List.count_append]
  omega

/-- A task set apart. -/
theorem owes_of_perm (perm : c.tasks.Perm (t :: tasks)) (owes : c.world.Owes c.live) :
    c.world.Owes (t.launches ++ (stayLaunches c.stays ++ taskLaunches tasks)) := by
  refine owes.of_count fun l => ?_
  have same : (taskLaunches c.tasks).count l = (taskLaunches (t :: tasks)).count l :=
    (perm.flatMap_right Task.launches).count_eq l
  simp only [taskLaunches, List.flatMap_cons, List.count_append] at same
  simp only [live, taskLaunches, List.count_append, same]
  omega

/-- A stay joins those of the workers. -/
theorem owes_cons_stay {s : World ρ} {stays : List (Worker × Stay)} {ls : List Launch}
    (owes : s.Owes (stay.launches ++ (stayLaunches stays ++ ls))) :
    s.Owes (stayLaunches ((w, stay) :: stays) ++ ls) := by
  rwa [stayLaunches, List.flatMap_cons, List.append_assoc]

/-- A task joins the others. -/
theorem owes_cons_task {s : World ρ} {ls : List Launch}
    (owes : s.Owes (t.launches ++ (ls ++ taskLaunches tasks))) :
    s.Owes (ls ++ taskLaunches (t :: tasks)) := by
  refine owes.of_count fun l => ?_
  simp only [taskLaunches, List.flatMap_cons, List.count_append]
  omega

/-- A step of any worker keeps the balance. -/
theorem Step.owes (step : Step w mark c d) (owes : c.world.Owes c.live) :
    d.world.Owes d.live := by
  cases step with
  | operate op ran =>
    obtain ⟨a, t, hrun, hlocal⟩ := op.perform_calm w c.world
    obtain rfl := Except.ok.inj (hrun.symm.trans ran)
    exact owes.of_calls hlocal.calls
  | answers m v => exact owes.of_calls rfl
  | enter ran => exact owes_cons_stay (Owes.of_calm (Scope.activate_calm _) owes ran)
  | resume ran => exact owes_cons_stay (Owes.of_calm (Scope.resume_calm _) owes ran)
  | release top ran =>
    exact (owes_of_innermost top owes).of_calls ((Scope.release_calm _).keeps ran).calls
  | suspend top ran =>
    exact Owes.of_calm (Scope.suspend_calm _) (owes_of_innermost top owes) ran
  | call t info ran => exact owes_cons_stay (t.enter_owes info owes ran)
  | refuse t info ran refused =>
    have after := t.enter_owes info owes ran
    simp only [Fate.launches_of_refused refused, List.nil_append] at after
    exact after
  | leave top fate ran => exact Part.leave_owes _ fate (owes_of_innermost top owes) ran
  | future future => exact owes_cons_task owes
  | carry perm scope ran =>
    obtain ⟨carrier, s, hrun, hturn⟩ := Carrier.create_calm scope w c.world
    have before := (owes_of_perm perm owes).of_calls hturn.calls
    rw [Task.carry, bind_of_returned hrun] at ran
    cases ran
    exact owes_cons_task (t := .carried carrier _) before
  | wrap perm template info =>
    have before := owes_of_perm perm owes
    exact owes_cons_task (t := .fresh template info _) before
  | poll perm ran => exact owes_cons_stay (Task.reach_owes _ (owes_of_perm perm owes) ran)
  | pass perm ran closed =>
    obtain ⟨spent, reached⟩ := Task.reach_owes _ (owes_of_perm perm owes) ran
    exact owes_cons_task (Layer.closeAll_owes _ _ spent reached closed).2
  | finish top future fate ran =>
    have closed := Layer.closeAll_owes _ (.plain future, fate) (fun _ _ => rfl)
      (owes_of_innermost top owes) ran
    exact owes_cons_task closed.2
  | drop perm ran =>
    have before := owes_of_perm perm owes
    exact Task.drop_owes _ before ran

/-- Every run keeps the balance. -/
theorem Runs.owes (runs : Runs c d) (owes : c.world.Owes c.live) : d.world.Owes d.live := by
  induction runs with
  | refl => exact owes
  | step runs step ih => exact step.owes ih

end System

/-! ## Runs that are over -/

/-- Whether a worker is in the middle of a transactional call. -/
def Stay.hasCall : Stay → Bool
  | .guarded _ => false
  | .call _ => true
  | .poll layers => layers.any fun layer => layer.part.isSome

/-- Whether a transactional call in a task has begun and not ended. -/
def Task.isPending : Task κ → Bool
  | .plain _ | .ended => false
  | .carried _ inner => inner.isPending
  | .fresh _ _ business => business.isPending
  | .called _ _ _ => true

theorem Stay.launches_of_not_hasCall (stay : Stay) (h : stay.hasCall = false) :
    stay.launches = [] := by
  cases stay with
  | guarded scope => rfl
  | call part => exact nomatch h
  | poll layers =>
    rw [launches, layersLaunches, List.flatMap_eq_nil_iff]
    intro layer mem
    have none : layer.part = none := by
      simpa using List.any_eq_false.1 h layer mem
    rw [none]
    rfl

theorem Task.launches_of_not_isPending (t : Task κ) (h : t.isPending = false) :
    t.launches = [] := by
  induction t with
  | plain future => rfl
  | carried carrier inner ih => exact ih h
  | fresh t info business ih => exact ih h
  | called part carrier business ih => exact nomatch h
  | ended => rfl

namespace System

variable {c₀ c : System ρ κ}

/-- Every call has returned or unwound, and every task that took part in a transaction has ended or
was dropped. -/
structure Settled (c : System ρ κ) : Prop where
  stays : ∀ e ∈ c.stays, e.2.hasCall = false
  tasks : ∀ t ∈ c.tasks, t.isPending = false

theorem Settled.live_eq (settled : c.Settled) : c.live = [] := by
  rw [live, List.append_eq_nil_iff, stayLaunches, taskLaunches, List.flatMap_eq_nil_iff,
    List.flatMap_eq_nil_iff]
  exact ⟨fun e mem => e.2.launches_of_not_hasCall (settled.stays e mem),
    fun t mem => t.launches_of_not_isPending (settled.tasks t mem)⟩

/-- At every point of every run, a manager has begun a transaction as often as a template had it
commit or roll back that transaction, and as there are launchers that still have to. So once
everything has ended, what was begun was completed exactly once. And what ends is no launcher any
more: a poll that is ready leaves nothing to complete, and a call that is ready or unwound has
ended. -/
theorem begun_eq_completed_add_live (idle : c₀.Idle) (uncalled : c₀.world.calls = [])
    (runs : Runs c₀ c) :
    (∀ l, c.world.tally begun? l =
      c.world.tally committed? l + c.world.tally rolledBack? l + c.live.count l) ∧
    (c.Settled → ∀ l, c.world.tally begun? l =
      c.world.tally committed? l + c.world.tally rolledBack? l) ∧
    ∀ (α : Type) (run : κ → Action ρ (κ × Fate (Progress α))) (w : Worker) (s t : World ρ)
      (task task' : Task κ) (fate : Fate (Progress α)),
      task.poll run w s = .ok ⟨.returned (task', fate), t⟩ →
      (∀ outcome, fate = .returned (.ready outcome) → task'.launches = []) ∧
      (task.isCall → fate ≠ .returned .waiting → task' = .ended) := by
  have start : c₀.world.Owes c₀.live := by
    intro l
    simp only [World.tally, uncalled, live, idle.1, idle.2]
    rfl
  have balance := runs.owes start
  refine ⟨balance, fun settled l => ?_, fun _ _ _ _ _ _ _ _ ran => ⟨fun _ ready => ?_, ?_⟩⟩
  · have after := balance l
    rwa [settled.live_eq, List.count_nil, Nat.add_zero] at after
  · exact Task.launches_of_ready ran ready
  · exact fun call answered => Task.ended_of_poll call ran answered

/-- A future that is polled once and then dropped: what its call began is rolled back. -/
theorem begun_eq_completed_of_dropped :
    let l : Launch := ⟨"m", Manager.firstXid⟩
    ∃ c : System Unit Unit, Runs ⟨{ rest := (), installed := some l.manager }, [], []⟩ c ∧
      c.Settled ∧ c.world.tally begun? l = 1 ∧
      c.world.tally committed? l + c.world.tally rolledBack? l = 1 := by
  intro l
  let c₀ : System Unit Unit := ⟨{ rest := (), installed := some l.manager }, [], []⟩
  have made := Runs.step (Runs.refl c₀) (.future (w := .main) ())
  have wrapped := made.step (.wrap (w := .main) (.refl _) {} {})
  have polled := wrapped.step (.poll (w := .main) (α := Unit) (.refl _) rfl)
  have waited := polled.step (.finish
    (⟨rfl, fun _ mem => absurd mem List.not_mem_nil⟩ : Innermost _ .main _ [] []) ()
    (.returned (.waiting : Progress Unit)) rfl)
  have dropped := waited.step (.drop (w := .main) (.refl _) rfl)
  have settled : ∀ s : World Unit, Settled (⟨s, [], []⟩ : System Unit Unit) := fun _ =>
    ⟨fun _ mem => absurd mem List.not_mem_nil, fun _ mem => absurd mem List.not_mem_nil⟩
  have once := (begun_eq_completed_add_live ⟨rfl, rfl⟩ rfl dropped).2.1 (settled _) l
  refine ⟨_, dropped, settled _, ?_⟩
  rw [← once, and_self]
  rfl

end System
end AmbientTx
