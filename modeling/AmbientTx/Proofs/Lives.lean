import AmbientTx.Proofs.Destructors
import AmbientTx.Proofs.Reports
import AmbientTx.Proofs.Trail

/-! # The life of a call

What happens in a transactional call, and the trail that the call leaves itself, apart from that of
its business.

* A synchronous call runs once (`Template.Passes`).
* An asynchronous call goes from stage to stage (`Task.Stage`) with its polls, which may come on any
  workers, whatever happens between them. What one poll does depends on the stage and leads to the
  next one (`Task.Turns`, `Task.pollWith_turns`); the stages and the trails of all polls make up the
  life of the call (`Task.Lives`, `Task.Polls.lives`).

A run may also end without a world: the code of the client may halt, and the process is aborted if
the call rolls back during a panic and that panics too. In the second case the call got as far as
into that rollback (`Task.pollWith_halts`, `Template.execute_halts`).
-/

namespace AmbientTx

variable {ρ κ α ε : Type} {w : Worker} {s s' t u : World ρ}

open World AmbientTx.Action

namespace Task

/-! ## Stages -/

/-- How far an asynchronous call got. -/
inductive Stage (κ α : Type) where
  /-- It was not polled yet. -/
  | made (business : Task κ)
  /-- It got no part in a transaction. -/
  | refused
  /-- Its business waits. -/
  | pending (part : Part) (span : Option Span) (business : Task κ)
  /-- Its business ended so. -/
  | settled (part : Part) (fate : Fate (Except TaskFailure α))

namespace Stage

/-- The task that a call is at a stage. -/
def task (t : Template) (info : CallInfo) : Stage κ α → Task κ
  | .made business => .fresh t info business
  | .pending part span business => .called part ⟨.carrying (some part.xid), span⟩ business
  | .refused | .settled _ _ => .ended

/-- A poll at a stage, given the poll of the business. -/
def around (destructor : κ → Action ρ Unit) (t : Template) (info : CallInfo) :
    Stage κ α → Action ρ (Polled κ α) → Action ρ (Polled κ α)
  | .made business => pollFreshWith destructor t info business
  | .pending part span business =>
    pollCalledWith destructor part ⟨.carrying (some part.xid), span⟩ business
  | .refused | .settled _ _ => fun _ => return (.ended, .unwound ⟨"task polled after it ended"⟩)

/-- The business, as far as it is left. -/
def business : Stage κ α → Task κ
  | .made business | .pending _ _ business => business
  | .refused | .settled _ _ => .ended

/-- Whether polls lead no further. -/
def isOver : Stage κ α → Bool
  | .refused | .settled _ _ => true
  | .made _ | .pending _ _ _ => false

theorem pollWith_task (destructor : κ → Action ρ Unit)
    (run : κ → Action ρ (κ × Fate (Progress α))) (t : Template) (info : CallInfo)
    (stage : Stage κ α) :
    (stage.task t info).pollWith destructor run =
      stage.around destructor t info (stage.business.pollWith destructor run) := by
  cases stage <;> rfl

/-- A call with a part in a transaction waits for its business. -/
theorem pending_of_called {t : Template} {info : CallInfo} {stage : Stage κ α} {part : Part}
    {carrier : Carrier} {business : Task κ}
    (called : stage.task t info = .called part carrier business) :
    ∃ span, stage = .pending part span business := by
  cases stage with
  | pending part span business =>
    cases called
    exact ⟨span, rfl⟩
  | made business => cases called
  | refused => cases called
  | settled part fate => cases called

end Stage

/-! ## One poll -/

variable {destructor : κ → Action ρ Unit} {run : κ → Action ρ (κ × Fate (Progress α))}
  {template : Template} {info : CallInfo} {stage stage' : Stage κ α} {part : Part}
  {span : Option Span} {polled : Polled κ α}

/-- How a poll gets to the business, and the trail of the call until then. -/
inductive Opens (template : Template) (info : CallInfo) (w : Worker) (s : World ρ) :
    Stage κ α → Part → Option Span → World ρ → Trail → Prop where
  /-- The first poll gets the call a part in a transaction. -/
  | starts {part : Part} {span : Option Span} {business : Task κ} {t u : World ρ} {own : Trail}
      (started : (template.start info : Action ρ (Except (CallError TaskFailure) Part)) w s =
        .ok ⟨.returned (.ok part), t⟩)
      (grown : t.trail = s.trail ++ own) (carried : Plain w t u) :
      Opens template info w s (.made business) part span u own
  /-- The others find one. -/
  | goesOn {part : Part} {span : Option Span} {business : Task κ} {u : World ρ}
      (carried : Plain w s u) :
      Opens template info w s (.pending part span business) part span u {}

/-- A poll at a stage gets to the business in the world `u`, and would run any other code at its
place there, too. -/
structure Reaches (destructor : κ → Action ρ Unit) (template : Template) (info : CallInfo)
    (w : Worker) (s : World ρ) (stage : Stage κ α) (part : Part) (span : Option Span)
    (own : Trail) (u : World ρ) : Prop where
  opens : Opens template info w s stage part span u own
  once : RunsOnce (stage.around destructor template info) w s u
  bound : w.hasSlot → u.bound w = some part.xid

/-- A poll at a stage gets to the business, and this comes of polling it; `t` is the world after the
carrier was suspended. -/
structure Visits (destructor : κ → Action ρ Unit) (run : κ → Action ρ (κ × Fate (Progress α)))
    (template : Template) (info : CallInfo) (w : Worker) (s : World ρ) (stage : Stage κ α)
    (part : Part) (span : Option Span) (own : Trail) (polled : Polled κ α) (u v t : World ρ) :
    Prop extends Reaches destructor template info w s stage part span own u where
  ran : stage.business.pollWith destructor run w u = .ok ⟨.returned polled, v⟩
  carried : Plain w v t
  restored : t.bound w = s.bound w

/-- The business of a call unwound in a poll, or its destructor did after it; then it is gone. -/
inductive Breaks (destructor : κ → Action ρ Unit) (w : Worker) :
    Polled κ α → Panic → World ρ → World ρ → Prop where
  | unwound {business : Task κ} {p : Panic} {t d : World ρ}
      (dropped : business.dropWith destructor w t = .ok ⟨.returned (), d⟩) :
      Breaks destructor w (business, .unwound p) p t d
  | destroyed {business : Task κ} {result : Except TaskFailure α} {p : Panic} {t d : World ρ}
      (destroyed : business.destroy destructor w t = .ok ⟨.unwound p, d⟩) :
      Breaks destructor w (business, .returned (.ready result)) p t d

/-- A poll from `s` to `s'` leads from one stage to another, and the call itself leaves a trail. -/
inductive Turns (destructor : κ → Action ρ Unit) (run : κ → Action ρ (κ × Fate (Progress α)))
    (template : Template) (info : CallInfo) (w : Worker) (s s' : World ρ) :
    Stage κ α → Stage κ α → Trail → Prop where
  /-- The call gets no part in a transaction, and its business is dropped. -/
  | refuses {business : Task κ} {fate : Fate (Except (CallError TaskFailure) Part)}
      {after : Fate Unit} {u : World ρ} {own : Trail}
      (started : template.start info w s = .ok ⟨fate, u⟩)
      (refused : ∀ part, fate ≠ .returned (.ok part)) (grown : u.trail = s.trail ++ own)
      (dropped : business.dropWith destructor w u = .ok ⟨after, s'⟩) :
      Turns destructor run template info w s s' (.made business) .refused own
  | waits {stage : Stage κ α} {part : Part} {span : Option Span} {business : Task κ} {own : Trail}
      {u v : World ρ}
      (visits : Visits destructor run template info w s stage part span own
        (business, .returned .waiting) u v s') :
      Turns destructor run template info w s s' stage (.pending part span business) own
  /-- The business ended, and the call completes. -/
  | completes {stage : Stage κ α} {part : Part} {span : Option Span} {business : Task κ}
      {result : Except TaskFailure α} {fate : Fate (Except (CallError TaskFailure) α)}
      {before after : Trail} {u v t d : World ρ}
      (visits : Visits destructor run template info w s stage part span before
        (business, .returned (.ready result)) u v t)
      (destroyed : business.destroy destructor w t = .ok ⟨.returned (), d⟩)
      (completed : part.complete result w d = .ok ⟨fate, s'⟩)
      (grown : s'.trail = d.trail ++ after) :
      Turns destructor run template info w s s' stage (.settled part (.returned result))
        (before ++ after)
  /-- The business did not return, and the call gives up its part. -/
  | abandons {stage : Stage κ α} {part : Part} {span : Option Span} {polled : Polled κ α}
      {p : Panic} {fate : Fate Unit} {before after : Trail} {u v t d : World ρ}
      (visits : Visits destructor run template info w s stage part span before polled u v t)
      (broken : Breaks destructor w polled p t d) (abandoned : part.abandon w d = .ok ⟨fate, s'⟩)
      (grown : s'.trail = d.trail ++ after) :
      Turns destructor run template info w s s' stage (.settled part (.unwound p)) (before ++ after)
  /-- The call is over. -/
  | stays {stage : Stage κ α} (finished : stage.isOver = true) (same : s' = s) :
      Turns destructor run template info w s s' stage stage {}

/-- A poll at a stage halts in the code of the client: in the business, or when it is dropped,
which may also panic while a panic unwinds. -/
inductive Strands (destructor : κ → Action ρ Unit) (run : κ → Action ρ (κ × Fate (Progress α)))
    (template : Template) (info : CallInfo) (w : Worker) (s : World ρ) :
    Stage κ α → Prop where
  | refused {business : Task κ} {fate : Fate (Except (CallError TaskFailure) Part)} {u : World ρ}
      (started : template.start info w s = .ok ⟨fate, u⟩)
      (refused : ∀ part, fate ≠ .returned (.ok part))
      (dropping : ∀ d, business.dropWith destructor w u ≠ .ok ⟨.returned (), d⟩) :
      Strands destructor run template info w s (.made business)
  | polling {stage : Stage κ α} {part : Part} {span : Option Span} {own : Trail} {u : World ρ}
      {h : Halt} (reaches : Reaches destructor template info w s stage part span own u)
      (ran : stage.business.pollWith destructor run w u = .error h) :
      Strands destructor run template info w s stage
  | dropping {stage : Stage κ α} {part : Part} {span : Option Span} {business : Task κ}
      {p : Panic} {own : Trail} {u v t : World ρ}
      (visits : Visits destructor run template info w s stage part span own
        (business, .unwound p) u v t)
      (dropping : ∀ d, business.dropWith destructor w t ≠ .ok ⟨.returned (), d⟩) :
      Strands destructor run template info w s stage
  | destroying {stage : Stage κ α} {part : Part} {span : Option Span} {business : Task κ}
      {result : Except TaskFailure α} {own : Trail} {u v t : World ρ} {h : Halt}
      (visits : Visits destructor run template info w s stage part span own
        (business, .returned (.ready result)) u v t)
      (destroying : business.destroy destructor w t = .error h) :
      Strands destructor run template info w s stage

/-- A poll of a carrier's business resumes the carrier and suspends it. -/
theorem pollCalledWith_run (destructor : κ → Action ρ Unit) (part : Part) (span : Option Span)
    (business : Task κ) (w : Worker) (s : World ρ) :
    ∃ u, Plain w s u ∧ (w.hasSlot → u.bound w = some part.xid) ∧
      ∃ finishing : Polled κ α → Action ρ (Polled κ α),
        (∀ poll,
          pollCalledWith destructor part ⟨.carrying (some part.xid), span⟩ business poll w s =
            (poll >>= finishing) w u) ∧
        ∀ polled v, ∃ t, Plain w v t ∧ t.bound w = s.bound w ∧
          finishing polled w v =
            afterBusinessWith destructor part ⟨.carrying (some part.xid), span⟩ polled w t := by
  obtain ⟨u, resumed, turned, slot⟩ := Carrier.resume_run (some part.xid) span w s
  have plain : Plain w s u := (Carrier.resume_plain _).keeps resumed
  refine ⟨u, plain, fun hasSlot => congrArg Slot.xid (slot hasSlot), fun polled =>
    Carrier.hook.finish ⟨⟨some part.xid, some (s.bound w)⟩, span⟩ polled.2 >>= fun ended =>
      afterBusinessWith destructor part ended.1 (polled.1, ended.2), ?_, ?_⟩
  · intro poll
    rw [pollCalledWith, Hook.around, bind_assoc, bind_of_returned resumed]
    simp only [bind_assoc, pure_bind]
  · intro polled v
    obtain ⟨t, suspended, turned', slot'⟩ :=
      Carrier.suspend_run (some part.xid) (s.bound w) span w v
    have plain' : Plain w v t := (Carrier.suspend_plain _).keeps suspended
    have finished := Hook.finish_run suspended polled.2
    refine ⟨t, plain', ?_, bind_of_returned finished _⟩
    by_cases hasSlot : w.hasSlot
    · rw [World.bound, slot' hasSlot]
    · rw [bound_of_not_hasSlot hasSlot, bound_of_not_hasSlot hasSlot]

/-- How a poll at a stage begins: the call is over, gets no part, or gets to its business. -/
theorem Stage.around_cases (destructor : κ → Action ρ Unit) (template : Template)
    (info : CallInfo) (stage : Stage κ α) (w : Worker) (s : World ρ) :
    (stage.isOver = true ∧ ∀ poll, stage.around destructor template info poll w s =
        .ok ⟨.returned (.ended, .unwound ⟨"task polled after it ended"⟩), s⟩) ∨
      (∃ business fate u own, stage = .made business ∧
        (template.start info : Action ρ (Except (CallError TaskFailure) Part)) w s =
          .ok ⟨fate, u⟩ ∧ (∀ part, fate ≠ .returned (.ok part)) ∧ u.trail = s.trail ++ own ∧
        ∃ fate', ∀ poll, stage.around destructor template info poll w s =
          endWith fate' (business.dropWith destructor) w u) ∨
      ∃ part span own u, Opens template info w s stage part span u own ∧
        (w.hasSlot → u.bound w = some part.xid) ∧
        ∃ finishing : Polled κ α → Action ρ (Polled κ α),
          (∀ poll, stage.around destructor template info poll w s = (poll >>= finishing) w u) ∧
          ∀ polled v, ∃ t, Plain w v t ∧ t.bound w = s.bound w ∧ finishing polled w v =
            afterBusinessWith destructor part ⟨.carrying (some part.xid), span⟩ polled w t := by
  cases stage with
  | refused => exact .inl ⟨rfl, fun _ => rfl⟩
  | settled part fate => exact .inl ⟨rfl, fun _ => rfl⟩
  | pending part span business =>
    obtain ⟨u, plain, bound, finishing, runs, finishes⟩ :=
      pollCalledWith_run (α := α) destructor part span business w s
    exact .inr (.inr ⟨part, span, {}, u, .goesOn plain, bound, finishing, runs, finishes⟩)
  | made business =>
    obtain ⟨fate, u, started, starts⟩ := template.start_run (ε := TaskFailure) info w s
    obtain ⟨own, grown, -⟩ := template.start_explained info started
    rcases fate with (e | part) | p
    · have refused (part : Part) : (Fate.returned (.error e) : Fate (Except _ Part)) ≠
          .returned (.ok part) := by
        intro same
        cases same
      refine .inr (.inl ⟨business, _, u, own, rfl, started, refused, grown,
        .returned (.ready (.error (.call e))), fun poll => ?_⟩)
      exact bind_of_returned (attempt_of_ran started) _
    · obtain ⟨span, u', created, turned, slot⟩ :=
        Carrier.create_run (.carrying (some part.xid)) w u
      have plain : Plain w u u' := (Carrier.create_plain _).keeps created
      obtain ⟨v, plain', bound, finishing, runs, finishes⟩ :=
        pollCalledWith_run (α := α) destructor part span business w u'
      have same : u'.bound w = s.bound w :=
        (congrArg Slot.xid slot).trans (starts.silent.bound w)
      refine .inr (.inr ⟨part, span, own, v,
        .starts started grown (plain_repeats.trans plain plain'), bound, finishing, ?_, ?_⟩)
      · intro poll
        rw [Stage.around, pollFreshWith, bind_of_returned (attempt_of_ran started)]
        exact (bind_of_returned created _).trans (runs poll)
      · rwa [same] at finishes
    · have refused (part : Part) : (Fate.unwound p : Fate (Except (CallError TaskFailure) Part)) ≠
          .returned (.ok part) := by
        intro same
        cases same
      refine .inr (.inl ⟨business, _, u, own, rfl, started, refused, grown, .unwound p,
        fun poll => ?_⟩)
      exact bind_of_returned (attempt_of_ran started) _

theorem abandon_ends (part : Part) (w : Worker) (s : World ρ) :
    ∃ fate t own, part.abandon w s = .ok ⟨fate, t⟩ ∧ t.trail = s.trail ++ own := by
  have ends : ∃ fate t, part.abandon w s = .ok ⟨fate, t⟩ := by
    cases part with
    | joined x => exact ⟨_, s, rfl⟩
    | launched l =>
      obtain ⟨t, ran, -⟩ := l.abandon_run w s
      exact ⟨_, t, ran⟩
  obtain ⟨fate, t, ran⟩ := ends
  obtain ⟨own, grown, -⟩ := part.abandon_explained ran
  exact ⟨fate, t, own, ran, grown⟩

/-- How a poll ends that gave up its part during this panic: a second panic aborts the process. -/
def givenUp (p : Panic) (s : World ρ) : Fate Unit → Except Halt (Ran ρ (Polled κ α))
  | .returned () => .ok ⟨.returned (.ended, .unwound p), s⟩
  | .unwound _ => .error .aborted

/-- When a business broke, the call gives up its part. -/
theorem afterBusinessWith_of_breaks {p : Panic} {d : World ρ} {after : Fate Unit}
    (broken : Breaks destructor w polled p t d) (abandoned : part.abandon w d = .ok ⟨after, s'⟩)
    (carrier : Carrier) :
    afterBusinessWith destructor part carrier polled w t = givenUp p s' after := by
  have ended {dropped : Action ρ Unit} {u : World ρ} (cleaned : dropped w u = .ok ⟨after, s'⟩) :
      endWith (α := α) (κ := κ) (.unwound p) dropped w u = givenUp p s' after := by
    rw [endWith, bind_of_returned (attempt_of_ran cleaned)]
    cases after <;> rfl
  cases broken with
  | destroyed destroyed =>
    rw [afterBusinessWith, bind_of_returned (attempt_of_ran destroyed)]
    exact ended abandoned
  | @unwound business _ _ _ dropped =>
    -- the clean-up after a business that was dropped in peace ends as that of the part
    have cleaned : (business.dropWith destructor).ensuring part.abandon w t =
        .ok ⟨after, s'⟩ := by
      rw [Action.ensuring, bind_of_returned (attempt_of_ran dropped),
        bind_of_returned (attempt_of_ran abandoned)]
      cases after <;> rfl
    exact ended cleaned

/-- What can come of a poll of a business: it waits, it ended and is gone, it broke, or the run
halts when it is destroyed. -/
theorem afterBusinessWith_cases (destructor : κ → Action ρ Unit) (part : Part) (carrier : Carrier)
    (polled : Polled κ α) (w : Worker) (t : World ρ) :
    (∃ business, polled = (business, .returned .waiting)) ∨
      (∃ business result d, polled = (business, .returned (.ready result)) ∧
        business.destroy destructor w t = .ok ⟨.returned (), d⟩) ∨
      (∃ p d, Breaks destructor w polled p t d) ∨
      (∃ business result h, polled = (business, .returned (.ready result)) ∧
        business.destroy destructor w t = .error h ∧
        afterBusinessWith destructor part carrier polled w t = .error h) ∨
      ∃ business p h, polled = (business, .unwound p) ∧
        (∀ d, business.dropWith destructor w t ≠ .ok ⟨.returned (), d⟩) ∧
        afterBusinessWith destructor part carrier polled w t = .error h := by
  obtain ⟨business, (_ | result) | p⟩ := polled
  · exact .inl ⟨business, rfl⟩
  · cases ran : business.destroy destructor w t with
    | error h =>
      refine .inr (.inr (.inr (.inl ⟨business, result, h, rfl, ran, ?_⟩)))
      rw [afterBusinessWith, bind_run, attempt, ran]
    | ok r =>
      obtain ⟨⟨⟩ | p, d⟩ := r
      · exact .inr (.inl ⟨business, result, d, rfl, ran⟩)
      · exact .inr (.inr (.inl ⟨p, d, .destroyed ran⟩))
  · by_cases peaceful : ∃ d, business.dropWith destructor w t = .ok ⟨.returned (), d⟩
    · obtain ⟨d, dropped⟩ := peaceful
      exact .inr (.inr (.inl ⟨p, d, .unwound dropped⟩))
    · have stuck (d : World ρ) : business.dropWith destructor w t ≠ .ok ⟨.returned (), d⟩ :=
        fun dropped => peaceful ⟨d, dropped⟩
      refine .inr (.inr (.inr (.inr ?_)))
      cases ran : business.dropWith destructor w t with
      | error h =>
        refine ⟨business, p, h, rfl, stuck, ?_⟩
        simp only [afterBusinessWith, endWith, Action.ensuring, bind_run, attempt, ran]
      | ok r =>
        obtain ⟨⟨⟩ | q, d⟩ := r
        · exact absurd ran (stuck d)
        · -- a second panic, whether or not giving up the part panics as well
          obtain ⟨after, t', -, abandoned, -⟩ := abandon_ends part w d
          refine ⟨business, p, .aborted, rfl, stuck, ?_⟩
          rw [afterBusinessWith, endWith, bind_run, attempt, Action.ensuring,
            bind_of_returned (attempt_of_ran ran), bind_of_returned (attempt_of_ran abandoned)]
          cases after <;> rfl

/-- A poll at a stage that reports leads to another stage. -/
theorem pollWith_turns {task' : Task κ} {fate : Fate (Progress α)}
    (reported : (stage.task template info).pollWith destructor run w s =
      .ok ⟨.returned (task', fate), s'⟩) :
    ∃ stage' own, Turns destructor run template info w s s' stage stage' own ∧
      task' = stage'.task template info := by
  rw [Stage.pollWith_task] at reported
  obtain ⟨finished, ends⟩ | ⟨business, fate', u, own, rfl, started, refused, grown, fate'', ends⟩ |
      ⟨part, span, own, u, opens, bound, finishing, runs, finishes⟩ :=
    stage.around_cases destructor template info w s
  · rw [ends] at reported
    cases reported
    refine ⟨stage, {}, .stays finished rfl, ?_⟩
    cases stage with
    | refused => rfl
    | settled part fate => rfl
    | made business => cases finished
    | pending part span business => cases finished
  · rw [ends] at reported
    obtain ⟨⟨after, v⟩, dropped, joins⟩ := bind_attempt_eq_ok.1 reported
    obtain ⟨joined, v', settled, ended⟩ := bind_eq_returned.1 joins
    obtain ⟨same, -⟩ := settle_eq_ok settled
    cases ended
    cases same
    exact ⟨.refused, own, .refuses started refused grown dropped, rfl⟩
  · have reaches : Reaches destructor template info w s stage part span own u :=
      ⟨opens, .of_bind runs, bound⟩
    rw [runs] at reported
    obtain ⟨polled, v, ran, finished⟩ := bind_eq_returned.1 reported
    obtain ⟨t, plain, restored, same⟩ := finishes polled v
    rw [same] at finished
    have visits : Visits destructor run template info w s stage part span own polled u v t :=
      ⟨reaches, ran, plain, restored⟩
    obtain ⟨business, rfl⟩ | ⟨business, result, d, rfl, destroyed⟩ | ⟨p, d, broken⟩ |
        ⟨_, _, h, -, -, halts⟩ | ⟨_, _, h, -, -, halts⟩ :=
      afterBusinessWith_cases destructor part ⟨.carrying (some part.xid), span⟩ polled w t
    · cases finished
      exact ⟨_, own, .waits visits, rfl⟩
    · obtain ⟨outcome, t', -, completed, -⟩ := part.complete_run result w d
      obtain ⟨after, grown, -⟩ := part.complete_explained result completed
      rw [afterBusinessWith, bind_of_returned (attempt_of_ran destroyed)] at finished
      simp only at finished
      rw [bind_of_returned (attempt_of_ran completed)] at finished
      cases finished
      exact ⟨_, _, .completes visits destroyed completed grown, rfl⟩
    · obtain ⟨after, t', last, abandoned, grown⟩ := abandon_ends part w d
      rw [afterBusinessWith_of_breaks broken abandoned] at finished
      cases after with
      | returned _ =>
        cases finished
        exact ⟨_, _, .abandons visits broken abandoned grown, rfl⟩
      | unwound q => cases finished
    · cases halts.symm.trans finished
    · cases halts.symm.trans finished

/-- A poll at a stage that halts does so in the code of the client, or because the process is
aborted by the panic of a rollback, with which the call goes to its last stage. -/
theorem pollWith_halts {h : Halt}
    (halted : (stage.task template info).pollWith destructor run w s = .error h) :
    Strands destructor run template info w s stage ∨
      h = .aborted ∧ ∃ s' stage' own, Turns destructor run template info w s s' stage stage' own ∧
        stage'.isOver = true := by
  rw [Stage.pollWith_task] at halted
  obtain ⟨finished, ends⟩ | ⟨business, fate', u, own, rfl, started, refused, grown, fate'', ends⟩ |
      ⟨part, span, own, u, opens, bound, finishing, runs, finishes⟩ :=
    stage.around_cases destructor template info w s
  · cases (ends _).symm.trans halted
  · refine .inl (.refused started refused fun d dropped => ?_)
    rw [ends, endWith, bind_of_returned (attempt_of_ran dropped)] at halted
    cases halted
  · have reaches : Reaches destructor template info w s stage part span own u :=
      ⟨opens, .of_bind runs, bound⟩
    rw [runs, bind_run] at halted
    cases ran : stage.business.pollWith destructor run w u with
    | error h' => exact .inl (.polling reaches ran)
    | ok r =>
      rw [ran] at halted
      obtain ⟨polled | p, v⟩ := r
      · obtain ⟨t, plain, restored, same⟩ := finishes polled v
        have finished := same.symm.trans halted
        have visits : Visits destructor run template info w s stage part span own polled u v t :=
          ⟨reaches, ran, plain, restored⟩
        obtain ⟨business, rfl⟩ | ⟨business, result, d, rfl, destroyed⟩ | ⟨p, d, broken⟩ |
            ⟨_, _, _, rfl, destroying, -⟩ | ⟨_, _, _, rfl, dropping, -⟩ :=
          afterBusinessWith_cases destructor part ⟨.carrying (some part.xid), span⟩ polled w t
        · cases finished
        · obtain ⟨outcome, t', -, completed, -⟩ := part.complete_run result w d
          rw [afterBusinessWith, bind_of_returned (attempt_of_ran destroyed)] at finished
          simp only at finished
          rw [bind_of_returned (attempt_of_ran completed)] at finished
          cases finished
        · obtain ⟨after, t', last, abandoned, grown⟩ := abandon_ends part w d
          rw [afterBusinessWith_of_breaks broken abandoned] at finished
          cases after with
          | returned _ => cases finished
          | unwound q =>
            cases finished
            exact .inr ⟨rfl, t', _, _, .abandons visits broken abandoned grown, rfl⟩
        · exact .inl (.destroying visits destroying)
        · exact .inl (.dropping visits dropping)
      · cases halted

/-! ## The trail of a poll -/

/-- The calls that a call has made until it is at a stage. -/
def Stage.Calls : Stage κ α → List Call → Prop
  | .made _, calls => calls = []
  | .refused, calls => calls = [] ∨ ∃ m request answer, (∀ x, answer ≠ .granted x) ∧
      calls = [⟨m, none, .launch request answer⟩]
  | .pending part _ _, calls => ∃ request, calls = part.opening request
  | .settled part fate, calls => ∃ request bound answer,
      calls = part.opening request ++ part.closing bound fate.succeeded answer

/-- Whether it is odd that a call is at this stage: the business did not return to its launcher. -/
def Stage.Odd (stage : Stage κ α) : Prop :=
  ∃ l p, stage = .settled (.launched l) (.unwound p)

theorem Stage.calls_over {fate : Fate (Except TaskFailure α)} {calls : List Call}
    {before after : Trail} {request : BeginRequest} {bound : Option Xid}
    {answer : Answer GlobalStatus} (opened : calls ++ before.calls = part.opening request)
    (closed : after.calls = part.closing bound fate.succeeded answer) :
    (Stage.settled part fate : Stage κ α).Calls (calls ++ (before ++ after).calls) := by
  refine ⟨request, bound, answer, ?_⟩
  rw [Trail.calls_append, ← List.append_assoc, opened, closed]

theorem Opens.explains {own : Trail} (opens : Opens template info w s stage part span u own) :
    own.Explains False := by
  cases opens with
  | starts started grown carried =>
    exact Explained.of_grown (template.start_explained info started) grown
  | goesOn carried => exact Trail.explains_empty

theorem Opens.calls {own : Trail} {calls : List Call}
    (opens : Opens template info w s stage part span u own) (before : stage.Calls calls) :
    ∃ request, calls ++ own.calls = part.opening request := by
  cases opens with
  | starts started grown carried =>
    have starts := Template.Starts.of_run started
    rw [before, calls_of_trail grown starts.opening]
    exact ⟨_, rfl⟩
  | goesOn carried =>
    obtain ⟨request, rfl⟩ := before
    exact ⟨request, List.append_nil _⟩

theorem Turns.explains {own : Trail}
    (turns : Turns destructor run template info w s s' stage stage' own) :
    own.Explains (stage.isOver = false ∧ stage'.Odd) := by
  cases turns with
  | refuses started refused grown dropped =>
    have explains := Explained.of_grown (template.start_explained info started) grown
    exact explains.of_iff (by simp [Stage.Odd])
  | waits visits => exact visits.opens.explains.of_iff (by simp [Stage.Odd])
  | @completes _ part _ _ result _ _ _ _ _ _ _ visits destroyed completed grown =>
    have explains := Explained.of_grown (part.complete_explained result completed) grown
    exact (visits.opens.explains.append explains).of_iff (by simp [Stage.Odd])
  | @abandons _ part _ _ p _ _ _ _ _ _ _ visits broken abandoned grown =>
    have explains := Explained.of_grown (part.abandon_explained abandoned) grown
    have live : stage.isOver = false := by
      cases visits.opens <;> rfl
    exact (visits.opens.explains.append explains).of_iff (by simp [Stage.Odd, live])
  | stays finished same => exact Trail.explains_empty.of_iff (by simp [finished])

theorem Turns.calls {own : Trail} {calls : List Call}
    (turns : Turns destructor run template info w s s' stage stage' own)
    (before : stage.Calls calls) : stage'.Calls (calls ++ own.calls) := by
  cases turns with
  | refuses started refused grown dropped =>
    have starts := Template.Starts.of_run started
    rw [before]
    obtain none | ⟨m, answer, ungranted, one⟩ := starts.unopened refused
    · exact .inl (calls_of_trail grown none)
    · exact .inr ⟨m, _, answer, ungranted, calls_of_trail grown one⟩
  | waits visits => exact visits.opens.calls before
  | completes visits destroyed completed grown =>
    obtain ⟨request, opened⟩ := visits.opens.calls before
    obtain ⟨answer, closed⟩ := Part.complete_calls _ completed
    exact Stage.calls_over opened (calls_of_trail grown closed)
  | abandons visits broken abandoned grown =>
    obtain ⟨request, opened⟩ := visits.opens.calls before
    obtain ⟨answer, closed⟩ := Part.abandon_calls _ abandoned
    exact Stage.calls_over opened (calls_of_trail grown closed)
  | stays finished same =>
    rw [show ({} : Trail).calls = [] from rfl, List.append_nil]
    exact before

/-! ## All polls -/

/-- Polls of a task that report, wherever they are and whatever happens between them. -/
inductive Polls (destructor : κ → Action ρ Unit) (run : κ → Action ρ (κ × Fate (Progress α)))
    (task : Task κ) : List (Visit ρ) → Task κ → Prop where
  | none : Polls destructor run task [] task
  | snoc {visits : List (Visit ρ)} {task' task'' : Task κ} {w : Worker} {s s' : World ρ}
      {fate : Fate (Progress α)} (polls : Polls destructor run task visits task')
      (polled : task'.pollWith destructor run w s = .ok ⟨.returned (task'', fate), s'⟩) :
      Polls destructor run task (visits ++ [⟨w, s, s'⟩]) task''

/-- The stage to which these polls lead a call, and the trail that the call leaves in them. -/
inductive Lives (destructor : κ → Action ρ Unit) (run : κ → Action ρ (κ × Fate (Progress α)))
    (template : Template) (info : CallInfo) (business : Task κ) :
    List (Visit ρ) → Stage κ α → Trail → Prop where
  | made : Lives destructor run template info business [] (.made business) {}
  | snoc {visits : List (Visit ρ)} {stage stage' : Stage κ α} {own last : Trail} {w : Worker}
      {s s' : World ρ} (lives : Lives destructor run template info business visits stage own)
      (turns : Turns destructor run template info w s s' stage stage' last) :
      Lives destructor run template info business (visits ++ [⟨w, s, s'⟩]) stage' (own ++ last)

variable {business : Task κ} {visits : List (Visit ρ)} {own : Trail}

/-- Polls of a call lead it from stage to stage. -/
theorem Polls.lives {task' : Task κ}
    (polls : Polls destructor run (.fresh template info business) visits task') :
    ∃ stage own, Lives destructor run template info business visits stage own ∧
      task' = stage.task template info := by
  induction polls with
  | none => exact ⟨_, _, .made, rfl⟩
  | snoc polls polled ih =>
    obtain ⟨stage, own, lives, rfl⟩ := ih
    obtain ⟨stage', last, turns, same⟩ := pollWith_turns polled
    exact ⟨stage', _, lives.snoc turns, same⟩

theorem Lives.calls (lives : Lives destructor run template info business visits stage own) :
    stage.Calls own.calls := by
  induction lives with
  | made => exact rfl
  | snoc lives turns ih => exact turns.calls ih

/-- The alarms of a call follow from its calls and its stage. -/
theorem Lives.explains (lives : Lives destructor run template info business visits stage own) :
    own.Explains stage.Odd := by
  induction lives with
  | made => exact Trail.explains_empty.of_iff (by simp [Stage.Odd])
  | @snoc _ stage stage' _ _ _ _ _ lives turns ih =>
    refine (ih.append turns.explains).of_iff ?_
    cases finished : stage.isOver with
    | false =>
      -- it is not odd to be at a stage that is left
      have calm : ¬ stage.Odd := by
        rintro ⟨l, p, rfl⟩
        cases finished
      simp [calm]
    | true =>
      have same : stage' = stage := by
        cases turns with
        | stays => rfl
        | refuses => cases finished
        | waits visits => cases visits.opens <;> cases finished
        | completes visits => cases visits.opens <;> cases finished
        | abandons visits => cases visits.opens <;> cases finished
      simp [same]

/-! ## The end of a life -/

/-- Dropping a call leads from `s` to `t`, and the call itself leaves a trail. -/
inductive Drops (destructor : κ → Action ρ Unit) (w : Worker) (s t : World ρ) :
    Stage κ α → Trail → Prop where
  /-- The business is dropped, and the call gives up its part. -/
  | pending {part : Part} {span : Option Span} {business : Task κ} {after fate : Fate Unit}
      {u : World ρ} {own : Trail} (dropped : business.dropWith destructor w s = .ok ⟨after, u⟩)
      (abandoned : part.abandon w u = .ok ⟨fate, t⟩) (grown : t.trail = u.trail ++ own) :
      Drops destructor w s t (.pending part span business) own
  /-- Nothing but a business may be left. -/
  | idle {stage : Stage κ α} {after : Fate Unit}
      (idle : ∀ part span business, stage ≠ .pending part span business)
      (dropped : stage.business.dropWith destructor w s = .ok ⟨after, t⟩) :
      Drops destructor w s t stage {}

/-- A call is dropped so, unless the run halts in the code of the client. A second panic aborts the
process. -/
theorem dropWith_drops (destructor : κ → Action ρ Unit) (template : Template) (info : CallInfo)
    (stage : Stage κ α) (w : Worker) (s : World ρ) :
    (∃ h, stage.business.dropWith destructor w s = .error h) ∨
      ∃ t own, Drops destructor w s t stage own ∧
        ((∃ fate, (stage.task template info).dropWith destructor w s = .ok ⟨fate, t⟩) ∨
          (stage.task template info).dropWith destructor w s = .error .aborted) := by
  cases dropped : stage.business.dropWith destructor w s with
  | error h => exact .inl ⟨h, rfl⟩
  | ok r =>
    obtain ⟨after, u⟩ := r
    refine .inr ?_
    cases stage with
    | made business => exact ⟨u, {}, .idle nofun dropped, .inl ⟨after, dropped⟩⟩
    | refused => exact ⟨u, {}, .idle nofun dropped, .inl ⟨after, dropped⟩⟩
    | settled part fate => exact ⟨u, {}, .idle nofun dropped, .inl ⟨after, dropped⟩⟩
    | pending part span business =>
      obtain ⟨fate, t, own, abandoned, grown⟩ := abandon_ends part w u
      exact ⟨t, own, .pending dropped abandoned grown, ensuring_ends dropped abandoned⟩

theorem Drops.explains {own : Trail} (drops : Drops destructor w s t stage own) :
    own.Explains (∃ l span business, stage = .pending (.launched l) span business) := by
  cases drops with
  | @pending part span business _ _ _ _ dropped abandoned grown =>
    exact (Explained.of_grown (part.abandon_explained abandoned) grown).of_iff (by simp)
  | idle idle dropped =>
    refine Trail.explains_empty.of_iff (iff_of_false not_false ?_)
    rintro ⟨l, span, business, same⟩
    exact idle _ _ _ same

/-- Whatever polls a call went through, they are a life of it. The next poll extends that life even
if it aborts the process, and the call may be dropped at its end, unless the run halts in the code
of the client. -/
def AlwaysLives (destructor : κ → Action ρ Unit) (run : κ → Action ρ (κ × Fate (Progress α)))
    (template : Template) (info : CallInfo) (business : Task κ) : Prop :=
  ∀ visits task, Polls destructor run (.fresh template info business) visits task →
    ∃ stage own, Lives destructor run template info business visits stage own ∧
      task = stage.task template info ∧ ∀ w s,
        (∀ h, task.pollWith destructor run w s = .error h →
          Strands destructor run template info w s stage ∨ h = .aborted ∧
            ∃ s' stage' last, stage'.isOver = true ∧ Lives destructor run template info business
              (visits ++ [⟨w, s, s'⟩]) stage' (own ++ last)) ∧
        ((∃ h, stage.business.dropWith destructor w s = .error h) ∨
          ∃ t last, Drops destructor w s t stage last ∧
            ((∃ fate, task.dropWith destructor w s = .ok ⟨fate, t⟩) ∨
              task.dropWith destructor w s = .error .aborted))

theorem alwaysLives (destructor : κ → Action ρ Unit)
    (run : κ → Action ρ (κ × Fate (Progress α))) (template : Template) (info : CallInfo)
    (business : Task κ) : AlwaysLives destructor run template info business := by
  intro visits task polls
  obtain ⟨stage, own, lives, rfl⟩ := polls.lives
  refine ⟨stage, own, lives, rfl, ?_⟩
  intro w s
  refine ⟨?_, dropWith_drops destructor template info stage w s⟩
  intro h halted
  obtain stranded | ⟨aborted, s', stage', last, turns, finished⟩ := pollWith_halts halted
  · exact .inl stranded
  · exact .inr ⟨aborted, s', stage', last, finished, lives.snoc turns⟩

end Task
end AmbientTx
