import AmbientTx.Proofs.Course
import AmbientTx.Proofs.Effect
import AmbientTx.Proofs.Operation

/-! # Calls come in brackets

A program of one worker calls templates one inside the other, and in between it performs operations,
panics and catches. Whatever the managers answer, its calls to them come in brackets: a begin that
was granted, the calls of the business, and one call that closes the transaction, to the same
manager and with the id that the manager gave.

To tell which call closes a bracket after which end of the business, the program keeps a journal: it
notes where a business begins and how it ended. The journal is bracketed too, and in it the last
call of a launcher is a commit if the business succeeded, and otherwise a rollback.
-/

namespace AmbientTx

variable {α ε ν : Type}

open World AmbientTx.Action Script

/-! ## Programs and their journals -/

/-- What comes in a journal. -/
inductive Note where
  /-- A manager was called. -/
  | called (call : Call)
  /-- The business of a call begins. -/
  | opened
  /-- The innermost business ended, with success or without. -/
  | ended (succeeded : Bool)
  deriving DecidableEq

/-- What a program did, in order. -/
abbrev Journal := List Note

/-- The call that a note is about. -/
def Note.call? : Note → Option Call
  | .called c => some c
  | .opened | .ended _ => none

/-- The calls of a journal. -/
def Journal.calls (j : Journal) : List Call :=
  j.filterMap Note.call?

/-- A program with values `ν`, in which businesses fail with `ε`. -/
inductive Routine (ε ν : Type) where
  | value (value : ν)
  | panic (panic : Panic)
  | slot (op : SlotOp) (next : Reply → Routine ε ν)
  | shared (op : SharedOp) (next : Reply → Routine ε ν)
  /-- Runs a body, and goes on however it ends. -/
  | catching (body : Routine ε ν) (next : Fate ν → Routine ε ν)
  /-- Calls a template with a body as the business, whose value says whether it succeeded. -/
  | execute (t : Template) (info : CallInfo) (body : Routine ε ν) (outcome : ν → Except ε ν)
      (next : Except (CallError ε) ν → Routine ε ν)

/-- The journal so far: what was noted, and the calls since the last note. -/
def World.journal (s : World Journal) : Journal :=
  s.rest ++ (s.calls.drop s.rest.calls.length).map .called

/-- Adds a note after the calls so far. -/
def note (n : Note) : Action Journal Unit :=
  Action.modify fun _ s => { s with rest := s.journal ++ [n] }

/-- Runs a business, and notes its begin and its end. -/
def noted (business : Action Journal (Except ε α)) : Action Journal (Except ε α) := do
  note .opened
  let fate ← business.attempt
  note (.ended fate.succeeded)
  Action.resume fate

/-- Runs a program, with a journal. -/
def Routine.exec : Routine ε ν → Action Journal ν
  | .value v => return v
  | .panic p => Action.panic p
  | .slot op next => do
    let reply ← op.perform
    (next reply).exec
  | .shared op next => do
    let reply ← op.perform
    (next reply).exec
  | .catching body next => do
    let fate ← body.exec.attempt
    (next fate).exec
  | .execute t info body outcome next => do
    let result ← t.execute info (noted do return outcome (← body.exec))
    (next result).exec

/-! ## Brackets -/

/-- Calls that come in brackets. -/
inductive Bracketed : List Call → Prop where
  | nil : Bracketed []
  /-- At last a transaction was asked for, and not begun. -/
  | refused {cs : List Call} {m : ManagerName} {bound : Option Xid} {request : BeginRequest}
      {answer : Answer Xid} (before : Bracketed cs) (refused : ∀ x, answer ≠ .granted x) :
      Bracketed (cs ++ [⟨m, bound, .launch request answer⟩])
  /-- At last a transaction was begun, and closed after the calls in between. -/
  | closed {cs ds : List Call} {l : Launch} {bound bound' : Option Xid} {request : BeginRequest}
      {answer : Answer GlobalStatus} (succeeded : Bool) (before : Bracketed cs)
      (inside : Bracketed ds) :
      Bracketed (cs ++ (⟨l.manager, bound, .launch request (.granted l.xid)⟩ ::
        (ds ++ [⟨l.manager, bound', .closing succeeded l.xid answer⟩])))

/-- Journals that come in brackets. -/
inductive WellBracketed : Journal → Prop where
  | nil : WellBracketed []
  /-- At last a transaction was asked for, and not begun. -/
  | refused {W : Journal} {m : ManagerName} {bound : Option Xid} {request : BeginRequest}
      {answer : Answer Xid} (before : WellBracketed W) (refused : ∀ x, answer ≠ .granted x) :
      WellBracketed (W ++ [.called ⟨m, bound, .launch request answer⟩])
  /-- At last a call joined, and its business ended. -/
  | joined {W V : Journal} (succeeded : Bool) (before : WellBracketed W)
      (inside : WellBracketed V) :
      WellBracketed (W ++ (.opened :: (V ++ [.ended succeeded])))
  /-- At last a transaction was begun; its business ended, and by the end of the business the
  transaction was closed. -/
  | launched {W V : Journal} {l : Launch} {bound bound' : Option Xid} {request : BeginRequest}
      {answer : Answer GlobalStatus} (succeeded : Bool) (before : WellBracketed W)
      (inside : WellBracketed V) :
      WellBracketed (W ++ (.called ⟨l.manager, bound, .launch request (.granted l.xid)⟩ ::
        .opened :: (V ++ [.ended succeeded,
          .called ⟨l.manager, bound', .closing succeeded l.xid answer⟩])))

@[simp] theorem Journal.calls_nil : Journal.calls [] = [] := rfl

@[simp] theorem Journal.calls_opened (j : Journal) : Journal.calls (.opened :: j) = j.calls := rfl

@[simp] theorem Journal.calls_ended (ok : Bool) (j : Journal) :
    Journal.calls (.ended ok :: j) = j.calls := rfl

@[simp] theorem Journal.calls_cons (c : Call) (j : Journal) :
    Journal.calls (.called c :: j) = c :: j.calls := rfl

@[simp] theorem Journal.calls_append (j k : Journal) :
    Journal.calls (j ++ k) = j.calls ++ k.calls :=
  List.filterMap_append

@[simp] theorem Journal.calls_map_called (cs : List Call) :
    Journal.calls (cs.map .called) = cs := by
  induction cs with
  | nil => rfl
  | cons c cs ih => rw [List.map_cons, Journal.calls_cons, ih]

/-- One list of calls in brackets after another. -/
theorem Bracketed.append {cs ds : List Call} (before : Bracketed cs) (after : Bracketed ds) :
    Bracketed (cs ++ ds) := by
  induction after with
  | nil =>
    rw [List.append_nil]
    exact before
  | refused _ refused ih =>
    rw [← List.append_assoc]
    exact .refused ih refused
  | closed succeeded _ inside ih _ =>
    rw [← List.append_assoc]
    exact .closed succeeded ih inside

namespace WellBracketed

theorem append {W V : Journal} (before : WellBracketed W) (after : WellBracketed V) :
    WellBracketed (W ++ V) := by
  induction after with
  | nil =>
    rw [List.append_nil]
    exact before
  | refused _ refused ih =>
    rw [← List.append_assoc]
    exact .refused ih refused
  | joined succeeded _ inside ih _ =>
    rw [← List.append_assoc]
    exact .joined succeeded ih inside
  | launched succeeded _ inside ih _ =>
    rw [← List.append_assoc]
    exact .launched succeeded ih inside

/-- The calls of a bracketed journal come in brackets. -/
theorem calls {W : Journal} (h : WellBracketed W) : Bracketed W.calls := by
  induction h with
  | nil => exact .nil
  | refused _ refused ih =>
    rw [Journal.calls_append]
    exact .refused ih refused
  | joined succeeded _ _ before inside =>
    simp only [Journal.calls_append, Journal.calls_opened, Journal.calls_ended,
      Journal.calls_nil, List.append_nil]
    exact before.append inside
  | launched succeeded _ _ before inside =>
    simp only [Journal.calls_append, Journal.calls_cons, Journal.calls_opened,
      Journal.calls_ended, Journal.calls_nil]
    exact .closed succeeded before inside

end WellBracketed

/-! ## The open transactions -/

/-- The transactions that are open after one more call, the one that was opened last in front. Only
that one may be closed. -/
def Call.follow (opened : List Launch) (c : Call) : Option (List Launch) :=
  match c.exchange, opened with
  | .launch _ (.granted x), opened => some (⟨c.manager, x⟩ :: opened)
  | .launch _ _, opened => some opened
  | .commit x _, l :: opened => if l = ⟨c.manager, x⟩ then some opened else none
  | .rollback x _, l :: opened => if l = ⟨c.manager, x⟩ then some opened else none
  | _, [] => none

theorem Call.follow_closing (l : Launch) (opened : List Launch) (bound : Option Xid)
    (succeeded : Bool) (answer : Answer GlobalStatus) :
    follow (l :: opened) ⟨l.manager, bound, .closing succeeded l.xid answer⟩ = some opened := by
  cases succeeded with
  | true => exact if_pos rfl
  | false => exact if_pos rfl

theorem Call.follow_refused {answer : Answer Xid} (refused : ∀ x, answer ≠ .granted x)
    (m : ManagerName) (bound : Option Xid) (request : BeginRequest) (opened : List Launch) :
    follow opened ⟨m, bound, .launch request answer⟩ = some opened := by
  cases answer with
  | granted x => exact absurd rfl (refused x)
  | refused e => rfl
  | panicked p => rfl

/-- Calls that come in brackets close each transaction while it is the one that was opened last, and
leave none open. -/
theorem Bracketed.follow {cs : List Call} (h : Bracketed cs) (opened : List Launch) :
    cs.foldlM Call.follow opened = some opened := by
  induction h generalizing opened with
  | nil => rfl
  | refused _ refused before =>
    rw [List.foldlM_append, before]
    simp only [Option.bind_eq_bind, Option.bind_some, List.foldlM_cons, List.foldlM_nil]
    rw [Call.follow_refused refused]
    rfl
  | closed succeeded _ _ before inside =>
    rw [List.foldlM_append, before]
    simp only [Option.bind_eq_bind, Option.bind_some, List.foldlM_cons]
    show (List.foldlM Call.follow (_ :: opened) _) = _
    rw [List.foldlM_append, inside]
    simp only [Option.bind_eq_bind, Option.bind_some, List.foldlM_cons, List.foldlM_nil]
    rw [Call.follow_closing]
    rfl

/-! ## Managers that panic at rollbacks -/

/-- A manager has a panic among its answers to rollbacks. -/
def Manager.Volatile (v : Manager) : Prop :=
  ∃ p, .panicked p ∈ v.rollbacks.next :: v.rollbacks.later

namespace World

variable {ρ : Type}

/-- The managers that panic at rollbacks did so from the start. -/
def Tamer (_ : Worker) (s t : World ρ) : Prop :=
  ∀ m, (t.managers m).Volatile → (s.managers m).Volatile

theorem tamer_of_same {w : Worker} {s t : World ρ} (same : t.managers = s.managers) :
    Tamer w s t := by
  intro m volatile
  rw [← same]
  exact volatile

theorem tamer_repeats : Repeats (Tamer (ρ := ρ)) where
  refl _ _ := tamer_of_same rfl
  trans h k m volatile := h m (k m volatile)

theorem tamer_setManager (w : Worker) (s : World ρ) {m : ManagerName} {v : Manager}
    (tamer : v.Volatile → (s.managers m).Volatile) : Tamer w s (s.setManager m v) := by
  intro m' volatile
  simp only [setManager] at volatile
  split at volatile
  · next same =>
    rw [same]
    exact tamer volatile
  · exact volatile

/-- A manager that gave an answer has no other answers than before. -/
theorem volatile_of_advance {v : Manager}
    (volatile : Manager.Volatile { v with rollbacks := v.rollbacks.advance }) : v.Volatile := by
  obtain ⟨p, mem⟩ := volatile
  refine ⟨p, ?_⟩
  simp only [Answers.advance] at mem
  split at mem
  · exact mem
  · next later =>
    rw [later]
    exact List.mem_cons_of_mem _ mem

theorem tamer_pervades : Pervades (Tamer (ρ := ρ)) where
  repeats := tamer_repeats
  event _ _ _ _ := tamer_of_same rfl
  span _ _ _ _ _ := tamer_of_same rfl
  bind x := (Ambient.bind_calm x).keeps.mono fun h => tamer_of_same h.managers
  unbind := Ambient.unbind_computes.calm.keeps.mono fun h => tamer_of_same h.managers
  launch m request w s r _ ran := by
    obtain rfl := Except.ok.inj (ran.symm.trans (Manager.settle_run _ w _))
    exact tamer_setManager w s id
  commit m x w s r ran := by
    obtain rfl := Except.ok.inj (ran.symm.trans (Manager.settle_run _ w _))
    exact tamer_setManager w s id
  rollback m x w s r ran := by
    obtain rfl := Except.ok.inj (ran.symm.trans (Manager.settle_run _ w _))
    exact tamer_setManager w s volatile_of_advance

end World

/-! ## Journals in step with the calls -/

/-- No manager was called, nothing was noted, and the managers are as they were. -/
structure World.Uncalled {ρ : Type} (_ : Worker) (s t : World ρ) : Prop where
  calls : t.calls = s.calls
  rest : t.rest = s.rest
  managers : t.managers = s.managers

namespace World

variable {ρ : Type} {w : Worker} {s t : World ρ}

theorem Turned.uncalled (h : Turned w s t) : Uncalled w s t :=
  ⟨h.calls, h.rest, h.managers⟩

theorem uncalled_repeats : Repeats (Uncalled (ρ := ρ)) where
  refl _ _ := ⟨rfl, rfl, rfl⟩
  trans h k :=
    ⟨k.calls.trans h.calls, k.rest.trans h.rest, k.managers.trans h.managers⟩

theorem uncalled_shares : Shares (Uncalled (ρ := ρ)) where
  repeats := uncalled_repeats
  event w s e _ := ⟨calls_event s w e, rfl, rfl⟩
  config _ _ _ := ⟨rfl, rfl, rfl⟩
  installed _ _ _ := ⟨rfl, rfl, rfl⟩

end World

namespace World

variable {s t u : World Journal} {W V : Journal}

/-- Every call of the journal was made, in this order, before any other. -/
def Synced (s : World Journal) : Prop :=
  s.rest.calls <+: s.calls

/-- The journal tells all calls. -/
theorem Synced.calls_journal (h : s.Synced) : s.journal.calls = s.calls := by
  obtain ⟨later, calls⟩ := h
  rw [journal, Journal.calls_append, Journal.calls_map_called, ← calls, List.drop_left]

/-- `W` was added to the journal, and no manager learned to panic. -/
structure Adds (W : Journal) (s t : World Journal) : Prop where
  synced : t.Synced
  journal : t.journal = s.journal ++ W
  tamer : ∀ m, (t.managers m).Volatile → (s.managers m).Volatile

theorem Adds.trans (h : Adds W s t) (k : Adds V t u) : Adds (W ++ V) s u := by
  refine ⟨k.synced, ?_, fun m volatile => h.tamer m (k.tamer m volatile)⟩
  rw [k.journal, h.journal, List.append_assoc]

/-- Calls go into the journal when they are made. -/
theorem Synced.adds_calls {w : Worker} (h : s.Synced) {cs : List Call}
    (calls : t.calls = s.calls ++ cs) (rest : t.rest = s.rest) (tamer : Tamer w s t) :
    Adds (cs.map .called) s t := by
  refine ⟨?_, ?_, tamer⟩
  · rw [Synced, rest, calls]
    exact h.trans (List.prefix_append _ _)
  · have enough : s.rest.calls.length ≤ s.calls.length := h.length_le
    rw [journal, journal, rest, calls, List.drop_append_of_le_length enough, List.map_append,
      List.append_assoc]

/-- Nothing is added without a call or a note. -/
theorem Synced.adds_nil {w : Worker} (h : s.Synced) (uncalled : Uncalled w s t) :
    Adds [] s t := by
  have calls : t.calls = s.calls ++ [] := uncalled.calls.trans (List.append_nil _).symm
  exact h.adds_calls calls uncalled.rest (tamer_of_same (w := w) uncalled.managers)

/-- Notes go after the calls before them. -/
theorem Synced.adds_note (h : s.Synced) {n : Note} (uncalled : n.call? = none) :
    Adds [n] s { s with rest := s.journal ++ [n] } := by
  have told : Journal.calls (s.journal ++ [n]) = s.calls := by
    rw [Journal.calls_append, h.calls_journal]
    simp [Journal.calls, uncalled]
  refine ⟨?_, ?_, fun m volatile => volatile⟩
  · exact ⟨[], (List.append_nil _).trans told⟩
  · show (s.journal ++ [n]) ++ (s.calls.drop (Journal.calls (s.journal ++ [n])).length).map .called
      = s.journal ++ [n]
    rw [told, List.drop_length, List.map_nil, List.append_nil]

end World

/-! ## Programs -/

/-- Every run of an action ends and adds a bracketed piece to the journal, or it is aborted because
a manager panics at a rollback. -/
def Brackets (x : Action Journal α) : Prop :=
  ∀ w s, s.Synced →
    (∃ r W, x w s = .ok r ∧ WellBracketed W ∧ Adds W s r.world) ∨
      (x w s = .error .aborted ∧ ∃ m, (s.managers m).Volatile)

namespace Brackets

variable {x : Action Journal α} {β : Type} {f : α → Action Journal β}

theorem resume (fate : Fate α) : Brackets (Action.resume fate) := by
  intro w s synced
  left
  exact ⟨⟨fate, s⟩, [], resume_run fate w s, .nil, synced.adds_nil (uncalled_repeats.refl w s)⟩

theorem bind (hx : Brackets x) (hf : ∀ a, Brackets (f a)) : Brackets (x >>= f) := by
  intro w s synced
  rcases hx w s synced with ⟨⟨a | p, t⟩, W, ran, bracketed, adds⟩ | ⟨aborted, volatile⟩
  · rw [bind_of_returned ran]
    rcases hf a w t adds.synced with ⟨r, V, ran', bracketed', adds'⟩ | ⟨aborted, m, volatile⟩
    · exact .inl ⟨r, W ++ V, ran', bracketed.append bracketed', adds.trans adds'⟩
    · exact .inr ⟨aborted, m, adds.tamer m volatile⟩
  · left
    exact ⟨⟨.unwound p, t⟩, W, bind_of_unwound ran f, bracketed, adds⟩
  · right
    rw [bind_run, aborted]
    exact ⟨rfl, volatile⟩

theorem attempt (hx : Brackets x) : Brackets x.attempt := by
  intro w s synced
  rcases hx w s synced with ⟨r, W, ran, bracketed, adds⟩ | ⟨aborted, volatile⟩
  · exact .inl ⟨_, W, attempt_of_ran ran, bracketed, adds⟩
  · right
    rw [Action.attempt, aborted]
    exact ⟨rfl, volatile⟩

theorem of_uncalled (hx : Calm Uncalled x) : Brackets x := by
  intro w s synced
  obtain ⟨a, t, ran, uncalled⟩ := hx w s
  exact .inl ⟨⟨.returned a, t⟩, [], ran, .nil, synced.adds_nil uncalled⟩

/-- What is noted around a business. -/
theorem noted {business : Action Journal (Except ε α)} (h : Brackets business) (w : Worker)
    {s : World Journal} (synced : s.Synced) :
    (∃ r V, AmbientTx.noted business w s = .ok r ∧ WellBracketed V ∧
        Adds (.opened :: (V ++ [.ended r.fate.succeeded])) s r.world) ∨
      (AmbientTx.noted business w s = .error .aborted ∧ ∃ m, (s.managers m).Volatile) := by
  have opens := synced.adds_note (n := .opened) rfl
  have opened : note .opened w s = .ok ⟨.returned (), { s with rest := s.journal ++ [.opened] }⟩ :=
    rfl
  rw [AmbientTx.noted, bind_of_returned opened]
  rcases h w _ opens.synced with ⟨⟨fate, t⟩, V, ran, bracketed, adds⟩ | ⟨aborted, volatile⟩
  · left
    have ends := adds.synced.adds_note (n := .ended fate.succeeded) rfl
    have ended : note (.ended fate.succeeded) w t =
      .ok ⟨.returned (), { t with rest := t.journal ++ [.ended fate.succeeded] }⟩ := rfl
    rw [bind_of_returned (attempt_of_ran ran), bind_of_returned ended]
    exact ⟨_, V, resume_run fate w _, bracketed, opens.trans (adds.trans ends)⟩
  · right
    rw [bind_run, Action.attempt, aborted]
    exact ⟨rfl, volatile⟩

/-- The business of a call, and the end of the call after it. -/
theorem leave {business : Action Journal (Except ε α)} (h : Brackets business) (part : Part)
    (w : Worker) {s : World Journal} (synced : s.Synced) :
    (∃ r V succeeded last, ((AmbientTx.noted business).attempt >>= part.leave) w s = .ok r ∧
        WellBracketed V ∧ Adds (.opened :: (V ++ .ended succeeded :: last)) s r.world ∧
        match part with
        | .joined _ => last = []
        | .launched l => ∃ bound answer,
          last = [.called ⟨l.manager, bound, .closing succeeded l.xid answer⟩]) ∨
      (((AmbientTx.noted business).attempt >>= part.leave) w s = .error .aborted ∧
        ∃ m, (s.managers m).Volatile) := by
  rcases h.noted w synced with ⟨⟨fate, t⟩, V, ran, bracketed, adds⟩ | ⟨aborted, volatile⟩
  · rw [bind_of_returned (attempt_of_ran ran)]
    cases part with
    | joined x =>
      left
      exact ⟨_, V, fate.succeeded, [], Part.leave_joined x fate w t, bracketed, adds, rfl⟩
    | launched l =>
      rcases Part.leave_launched_calls l fate w t with
        ⟨aborted, p, panics⟩ | ⟨r, bound, answer, ran', calls, rest⟩
      -- the panic was in the script of the manager from the start
      · have volatile : (t.managers l.manager).Volatile := ⟨p, panics ▸ List.mem_cons_self⟩
        exact .inr ⟨aborted, l.manager, adds.tamer _ volatile⟩
      · have tamer := tamer_pervades.leave (.launched l) fate ran'
        have closes := adds.trans (adds.synced.adds_calls calls rest tamer)
        rw [List.cons_append, List.append_assoc] at closes
        exact .inl ⟨r, V, fate.succeeded, _, ran', bracketed, closes, bound, answer, rfl⟩
  · right
    rw [bind_run, Action.attempt, aborted]
    exact ⟨rfl, volatile⟩

/-- A call of a template brackets what its business does. -/
theorem execute {business : Action Journal (Except ε α)} (h : Brackets business) (t : Template)
    (info : CallInfo) : Brackets (t.execute info (AmbientTx.noted business)) := by
  intro w s synced
  obtain ⟨fate, u, started, starts⟩ := t.start_run (ε := ε) info w s
  have tamer := tamer_pervades.start t info started
  cases starts with
  -- a participant calls nobody itself: its brackets are those of the business
  | @joins x bound =>
    have adds := synced.adds_nil (uncalled_shares.event w s (.joined x info.name) rfl)
    rw [Template.execute_of_part started rfl]
    rcases h.leave (.joined x) w adds.synced with
      ⟨r, V, succeeded, last, ran, bracketed, adds', rfl⟩ | aborted
    · exact .inl ⟨r, _, ran, .joined succeeded .nil bracketed, adds.trans adds'⟩
    · exact .inr aborted
  | unmanaged unbound missing =>
    left
    exact ⟨_, [], Template.execute_of_refused started _, .nil,
      synced.adds_nil (uncalled_repeats.refl w s)⟩
  | @asks m answer _ unbound found called =>
    have asks := synced.adds_calls called.calls called.rest tamer
    cases answer with
    | granted x =>
      obtain ⟨_, v, bound, turned⟩ := Part.bind_calm (.launched ⟨m, x⟩) w u
      have adds := asks.trans (asks.synced.adds_nil turned.uncalled)
      rw [Template.execute_of_part started bound]
      rcases h.leave (.launched ⟨m, x⟩) w adds.synced with
        ⟨r, V, succeeded, last, ran, bracketed, adds', bound', answer, rfl⟩ |
        ⟨aborted, m', volatile⟩
      · exact .inl ⟨r, _, ran, .launched (l := ⟨m, x⟩) succeeded .nil bracketed,
          adds.trans adds'⟩
      · exact .inr ⟨aborted, m', adds.tamer m' volatile⟩
    | refused e =>
      have unbegun : ∀ y, (.refused e : Answer Xid) ≠ .granted y := fun _ same => nomatch same
      exact .inl ⟨_, _, Template.execute_of_refused started _, .refused .nil unbegun, asks⟩
    | panicked p =>
      have unbegun : ∀ y, (.panicked p : Answer Xid) ≠ .granted y := fun _ same => nomatch same
      exact .inl ⟨_, _, Template.execute_of_unwound started _, .refused .nil unbegun, asks⟩

end Brackets

/-- What a program adds to its journal comes in brackets. -/
theorem Routine.exec_brackets (prog : Routine ε ν) : Brackets prog.exec := by
  induction prog with
  | value v => exact .resume (.returned v)
  | panic p => exact .resume (.unwound p)
  | slot op next ih =>
    have calm : Calm Uncalled (op.perform : Action Journal Reply) :=
      op.perform_computes.calm.mono Turned.uncalled
    exact .bind (.of_uncalled calm) ih
  | shared op next ih => exact .bind (.of_uncalled (uncalled_shares.perform op)) ih
  | catching body next ihBody ih => exact .bind ihBody.attempt ih
  | execute t info body outcome next ihBody ih =>
    have business : Brackets (do return outcome (← body.exec)) :=
      .bind ihBody fun v => .resume (.returned (outcome v))
    exact .bind (business.execute t info) ih

/-- The calls of every program come in brackets, unless the process is aborted, which takes a
manager that panics at a rollback. What the program adds to its journal is bracketed: each launcher
closes its transaction by the end of its business. And what it calls is bracketed: each transaction
is closed while it is the one that was opened last, and none is left open. -/
theorem Routine.exec_wellBracketed (prog : Routine ε ν) (w : Worker) (s : World Journal)
    (blank : s.rest = []) :
    (∃ r W, prog.exec w s = .ok r ∧
        r.world.journal = s.journal ++ W ∧ WellBracketed W ∧
        r.world.calls = s.calls ++ W.calls ∧ Bracketed W.calls ∧
        W.calls.foldlM Call.follow [] = some []) ∨
      (prog.exec w s = .error .aborted ∧ ∃ m, (s.managers m).Volatile) := by
  have synced : s.Synced := by
    rw [Synced, blank]
    exact List.nil_prefix
  rcases prog.exec_brackets w s synced with ⟨r, W, ran, bracketed, adds⟩ | aborted
  · have calls : r.world.calls = s.calls ++ W.calls := by
      rw [← adds.synced.calls_journal, adds.journal, Journal.calls_append, synced.calls_journal]
    exact .inl ⟨r, W, ran, adds.journal, bracketed, calls, bracketed.calls,
      bracketed.calls.follow []⟩
  · exact .inr aborted

/-- A business unbinds the transaction of its call, so a call inside launches another one. The
business of that panics, and the panic is caught. -/
theorem Routine.exec_wellBracketed_of_unbind :
    let x := Manager.firstXid
    let t : Template := { manager := some "m" }
    let failing : Routine Unit Unit := .execute t {} (.panic ⟨"failed"⟩) .ok fun _ => .value ()
    let business : Routine Unit Unit :=
      .slot .unbind fun _ => .catching failing fun _ => .value ()
    let prog : Routine Unit Unit := .execute t {} business .ok fun _ => .value ()
    let begun : Note := .called ⟨"m", none, .launch (t.request {} {} {}) (.granted x)⟩
    ∃ r, prog.exec .main { rest := [] } = .ok r ∧ WellBracketed r.world.journal ∧
      r.world.journal = [begun, .opened, begun, .opened, .ended false,
        .called ⟨"m", none, .rollback x (.granted .rolledBack)⟩, .ended true,
        .called ⟨"m", none, .commit x (.granted .committed)⟩] := by
  intro x t failing business prog begun
  rcases exec_wellBracketed prog .main { rest := [] } rfl with
    ⟨r, W, ran, journal, bracketed, -⟩ | ⟨aborted, -⟩
  · refine ⟨r, ran, ?_, ?_⟩
    · rw [journal]
      exact bracketed
    · obtain rfl := Except.ok.inj ran
      decide
  · cases aborted

end AmbientTx
