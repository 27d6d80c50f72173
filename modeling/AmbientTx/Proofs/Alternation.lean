import Mathlib.Data.List.Chain
import AmbientTx.Proofs.Operation

/-! # Turns of a scope

Code may make scopes, copy them, and turn each of them on any worker and in any order, directly or
as a hook, while others write to the slots. A scope then is a machine with two states. Exactly the
turn that is due succeeds, so that the turns of a scope that succeed are an activation, a
deactivation, and so on (`Alternates`). A turn that is not due changes nothing. What a deactivation
puts back is what the last activation of this scope found, whatever happened in between.
-/

namespace AmbientTx

open World AmbientTx.Action

namespace Scope

/-- The two turns of a scope. -/
inductive Turn where
  | activation
  | deactivation
  deriving DecidableEq

namespace Turn

variable {ρ : Type}

/-- Takes a turn. -/
def take : Turn → Scope → Action ρ (Except ScopeError Scope)
  | activation => Scope.activate
  | deactivation => Scope.deactivate

/-- Takes a turn as a hook. -/
def takeAsHook : Turn → Scope → Action ρ (Scope × Fate Unit)
  | activation => Hook.scope.resume
  | deactivation => Hook.scope.suspend

/-- The error of a turn that is not due. -/
def error : Turn → ScopeError
  | activation => .alreadyActive
  | deactivation => .notActive

end Turn

/-- The turn that a scope takes next. -/
def due (scope : Scope) : Turn :=
  if scope.isActive then .deactivation else .activation

/-- The scope after the turn that is due, where this is bound. -/
def next (scope : Scope) (bound : Option Xid) : Scope :=
  match scope.saved with
  | none => ⟨scope.captured, some bound⟩
  | some _ => carrying scope.captured

/-- What is bound after the turn that is due. -/
def leaves (scope : Scope) (bound : Option Xid) : Option Xid :=
  match scope.saved with
  | none => scope.captured.or bound
  | some saved => saved

section

variable {ρ : Type} {w : Worker} {s : World ρ}

theorem next_captured (scope : Scope) (bound : Option Xid) :
    (scope.next bound).captured = scope.captured := by
  obtain ⟨captured, _ | saved⟩ := scope <;> rfl

theorem take_due (scope : Scope) :
    Rebinds (scope.due.take scope) w s (.ok (scope.next (s.bound w)))
      (scope.leaves (s.bound w)) := by
  obtain ⟨captured, _ | saved⟩ := scope
  · exact activate_run captured w s
  · exact deactivate_run captured saved w s

theorem take_not_due {scope : Scope} {turn : Turn} (early : turn ≠ scope.due) :
    turn.take scope w s = .ok ⟨.returned (.error turn.error), s⟩ := by
  obtain ⟨captured, _ | saved⟩ := scope
  · cases turn with
    | activation => exact absurd rfl early
    | deactivation => rfl
  · cases turn with
    | activation => rfl
    | deactivation => exact absurd rfl early

theorem takeAsHook_eq (turn : Turn) (scope : Scope) :
    (turn.takeAsHook scope : Action ρ (Scope × Fate Unit)) = (do
      return Hook.turn scope (← turn.take scope)) := by
  cases turn <;> rfl

end
end Scope

/-! ## Code that handles scopes -/

/-- What code does with scopes, which it counts as they are made, and with its slot. -/
inductive Handling where
  | make (captured : Option Xid)
  | capture
  | copy (i : Nat)
  | take (turn : Scope.Turn) (i : Nat)
  | takeAsHook (turn : Scope.Turn) (i : Nat)
  | slot (op : Script.SlotOp)

/-- What it gets back. -/
inductive Handled where
  | made (captured : Option Xid)
  | turned
  | refused (error : ScopeError)
  | replied (reply : Script.Reply)
  /-- No such scope was made. -/
  | missing

namespace Handling

/-- Changes the scopes that were made. -/
def update (f : List Scope → List Scope) : Action (List Scope) Unit :=
  Action.modify fun _ s => { s with rest := f s.rest }

/-- Keeps a scope that was made. -/
def add (scope : Scope) : Action (List Scope) Handled := do
  update fun scopes => scopes ++ [scope]
  return .made scope.captured

/-- Uses the scope that was made at place `i`. -/
def withScope (i : Nat) (use : Scope → Action (List Scope) Handled) :
    Action (List Scope) Handled := do
  match (← Action.get).rest[i]? with
  | none => return .missing
  | some scope => use scope

/-- Keeps what a turn left. -/
def settle (i : Nat) : Except ScopeError Scope → Action (List Scope) Handled
  | .ok scope => do
    update fun scopes => scopes.set i scope
    return .turned
  | .error e => return .refused e

/-- Keeps what a turn of a hook left, and unwinds if the hook panicked. -/
def settleHook (i : Nat) (scope : Scope) (fate : Fate Unit) : Action (List Scope) Handled := do
  update fun scopes => scopes.set i scope
  Action.resume fate
  return .turned

/-- Performs it. -/
def perform : Handling → Action (List Scope) Handled
  | .make captured => add (.carrying captured)
  | .capture => do add (← Scope.capture)
  | .copy i => withScope i fun scope => add scope.copy
  | .take turn i => withScope i fun scope => do settle i (← turn.take scope)
  | .takeAsHook turn i =>
    withScope i fun scope => do
      let (scope, fate) ← turn.takeAsHook scope
      settleHook i scope fate
  | .slot op => do return .replied (← op.perform)

/-- The turn that is taken, and the place of the scope that takes it. -/
def turn? : Handling → Option (Scope.Turn × Nat)
  | .take turn i | .takeAsHook turn i => some (turn, i)
  | .make _ | .capture | .copy _ | .slot _ => none

/-- How a turn ends that is refused: with an error, or as a hook with a panic. -/
def refusal (h : Handling) (e : ScopeError) : Fate Handled :=
  match h with
  | .takeAsHook _ _ => .unwound ⟨e.message⟩
  | _ => .returned (.refused e)

/-- What the scope carries that is made. -/
def makes (h : Handling) (w : Worker) (s : World (List Scope)) : Option (Option Xid) :=
  match h with
  | .make captured => some captured
  | .capture => some (s.bound w)
  | .copy i => s.rest[i]?.map Scope.captured
  | .take _ _ | .takeAsHook _ _ | .slot _ => none

/-! ## One step -/

variable {w : Worker} {s t : World (List Scope)} {h : Handling}

/-- The scope at place `i` took the turn that was due. -/
structure Turns (i : Nat) (scope : Scope) (w : Worker) (s t : World (List Scope)) : Prop where
  rest : t.rest = s.rest.set i (scope.next (s.bound w))
  slot : w.hasSlot → t.slot w = { s.slot w with xid := scope.leaves (s.bound w) }
  others : ∀ v, v ≠ w → t.slot v = s.slot v

/-- All that performing it can do. -/
inductive Performs (h : Handling) (w : Worker) (s : World (List Scope)) :
    Ran (List Scope) Handled → Prop where
  | made (captured : Option Xid) (makes : h.makes w s = some captured) :
      Performs h w s ⟨.returned (.made captured), { s with rest := s.rest ++ [.carrying captured] }⟩
  | missing (unmade : ∀ turn i, h.turn? = some (turn, i) → s.rest[i]? = none)
      (nothing : h.makes w s = none) : Performs h w s ⟨.returned .missing, s⟩
  | turned {i : Nat} {scope : Scope} {t : World (List Scope)}
      (takes : h.turn? = some (scope.due, i)) (at_i : s.rest[i]? = some scope)
      (turns : Turns i scope w s t) : Performs h w s ⟨.returned .turned, t⟩
  | refused {turn : Scope.Turn} {i : Nat} {scope : Scope} (takes : h.turn? = some (turn, i))
      (at_i : s.rest[i]? = some scope) (early : turn ≠ scope.due) :
      Performs h w s ⟨h.refusal turn.error, s⟩
  | replied (op : Script.SlotOp) (reply : Script.Reply) {t : World (List Scope)}
      (is_slot : h = .slot op) (turned : Turned w s t) :
      Performs h w s ⟨.returned (.replied reply), t⟩

theorem withScope_none {i : Nat} {use : Scope → Action (List Scope) Handled}
    (unmade : s.rest[i]? = none) : withScope i use w s = .ok ⟨.returned .missing, s⟩ := by
  have read : (Action.get : Action (List Scope) _) w s = .ok ⟨.returned s, s⟩ := rfl
  rw [withScope, bind_of_returned read, unmade]
  rfl

theorem withScope_some {i : Nat} {use : Scope → Action (List Scope) Handled} {scope : Scope}
    (at_i : s.rest[i]? = some scope) : withScope i use w s = use scope w s := by
  have read : (Action.get : Action (List Scope) _) w s = .ok ⟨.returned s, s⟩ := rfl
  rw [withScope, bind_of_returned read, at_i]

theorem set_same {i : Nat} {scope : Scope} (at_i : s.rest[i]? = some scope) :
    { s with rest := s.rest.set i scope } = s := by
  obtain ⟨_, rfl⟩ := List.getElem?_eq_some_iff.1 at_i
  rw [List.set_getElem_self]

/-- The turn that is due succeeds, directly or as a hook. -/
theorem perform_due {i : Nat} {scope : Scope} (takes : h.turn? = some (scope.due, i))
    (at_i : s.rest[i]? = some scope) :
    ∃ t, h.perform w s = .ok ⟨.returned .turned, t⟩ ∧ Turns i scope w s t := by
  obtain ⟨u, ran, turned, slot⟩ := scope.take_due (w := w) (s := s)
  have turns : Turns i scope w s { u with rest := u.rest.set i (scope.next (s.bound w)) } :=
    ⟨by rw [turned.rest], slot, turned.slot⟩
  refine ⟨_, ?_, turns⟩
  cases h with
  | take turn k =>
    cases takes
    rw [perform, withScope_some at_i, bind_of_returned ran]
    rfl
  | takeAsHook turn k =>
    cases takes
    rw [perform, withScope_some at_i, Scope.takeAsHook_eq, bind_assoc, bind_of_returned ran]
    rfl
  | _ => cases takes

/-- A turn that is not due is refused, and nothing changes. -/
theorem perform_early {i : Nat} {turn : Scope.Turn} {scope : Scope}
    (takes : h.turn? = some (turn, i)) (at_i : s.rest[i]? = some scope)
    (early : turn ≠ scope.due) :
    h.perform w s = .ok ⟨h.refusal turn.error, s⟩ := by
  have ran := Scope.take_not_due (w := w) (s := s) early
  cases h with
  | take turn k =>
    cases takes
    rw [perform, withScope_some at_i, bind_of_returned ran]
    rfl
  | takeAsHook turn k =>
    cases takes
    rw [perform, withScope_some at_i, Scope.takeAsHook_eq, bind_assoc, bind_of_returned ran]
    -- a hook that panics leaves its scope as it was
    show Except.ok (Ran.mk (.unwound ⟨turn.error.message⟩)
      { s with rest := s.rest.set i scope }) = _
    rw [set_same at_i]
    rfl
  | _ => cases takes

/-- A scope that is made is kept, and is inactive. -/
theorem perform_makes {captured : Option Xid} (makes : h.makes w s = some captured) :
    h.perform w s =
      .ok ⟨.returned (.made captured), { s with rest := s.rest ++ [.carrying captured] }⟩ := by
  cases h with
  | make | capture =>
    cases makes
    rfl
  | copy i =>
    obtain ⟨scope, at_i, rfl⟩ := Option.map_eq_some_iff.1 makes
    exact withScope_some at_i
  | take | takeAsHook | slot => cases makes

theorem performs (h : Handling) (w : Worker) (s : World (List Scope)) :
    ∃ r, h.perform w s = .ok r ∧ Performs h w s r := by
  have turn {turn : Scope.Turn} {i : Nat} (takes : h.turn? = some (turn, i))
      (missing : s.rest[i]? = none → h.perform w s = .ok ⟨.returned .missing, s⟩)
      (nothing : h.makes w s = none) :
      ∃ r, h.perform w s = .ok r ∧ Performs h w s r := by
    cases at_i : s.rest[i]? with
    | none =>
      refine ⟨_, missing at_i, .missing ?_ nothing⟩
      intro turn k same
      cases takes.symm.trans same
      exact at_i
    | some scope =>
      by_cases due : turn = scope.due
      · subst due
        obtain ⟨t, ran, turns⟩ := perform_due (w := w) takes at_i
        exact ⟨_, ran, .turned takes at_i turns⟩
      · exact ⟨_, perform_early takes at_i due, .refused takes at_i due⟩
  cases h with
  | make captured => exact ⟨_, perform_makes rfl, .made captured rfl⟩
  | capture => exact ⟨_, perform_makes rfl, .made (s.bound w) rfl⟩
  | copy i =>
    cases at_i : s.rest[i]? with
    | none =>
      have nothing : (copy i).makes w s = none := congrArg (Option.map Scope.captured) at_i
      exact ⟨_, withScope_none at_i, .missing nofun nothing⟩
    | some scope =>
      have makes : (copy i).makes w s = some scope.captured :=
        congrArg (Option.map Scope.captured) at_i
      exact ⟨_, perform_makes makes, .made scope.captured makes⟩
  | take way i => exact turn rfl withScope_none rfl
  | takeAsHook way i => exact turn rfl withScope_none rfl
  | slot op =>
    obtain ⟨t, ran, turned, -⟩ := op.perform_computes w s
    exact ⟨_, bind_of_returned ran fun reply =>
      (Pure.pure (.replied reply) : Action (List Scope) Handled), .replied op _ rfl turned⟩

end Handling

/-! ## What a run tells -/

/-- A step of a run: what was performed and where, the world before it, and how it ended. -/
structure Moment where
  worker : Worker
  handling : Handling
  before : World (List Scope)
  ran : Ran (List Scope) Handled

/-- A turn of a scope that succeeded. -/
inductive Success where
  /-- An activation that found this bound. -/
  | activated (found : Option Xid)
  | deactivated
  deriving DecidableEq

/-- What a scope saves after a turn. -/
def Success.pending : Success → Option (Option Xid)
  | activated found => some found
  | deactivated => none

/-- The success of a turn that was taken where this is bound. -/
def Scope.Turn.success (turn : Scope.Turn) (found : Option Xid) : Success :=
  match turn with
  | activation => .activated found
  | deactivation => .deactivated

/-- The turn of the scope at place `i` that succeeded in this moment. -/
def Moment.success? (m : Moment) (i : Nat) : Option Success :=
  match m.ran.fate, m.handling.turn? with
  | .returned .turned, some (turn, k) =>
    if k = i then some (turn.success (m.before.bound m.worker)) else none
  | _, _ => none

/-- The turns of the scope at place `i` that succeeded, in order. -/
def successes (i : Nat) (moments : List Moment) : List Success :=
  moments.filterMap fun m => m.success? i

/-- The turns are an activation, a deactivation, and so on: each differs from the one before, and
before the first a scope is as after a deactivation. -/
def Alternates (turns : List Success) : Prop :=
  List.IsChain (fun a b => a.pending.isSome ≠ b.pending.isSome) (.deactivated :: turns)

/-- Performs all of it in order, each on its worker. -/
def handleAll : List (Worker × Handling) → World (List Scope) → Except Halt (List Moment)
  | [], _ => .ok []
  | (w, h) :: rest, s =>
    match h.perform w s with
    | .error halt => .error halt
    | .ok r => (handleAll rest r.world).map fun moments => ⟨w, h, s, r⟩ :: moments

/-- What is right in a moment that comes after these. -/
structure Moment.Correct (past : List Moment) (m : Moment) : Prop where
  /-- The turn that is due succeeds, and no other. -/
  succeeds : ∀ turn i scope, m.handling.turn? = some (turn, i) →
    m.before.rest[i]? = some scope → ((m.success? i).isSome ↔ turn = scope.due)
  /-- The other turn is refused with its error, and the world stays as it is. -/
  refuses : ∀ turn i scope, m.handling.turn? = some (turn, i) →
    m.before.rest[i]? = some scope → turn ≠ scope.due →
      m.ran = ⟨m.handling.refusal turn.error, m.before⟩
  /-- An activation installs what its scope captured over what it found. -/
  activates : ∀ i found, m.success? i = some (.activated found) →
    found = m.before.bound m.worker ∧
      ∃ scope, m.before.rest[i]? = some scope ∧
        (m.worker.hasSlot → m.ran.world.slot m.worker =
          { m.before.slot m.worker with xid := scope.captured.or found })
  /-- A deactivation puts back what the last activation found. -/
  deactivates : ∀ i, m.success? i = some .deactivated →
    ∃ found, (successes i past).getLast? = some (.activated found) ∧
      (m.worker.hasSlot → m.ran.world.slot m.worker =
        { m.before.slot m.worker with xid := found })
  /-- A scope carries the same for ever, and all that changes it are its own turns. -/
  keeps : ∀ i scope, m.before.rest[i]? = some scope →
    ∃ after, m.ran.world.rest[i]? = some after ∧ after.captured = scope.captured ∧
      (m.success? i = none → after = scope)
  /-- A scope that is made or copied is inactive. -/
  makes : ∀ captured, m.handling.makes m.worker m.before = some captured →
    m.ran = ⟨.returned (.made captured),
      { m.before with rest := m.before.rest ++ [.carrying captured] }⟩
  /-- Other workers keep their slots. -/
  others : ∀ v, v ≠ m.worker → m.ran.world.slot v = m.before.slot v
  /-- On a worker that has lost its slot nothing is bound. -/
  lost : ¬ m.worker.hasSlot → m.ran.world.slot m.worker = {}

/-! ## Every run is right -/

/-- What the last of these turns saved. -/
def pending (turns : List Success) : Option (Option Xid) :=
  turns.getLast?.bind Success.pending

@[simp] theorem pending_append (turns : List Success) (success : Success) :
    pending (turns ++ [success]) = success.pending := by
  simp [pending]

theorem last_of_pending {turns : List Success} {found : Option Xid}
    (is_pending : pending turns = some found) : turns.getLast? = some (.activated found) := by
  obtain ⟨success, last, saves⟩ := Option.bind_eq_some_iff.1 is_pending
  cases success with
  | activated =>
    cases saves
    exact last
  | deactivated => cases saves

theorem Alternates.append {turns : List Success} {success : Success}
    (alternates : Alternates turns)
    (other : (pending turns).isSome ≠ success.pending.isSome) :
    Alternates (turns ++ [success]) := by
  unfold Alternates
  rw [← List.cons_append, List.isChain_append]
  refine ⟨alternates, List.isChain_singleton _, ?_⟩
  intro last is_last first is_first
  obtain rfl : success = first := by simpa using is_first
  -- what the last turn saved, or nothing if there was none, is what `other` speaks of
  cases turns using List.reverseRecOn with
  | nil =>
    cases is_last
    exact other
  | append_singleton turns last' =>
    rw [← List.cons_append, List.getLast?_concat] at is_last
    cases is_last
    rwa [pending_append] at other

theorem successes_append (i : Nat) (moments : List Moment) (m : Moment) :
    successes i (moments ++ [m]) = successes i moments ++ (m.success? i).toList := by
  rw [successes, List.filterMap_append]
  cases h : m.success? i <;> simp [successes, h]

/-- What the scope at place `i` saves. -/
def World.saved (s : World (List Scope)) (i : Nat) : Option (Option Xid) :=
  s.rest[i]?.bind Scope.saved

/-- What the scopes save is what their last turns say, and these alternate. -/
structure Tracks (past : List Moment) (s : World (List Scope)) : Prop where
  saved : ∀ i, s.saved i = pending (successes i past)
  alternates : ∀ i, Alternates (successes i past)

section

variable {past : List Moment} {h : Handling} {w : Worker} {s : World (List Scope)}
  {r : Ran (List Scope) Handled}

theorem Handling.success?_refusal (turn : Scope.Turn) (i : Nat) :
    Moment.success? ⟨w, h, s, ⟨h.refusal turn.error, s⟩⟩ i = none := by
  unfold Moment.success? Handling.refusal
  cases h <;> rfl

/-- The turn of a scope that was due is a success of this scope alone. -/
theorem Handling.success?_turned {i : Nat} {scope : Scope} {t : World (List Scope)}
    (takes : h.turn? = some (scope.due, i)) (k : Nat) :
    Moment.success? ⟨w, h, s, ⟨.returned .turned, t⟩⟩ k =
      if i = k then some (scope.due.success (s.bound w)) else none := by
  simp only [Moment.success?, takes]

theorem Scope.saved_next (scope : Scope) (bound : Option Xid) :
    (scope.next bound).saved = (scope.due.success bound).pending := by
  obtain ⟨captured, _ | saved⟩ := scope <;> rfl

theorem Handling.Performs.saved (performs : h.Performs w s r) (i : Nat) :
    r.world.saved i =
      match Moment.success? ⟨w, h, s, r⟩ i with
      | none => s.saved i
      | some success => success.pending := by
  cases performs with
  | made captured makes =>
    show ((s.rest ++ [Scope.carrying captured])[i]?).bind Scope.saved = s.saved i
    unfold World.saved
    rcases Nat.lt_or_ge i s.rest.length with made | unmade
    · rw [List.getElem?_append_left made]
    · rw [List.getElem?_append_right unmade, List.getElem?_eq_none unmade]
      cases i - s.rest.length <;> rfl
  | missing => rfl
  | turned takes at_k turns =>
    rename_i k scope t
    rw [success?_turned takes, World.saved, turns.rest]
    by_cases same : k = i
    · subst same
      obtain ⟨made, -⟩ := List.getElem?_eq_some_iff.1 at_k
      rw [if_pos rfl, List.getElem?_set_self made]
      exact scope.saved_next (s.bound w)
    · rw [if_neg same, List.getElem?_set_ne same, World.saved]
  | refused => rw [success?_refusal]
  | replied op reply is_slot turned =>
    rename_i t
    show t.saved i = s.saved i
    rw [World.saved, turned.rest, World.saved]

/-- A turn that succeeded was due. -/
theorem Handling.Performs.due (performs : h.Performs w s r) {i : Nat} {success : Success}
    (succeeded : Moment.success? ⟨w, h, s, r⟩ i = some success) :
    ∃ scope, h.turn? = some (scope.due, i) ∧ s.rest[i]? = some scope ∧
      success = scope.due.success (s.bound w) ∧ Turns i scope w s r.world := by
  cases performs with
  | turned takes at_k turns =>
    rename_i k scope t
    rw [success?_turned takes] at succeeded
    obtain ⟨rfl, same⟩ := Option.ite_none_right_eq_some.1 succeeded
    cases same
    exact ⟨scope, takes, at_k, rfl, turns⟩
  | refused =>
    rw [success?_refusal] at succeeded
    cases succeeded
  | made | missing | replied => cases succeeded

theorem Handling.Performs.tracks (performs : h.Performs w s r) (tracks : Tracks past s) :
    Tracks (past ++ [⟨w, h, s, r⟩]) r.world := by
  constructor
  · intro i
    rw [performs.saved, successes_append]
    cases succeeded : Moment.success? ⟨w, h, s, r⟩ i with
    | none => rw [Option.toList_none, List.append_nil, tracks.saved]
    | some success => rw [Option.toList_some, pending_append]
  · intro i
    rw [successes_append]
    cases succeeded : Moment.success? ⟨w, h, s, r⟩ i with
    | none =>
      rw [Option.toList_none, List.append_nil]
      exact tracks.alternates i
    | some success =>
      rw [Option.toList_some]
      refine (tracks.alternates i).append ?_
      obtain ⟨scope, -, at_i, rfl, -⟩ := performs.due succeeded
      rw [← tracks.saved, World.saved, at_i]
      obtain ⟨captured, _ | saved⟩ := scope <;> exact nofun

theorem Handling.Performs.keeps (performs : h.Performs w s r) {i : Nat} {scope : Scope}
    (at_i : s.rest[i]? = some scope) :
    ∃ after, r.world.rest[i]? = some after ∧ after.captured = scope.captured ∧
      (Moment.success? ⟨w, h, s, r⟩ i = none → after = scope) := by
  obtain ⟨made, -⟩ := List.getElem?_eq_some_iff.1 at_i
  cases performs with
  | made captured makes =>
    exact ⟨scope, (List.getElem?_append_left made).trans at_i, rfl, fun _ => rfl⟩
  | missing | refused => exact ⟨scope, at_i, rfl, fun _ => rfl⟩
  | turned takes at_k turns =>
    rename_i k scope' t
    rw [success?_turned takes, turns.rest]
    by_cases same : k = i
    · subst same
      cases at_i.symm.trans at_k
      refine ⟨_, List.getElem?_set_self made, scope.next_captured _, ?_⟩
      rw [if_pos rfl]
      exact nofun
    · exact ⟨scope, (List.getElem?_set_ne same).trans at_i, rfl, fun _ => rfl⟩
  | replied op reply is_slot turned =>
    refine ⟨scope, ?_, rfl, fun _ => rfl⟩
    rw [turned.rest]
    exact at_i

theorem Handling.Performs.others (performs : h.Performs w s r) {v : Worker} (other : v ≠ w) :
    r.world.slot v = s.slot v := by
  cases performs with
  | made | missing | refused => rfl
  | turned takes at_k turns => exact turns.others v other
  | replied op reply is_slot turned => exact turned.slot v other

theorem Handling.correct (ran : h.perform w s = .ok r) (performs : h.Performs w s r)
    (tracks : Tracks past s) : Moment.Correct past ⟨w, h, s, r⟩ where
  succeeds turn i scope takes at_i := by
    constructor
    · intro succeeded
      obtain ⟨success, succeeded⟩ := Option.isSome_iff_exists.1 succeeded
      obtain ⟨scope', takes', at_i', -⟩ := performs.due succeeded
      cases at_i.symm.trans at_i'
      cases takes.symm.trans takes'
      rfl
    · rintro rfl
      obtain ⟨t, ran', -⟩ := perform_due (w := w) takes at_i
      cases ran.symm.trans ran'
      rw [success?_turned takes, if_pos rfl]
      rfl
  refuses turn i scope takes at_i early := by
    cases ran.symm.trans (perform_early takes at_i early)
    rfl
  activates i found succeeded := by
    obtain ⟨⟨captured, _ | saved⟩, -, at_i, same, turns⟩ := performs.due succeeded
    · cases same
      exact ⟨rfl, _, at_i, turns.slot⟩
    · cases same
  deactivates i succeeded := by
    obtain ⟨⟨captured, _ | saved⟩, -, at_i, same, turns⟩ := performs.due succeeded
    · cases same
    · refine ⟨saved, last_of_pending ?_, turns.slot⟩
      rw [← tracks.saved, World.saved, at_i]
      rfl
  keeps i scope at_i := performs.keeps at_i
  makes captured makes := by
    cases ran.symm.trans (perform_makes makes)
    rfl
  others v other := performs.others other
  lost no_slot := slot_of_not_hasSlot no_slot r.world

end

theorem handleAll_run (program : List (Worker × Handling)) {past : List Moment}
    {s : World (List Scope)} (tracks : Tracks past s) :
    ∃ moments, handleAll program s = .ok moments ∧
      moments.map (fun m => (m.worker, m.handling)) = program ∧
      (∀ i, Alternates (successes i (past ++ moments))) ∧
      ∀ earlier m later, moments = earlier ++ m :: later → m.Correct (past ++ earlier) := by
  induction program generalizing past s with
  | nil =>
    refine ⟨[], rfl, rfl, ?_, ?_⟩
    · rw [List.append_nil]
      exact tracks.alternates
    · intro earlier m later split
      simp at split
  | cons first program ih =>
    obtain ⟨w, h⟩ := first
    obtain ⟨r, ran, performs⟩ := h.performs w s
    obtain ⟨moments, run, same, alternates, correct⟩ := ih (performs.tracks tracks)
    refine ⟨⟨w, h, s, r⟩ :: moments, ?_, ?_, ?_, ?_⟩
    · rw [handleAll, ran]
      simp only [run]
      rfl
    · rw [List.map_cons, same]
    · rwa [List.append_assoc] at alternates
    · intro earlier m later split
      cases earlier with
      | nil =>
        cases split
        rw [List.append_nil]
        exact Handling.correct ran performs tracks
      | cons first earlier =>
        obtain ⟨rfl, rest⟩ := List.cons_eq_cons.1 split
        have right := correct earlier m later rest
        rwa [List.append_assoc] at right

/-- Whatever code does with scopes, on whichever workers and in whichever order: each scope is
turned in alternation, the turn that is not due changes nothing, and where the worker has a slot an
activation installs what the scope captured, if anything, and a deactivation puts back what the
last activation of the scope found. -/
theorem scopes_alternate (program : List (Worker × Handling)) (s : World (List Scope)) :
    ∃ moments, handleAll program { s with rest := [] } = .ok moments ∧
      moments.map (fun m => (m.worker, m.handling)) = program ∧
      (∀ i, Alternates (successes i moments)) ∧
      ∀ past m later, moments = past ++ m :: later → m.Correct past := by
  have tracks : Tracks [] { s with rest := [] } := ⟨fun _ => rfl, fun _ => List.isChain_singleton _⟩
  obtain ⟨moments, run, same, alternates, correct⟩ := handleAll_run program tracks
  refine ⟨moments, run, same, alternates, ?_⟩
  intro past m later split
  exact correct past m later split

/-- A worker that read its slot has lost it when it ends. An activation still succeeds there, but
what the scope captured is not bound. -/
theorem exists_dropped_activation :
    ∃ (x : Xid) (made read activated : Moment),
      handleAll [(.main, .make (some x)), (.fresh 0, .slot .current),
        (.ending 0 true, .take .activation 0)] { rest := [] } = .ok [made, read, activated] ∧
      activated.before.rest[0]? = some (.carrying (some x)) ∧
      activated.success? 0 = some (.activated none) ∧
      activated.ran.world.bound activated.worker ≠ some x :=
  ⟨⟨"T", by decide⟩, _, _, _, rfl, rfl, rfl, nofun⟩

/-! ## Jobs

A job takes both turns of its scope around its body, so its scope has to be inactive.
-/

namespace Job

variable {ρ κ α : Type} {w : Worker} {s : World ρ}

/-- The call of a job whose scope is active panics before the body runs. -/
theorem call_active (run : κ → Action ρ α) {j : Job κ} {saved : Option Xid}
    (active : j.scope.saved = some saved) :
    j.call run w s = .ok ⟨.unwound ⟨ScopeError.alreadyActive.message⟩, s⟩ := by
  have resumed : Hook.scope.resume j.scope w s =
      .ok ⟨.returned (j.scope, .unwound ⟨ScopeError.alreadyActive.message⟩), s⟩ :=
    bind_of_returned (Scope.activate_active active w s) fun outcome =>
      (Pure.pure (Hook.turn j.scope outcome) : Action ρ (Scope × Fate Unit))
  simp only [call, Hook.guarding, Hook.around, bind_assoc]
  rw [bind_of_returned resumed]
  rfl

/-- A call that resumed its scope runs the body, and then suspends. -/
theorem call_resumed {active : Scope} {u : World ρ} {j : Job κ}
    (resumed : Hook.scope.resume j.scope w s = .ok ⟨.returned (active, .returned ()), u⟩)
    (run : κ → Action ρ α) :
    j.call run w s = ((run j.body).attempt >>= fun fate =>
      Hook.scope.finish active fate >>= fun ended => Action.resume ended.2) w u := by
  simp only [call, Hook.guarding, Hook.around, bind_assoc]
  rw [bind_of_returned resumed]
  simp only [bind_assoc, pure_bind]

/-- A job whose scope is inactive runs its body once, on the worker that calls it and with what the
scope captured bound, or else what is bound there. The call ends as the body does, and then what
was bound before is bound again. A job whose scope is active runs nothing and panics. -/
theorem call_runs (j : Job κ) (w : Worker) (s : World ρ) :
    match j.scope.saved with
    | none => ∃ u, Turned w s u ∧
        (w.hasSlot → u.slot w = { s.slot w with xid := j.scope.captured.or (s.bound w) }) ∧
        ∀ (α : Type) (run : κ → Action ρ α),
          match run j.body w u with
          | .error halt => j.call run w s = .error halt
          | .ok ⟨fate, v⟩ => ∃ t, j.call run w s = .ok ⟨fate, t⟩ ∧ Turned w v t ∧
              (w.hasSlot → t.slot w = { v.slot w with xid := s.bound w })
    | some _ => ∀ (α : Type) (run : κ → Action ρ α),
        j.call run w s = .ok ⟨.unwound ⟨ScopeError.alreadyActive.message⟩, s⟩ := by
  obtain ⟨⟨captured, _ | saved⟩, body⟩ := j
  · obtain ⟨u, resumed, turned, slot⟩ := Scope.resume_run captured w s
    refine ⟨u, turned, slot, fun α run => ?_⟩
    have called := call_resumed (j := ⟨_, body⟩) resumed run
    cases ran : run body w u with
    | error halt => rw [called, bind_run, Action.attempt, ran]
    | ok r =>
      obtain ⟨fate, v⟩ := r
      obtain ⟨t, finished, turned', slot'⟩ := Scope.finish_run captured (s.bound w) fate w v
      refine ⟨t, ?_, turned', slot'⟩
      rw [called, bind_of_returned (attempt_of_ran ran), bind_of_returned finished]
      exact resume_run fate w t
  · exact fun α run => call_active run rfl

/-- A scope is activated, and then a job is made of it: its body never runs. -/
theorem exists_body_not_run :
    ∃ (active : Scope) (s t : World Nat),
      (Scope.carrying (some ⟨"T", by decide⟩)).activate .main { rest := 0 } =
        .ok ⟨.returned (.ok active), s⟩ ∧
      Job.call (fun () => Action.modify fun _ s => { s with rest := s.rest + 1 }) ⟨active, ()⟩
        .main s = .ok ⟨.unwound ⟨ScopeError.alreadyActive.message⟩, t⟩ ∧
      t.rest = 0 :=
  ⟨_, _, _, rfl, rfl, rfl⟩

end Job
end AmbientTx
