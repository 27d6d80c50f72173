import AmbientTx.Proofs.Lives
import AmbientTx.Proofs.Passage

/-! # What is bound while a transaction is closed

A manager sees what is bound on the worker that calls it. A synchronous launcher commits or rolls
back with what its business left bound, and it rolls back with nothing bound if the business unwound
(`Fate.boundAfter`). An asynchronous launcher closes its transaction with what the worker had bound
when the poll or the drop began, since its carrier is suspended by then.

A worker without a slot has nothing bound, whatever is bound on it. So there a synchronous launcher
does not close its transaction with that bound, although its business left the binding alone.
-/

namespace AmbientTx

variable {ρ κ α ε : Type} {w : Worker} {s s' t : World ρ}

open World AmbientTx.Action

/-- Whether an exchange closes a transaction. -/
def Exchange.isClosing : Exchange → Bool
  | .commit _ _ | .rollback _ _ => true
  | .launch _ _ => false

theorem Part.bound_of_closing {part : Part} {bound : Option Xid} {succeeded : Bool}
    {answer : Answer GlobalStatus} {c : Call}
    (mem : c ∈ part.closing bound succeeded answer) : c.bound = bound := by
  cases part with
  | joined x => cases mem
  | launched l =>
    obtain rfl := List.mem_singleton.1 mem
    rfl

theorem Part.not_closing_of_opening {part : Part} {request : BeginRequest} {c : Call}
    (mem : c ∈ part.opening request) : c.exchange.isClosing = false := by
  cases part with
  | joined x => cases mem
  | launched l =>
    obtain rfl := List.mem_singleton.1 mem
    rfl

/-- A call that gets no part closes nothing. -/
theorem Template.not_closing_of_refused {template : Template} {info : CallInfo}
    {fate : Fate (Except (CallError ε) Part)} {own : Trail} {c : Call}
    (started : template.start info w s = .ok ⟨fate, t⟩)
    (refused : ∀ part, fate ≠ .returned (.ok part)) (grown : t.trail = s.trail ++ own)
    (mem : c ∈ own.calls) : c.exchange.isClosing = false := by
  have starts := Starts.of_run started
  obtain none | ⟨m, answer, -, one⟩ := starts.unopened refused
  · rw [calls_of_trail grown none] at mem
    cases mem
  · rw [calls_of_trail grown one] at mem
    obtain rfl := List.mem_singleton.1 mem
    rfl

namespace Task

variable {destructor : κ → Action ρ Unit} {run : κ → Action ρ (κ × Fate (Progress α))}
  {template : Template} {info : CallInfo} {stage stage' : Stage κ α} {part : Part}
  {span : Option Span} {polled : Polled κ α} {own : Trail} {c : Call}

theorem Opens.not_closing (opens : Opens template info w s stage part span t own)
    (mem : c ∈ own.calls) : c.exchange.isClosing = false := by
  cases opens with
  | starts started grown carried =>
    have starts := Template.Starts.of_run started
    rw [calls_of_trail grown starts.opening] at mem
    exact Part.not_closing_of_opening mem
  | goesOn carried => cases mem

theorem Breaks.sameSlots (spares : ∀ future, Keeps SameSlots (destructor future)) {p : Panic}
    {d : World ρ} (broken : Breaks destructor w polled p t d) : SameSlots w t d := by
  cases broken with
  | unwound dropped => exact dropWith_sameSlots spares _ dropped
  | destroyed destroyed => exact destroy_sameSlots spares _ destroyed

/-- A call that closes a transaction in a poll is made with what was bound when the poll began. -/
theorem Turns.closing_bound (spares : ∀ future, Keeps SameSlots (destructor future))
    (turns : Turns destructor run template info w s s' stage stage' own) (mem : c ∈ own.calls)
    (closes : c.exchange.isClosing) : c.bound = s.bound w := by
  -- what is made before the business closes nothing, and what is made after it has this bound
  have closing {before after : Trail} {part : Part} {t d : World ρ} {succeeded : Bool}
      {answer : Answer GlobalStatus} (mem : c ∈ (before ++ after).calls)
      (opened : c ∈ before.calls → c.exchange.isClosing = false)
      (closed : after.calls = part.closing (d.bound w) succeeded answer)
      (same : SameSlots w t d) (restored : t.bound w = s.bound w) : c.bound = s.bound w := by
    rw [Trail.calls_append, List.mem_append, closed] at mem
    obtain mem | mem := mem
    · cases (opened mem).symm.trans closes
    · rw [Part.bound_of_closing mem, same.bound w, restored]
  cases turns with
  | refuses started refused grown dropped =>
    cases (Template.not_closing_of_refused started refused grown mem).symm.trans closes
  | waits visits => cases (visits.opens.not_closing mem).symm.trans closes
  | completes visits destroyed completed grown =>
    obtain ⟨answer, closed⟩ := Part.complete_calls _ completed
    have same := destroy_sameSlots spares _ destroyed
    exact closing mem visits.opens.not_closing (calls_of_trail grown closed) same visits.restored
  | abandons visits broken abandoned grown =>
    obtain ⟨answer, closed⟩ := Part.abandon_calls _ abandoned
    have same := broken.sameSlots spares
    exact closing mem visits.opens.not_closing (calls_of_trail grown closed) same visits.restored
  | stays finished same => cases mem

/-- The calls that a call makes itself when it is dropped at a stage. -/
def Stage.parting (stage : Stage κ α) (bound : Option Xid) (answer : Answer GlobalStatus) :
    List Call :=
  match stage with
  | .pending part _ _ => part.closing bound false answer
  | .made _ | .refused | .settled _ _ => []

theorem Drops.calls (spares : ∀ future, Keeps SameSlots (destructor future))
    (drops : Drops destructor w s t stage own) :
    ∃ answer, own.calls = stage.parting (s.bound w) answer := by
  cases drops with
  | pending dropped abandoned grown =>
    obtain ⟨answer, closed⟩ := Part.abandon_calls _ abandoned
    have same : SameSlots w s _ := dropWith_sameSlots spares _ dropped
    rw [same.bound w] at closed
    exact ⟨answer, calls_of_trail grown closed⟩
  | idle idle dropped =>
    refine ⟨.granted .finished, ?_⟩
    cases stage with
    | pending part span business => exact absurd rfl (idle part span business)
    | made business => rfl
    | refused => rfl
    | settled part fate => rfl

end Task

/-! ## By the path -/

/-- What is bound on the calling worker while a launcher closes its transaction is determined by the
path. A synchronous launcher closes it with what its business left bound, which is its own
transaction if the business left the binding alone and the worker has a slot; with nothing if the
business unwound; and with nothing on a worker that has no slot. An asynchronous launcher closes it
with what the worker had bound when the poll or the drop began. -/
theorem closing_bound_by_path :
    (∀ (ρ ε α : Type) (template : Template) (info : CallInfo) (business : Action ρ (Except ε α))
      (w : Worker) (s : World ρ),
      template.AlwaysPasses info business w s ∧
      ∀ s' ended own, template.Passes info business w s s' ended own →
        (ended = none → ∀ c ∈ own.calls, c.exchange.isClosing = false) ∧
        ∀ e, ended = some e →
          (∃ request answer, own.calls = e.part.opening request ++
            e.part.closing (e.fate.boundAfter w e.world) e.fate.succeeded answer) ∧
          (w.hasSlot = true → e.start.bound w = some e.part.xid) ∧
          (w.hasSlot = false → e.fate.boundAfter w e.world = none)) ∧
    (∀ (ρ κ α : Type) (destructor : κ → Action ρ Unit)
      (run : κ → Action ρ (κ × Fate (Progress α))) (template : Template) (info : CallInfo)
      (business : Task κ),
      Task.AlwaysLives destructor run template info business ∧
      ((∀ future, Keeps SameSlots (destructor future)) →
        ∀ visits stage own, Task.Lives destructor run template info business visits stage own →
          ∀ (w : Worker) (s : World ρ),
            (∀ s' stage' last,
              Task.Turns destructor run template info w s s' stage stage' last →
                ∀ c ∈ last.calls, c.exchange.isClosing = true → c.bound = s.bound w) ∧
            ∀ t last, Task.Drops destructor w s t stage last →
              ∃ answer, last.calls = stage.parting (s.bound w) answer)) := by
  refine ⟨?_, ?_⟩
  · intro ρ ε α template info business w s
    refine ⟨template.alwaysPasses info business w s, ?_⟩
    intro s' ended own passes
    constructor
    · rintro rfl c mem
      cases passes with
      | refuses started refused grown unrun =>
        exact Template.not_closing_of_refused started refused grown mem
    · rintro e rfl
      refine ⟨passes.calls, ?_, ?_⟩
      · intro hasSlot
        cases passes with
        | runs started told entered bound once ran leaves => exact bound hasSlot
      · intro slotless
        have nothing := bound_of_not_hasSlot (by simp [slotless]) e.world (w := w)
        cases fate : e.fate with
        | returned outcome => exact nothing
        | unwound p => rfl
  · intro ρ κ α destructor run template info business
    refine ⟨Task.alwaysLives destructor run template info business, ?_⟩
    intro spares visits stage own lives w s
    constructor
    · intro s' stage' last turns c mem closes
      exact turns.closing_bound spares mem closes
    · intro t last drops
      exact drops.calls spares

/-- The business of a launcher binds another transaction, and the commit is made with that bound. -/
theorem closing_bound_by_path_of_rebound :
    let other : Xid := ⟨"other", by decide⟩
    let business : Action Unit (Except TaskFailure Nat) := do
      let _ ← Ambient.bind other
      return .ok 7
    ∃ (s' : World Unit) (ended : Option (Ended Unit TaskFailure Nat)) (own : Trail),
      Template.Passes { manager := some "m" } {} business .main { rest := () } s' ended own ∧
      ∃ c ∈ own.calls, c.exchange.isClosing = true ∧ c.bound = some other := by
  intro other business
  obtain ⟨r, ran⟩ : ∃ r, Template.execute { manager := some "m" } {} business .main
    ({ rest := () } : World Unit) = .ok r := ⟨_, rfl⟩
  obtain ⟨t, begun⟩ : ∃ t, Template.start { manager := some "m" } {} .main
    ({ rest := () } : World Unit) = .ok ⟨.returned (.ok (.launched ⟨"m", Manager.firstXid⟩) :
      Except (CallError TaskFailure) Part), t⟩ := ⟨_, rfl⟩
  obtain ⟨⟨passing, -⟩, closing⟩ := closing_bound_by_path.1 Unit TaskFailure Nat
    { manager := some "m" } {} business .main { rest := () }
  obtain ⟨ended, own, passes⟩ := passing r ran
  obtain ⟨⟨part, u, fate, v⟩, rfl, rfl, ended⟩ := passes.of_part begun
  obtain ⟨⟨request, answer, calls⟩, -, -⟩ := (closing _ _ _ passes).2 _ rfl
  obtain ⟨t', rebound, -, slot⟩ := Ambient.bind_run other .main u
  cases (bind_of_returned rebound _).symm.trans ended
  have left : v.bound .main = some other := congrArg Slot.xid (slot rfl)
  have last : (⟨"m", v.bound .main, .closing true Manager.firstXid answer⟩ : Call) ∈
      own.calls := by
    rw [calls]
    exact List.mem_cons_of_mem _ List.mem_cons_self
  exact ⟨r.world, _, own, passes, _, last, rfl, left⟩

/-- A worker that used its slot has lost it when it ends. A launcher commits there with nothing
bound, although its business left the slots alone. -/
theorem closing_not_own_of_ending :
    ¬ ∀ (template : Template) (info : CallInfo) (business : Action Unit (Except TaskFailure Nat))
      (w : Worker) (s s' : World Unit) (e : Ended Unit TaskFailure Nat) (own : Trail) (l : Launch)
      (outcome : Except TaskFailure Nat),
      template.Passes info business w s s' (some e) own → e.part = .launched l →
        e.fate = .returned outcome → e.world.slots = e.start.slots →
          ∀ c ∈ own.calls, c.exchange.isClosing = true → c.bound = some l.xid := by
  intro claim
  obtain ⟨r, ran⟩ : ∃ r, Template.execute { manager := some "m" } {}
    (return .ok 7 : Action Unit (Except TaskFailure Nat)) (.ending 0 true)
    ({ rest := () } : World Unit) = .ok r := ⟨_, rfl⟩
  obtain ⟨t, begun⟩ : ∃ t, Template.start { manager := some "m" } {} (.ending 0 true)
    ({ rest := () } : World Unit) = .ok ⟨.returned (.ok (.launched ⟨"m", Manager.firstXid⟩) :
      Except (CallError TaskFailure) Part), t⟩ := ⟨_, rfl⟩
  obtain ⟨ended, own, passes⟩ := Template.execute_passes ran
  obtain ⟨⟨part, u, fate, v⟩, rfl, rfl, ended⟩ := passes.of_part begun
  cases ended
  obtain ⟨request, answer, calls⟩ := passes.calls
  have last : (⟨"m", u.bound (.ending 0 true), .closing true Manager.firstXid answer⟩ : Call) ∈
      own.calls := by
    rw [calls]
    exact List.mem_cons_of_mem _ List.mem_cons_self
  have nothing : u.bound (.ending 0 true) = none := bound_of_not_hasSlot (by decide) u
  have closed := claim _ _ _ _ _ _ _ own _ _ passes rfl rfl rfl _ last rfl
  cases nothing.symm.trans closed

end AmbientTx
