import Mathlib.Data.List.Induction
import AmbientTx.Proofs.Provenance

/-! # What clients bring in

A command brings in the ids of the texts, scopes and answers that it comes with; what the others do
is done with ids that are there already. So what holds of all ids that a client brought in holds of
all ids after any number of turns, and of all that the client was told (`System.serve_only`).
Nothing on the way makes an id blank, or changes the text that it came with
(`Xid.kept_whole`).
-/

namespace AmbientTx

variable {ρ κ α β ε : Type} {P : Xid → Prop} {w : Worker} {s t : World ρ}

open World AmbientTx.Action

/-! ## What is brought in and what is told -/

namespace Script

/-- The id that an operation brings in. -/
def SlotOp.xid? : SlotOp → Option Xid
  | .bind text | .bindText text => Xid.ofString? text
  | .restore x => x
  | .unbind | .current | .isCurrent _ | .inTransaction | .assertOutside | .bindMode _ | .unbindMode
  | .mode | .bindGlobalLock | .unbindGlobalLock | .requiresGlobalLock | .setTimeout _ | .timeout
  | .slot | .clear => none

/-- The id that the reply of an operation tells. -/
def Reply.xid? : Reply → Option Xid
  | .xid x => x
  | .slot found => found.xid
  | .inside (.unexpectedTransaction x) => some x
  | _ => none

/-- A silent reply tells only ids of which anything holds. -/
theorem Reply.told_of_silent {reply : Reply} (silent : reply.xid? = none) :
    ∀ x, reply.xid? = some x → P x := by
  intro x told
  rw [silent] at told
  cases told

/-- What is bound after an operation was bound before, or was brought in. -/
theorem SlotOp.leaves_xid {op : SlotOp} {slot : Slot} {x : Xid}
    (left : (op.leaves slot).xid = some x) : slot.xid = some x ∨ op.xid? = some x := by
  cases op with
  | bind text =>
    simp only [leaves, apply, Xid.ofString] at left
    cases found : Xid.ofString? text with
    | some y =>
      rw [found] at left
      exact .inr (found.trans left)
    | none =>
      rw [found] at left
      exact .inl left
  | bindText text => exact .inr left
  | restore y => exact .inr left
  | assertOutside =>
    simp only [leaves, apply] at left
    split at left <;> exact .inl left
  | unbind | clear => cases left
  | _ => exact .inl left

/-- An operation tells no other id than the one that is bound. -/
theorem SlotOp.tells_xid {op : SlotOp} {config : ContextConfig} {slot : Slot} {x : Xid}
    (told : (op.apply config slot).1.xid? = some x) : slot.xid = some x := by
  cases op with
  | bind text =>
    simp only [apply] at told
    split at told
    · exact told
    · cases told
  | assertOutside =>
    simp only [apply] at told
    split at told
    · next bound => exact bound.trans told
    · cases told
  | bindText _ | unbind | current | slot => exact told
  | _ => cases told

theorem SlotOp.perform_confines {op : SlotOp} (brings : ∀ x, op.xid? = some x → P x) :
    Confines P (op.perform : Action ρ Reply) fun reply => ∀ x, reply.xid? = some x → P x := by
  intro w s r only ran
  obtain ⟨t, performed, turned, slot⟩ := op.perform_computes w s
  obtain rfl := Except.ok.inj (performed.symm.trans ran)
  constructor
  · refine only.of_turned turned fun x found => ?_
    by_cases hasSlot : w.hasSlot
    · rw [World.bound, slot hasSlot, op.apply_snd] at found
      rcases op.leaves_xid found with old | new
      · exact only.bound w x old
      · exact brings x new
    · rw [bound_of_not_hasSlot hasSlot] at found
      cases found
  · exact Fate.all_returned fun x told => only.bound w x (op.tells_xid told)

end Script

/-- What all workers share has no ids in it. -/
theorem World.only_shares : Shares fun _ s t => World.Only (ρ := ρ) P s → t.Only P where
  repeats := ⟨fun _ _ only => only, fun first second only => second (first only)⟩
  event w _ e _ only := only.record_event w e
  config _ _ _ only := ⟨only.bound, only.managers, only.calls⟩
  installed _ _ _ only := ⟨only.bound, only.managers, only.calls⟩

theorem Action.Confines.of_calm {x : Action ρ α}
    (calm : Calm (fun _ s t => s.Only P → t.Only P) x) : Confines P x fun _ => True :=
  fun _ _ _ only ran => ⟨calm.keeps ran only, fun _ _ => trivial⟩

/-- An operation on what all workers share tells no id. -/
theorem Script.SharedOp.perform_confines (op : SharedOp) :
    Confines P (op.perform : Action ρ Reply) fun reply => ∀ x, reply.xid? = some x → P x := by
  cases op with
  | install source =>
    simp only [perform]
    cases source.read with
    | error e => exact .pure (Reply.told_of_silent rfl)
    | ok c =>
      refine (Confines.of_calm (only_shares.install c)).bind fun outcome _ => ?_
      cases outcome <;> exact .pure (Reply.told_of_silent rfl)
  | config => exact .read _ (fun _ _ => rfl) fun _ _ _ => Reply.told_of_silent rfl
  | installManager m =>
    have installed : Confines P (Manager.install m : Action ρ _) fun _ => True :=
      (Confines.log _).bind fun _ _ => (Confines.of_calm only_shares.readInstalled).bind fun _ _ =>
        (Confines.of_calm (only_shares.writeInstalled (some m))).bind fun _ _ => .pure trivial
    exact installed.bind fun _ _ => .pure (Reply.told_of_silent rfl)
  | uninstallManager =>
    have uninstalled : Confines P (Manager.uninstall : Action ρ _) fun _ => True :=
      (Confines.of_calm only_shares.readInstalled).bind fun _ _ =>
        (Confines.of_calm (only_shares.writeInstalled none)).bind fun _ _ => .pure trivial
    exact uninstalled.bind fun _ _ => .pure (Reply.told_of_silent rfl)
  | manager =>
    refine (Confines.of_calm only_shares.readInstalled).bind fun found _ => ?_
    cases found <;> exact .pure (Reply.told_of_silent rfl)
  | hasManager =>
    exact (Confines.of_calm only_shares.readInstalled).bind fun _ _ =>
      .pure (Reply.told_of_silent rfl)
  | role => exact .read _ (fun _ _ => rfl) fun _ _ _ => Reply.told_of_silent rfl

/-- The ids that an operation brings in. -/
def Operation.Only (P : Xid → Prop) : Operation → Prop
  | .slot op => ∀ x, op.xid? = some x → P x
  | .shared _ => True
  | .activate scope | .deactivate scope | .resume scope | .suspend scope => scope.Only P

/-- The ids that a command brings in. -/
def Command.Only (P : Xid → Prop) : Command κ ε α → Prop
  | .operate op => op.Only P
  | .answers _ v => v.Only P
  | .enter scope | .resume scope | .carry _ scope => scope.Only P
  | .install _ | .release | .suspend | .call _ _ | .leave _ | .future _ | .wrap _ _ _ | .poll _
  | .finish _ _ | .drop _ => True

/-- The ids that a client is told. -/
def Response.Only (P : Xid → Prop) : Response κ ε α → Prop
  | .reply given => ∀ x, given.xid? = some x → P x
  | .turned (.ok scope) | .hooked scope _ | .released scope => scope.Only P
  | .called (.ok part) => P part.xid
  | .turned (.error _) | .called (.error _) | .installed _ | .left _ | .inside _ | .polled _ | .done
  | .unusable => True

theorem Operation.respond_confines {op : Operation} (brings : op.Only P) :
    Confines P (op.respond : Action ρ (Response κ ε α)) (Response.Only P) := by
  have turned {x : Action ρ (Except ScopeError Scope)}
      (h : Confines P x fun outcome => ∀ scope, outcome = .ok scope → scope.Only P) :
      Confines P (do return .turned (← x) : Action ρ (Response κ ε α)) (Response.Only P) := by
    refine h.bind ?_
    rintro (e | scope) turned
    · exact .pure trivial
    · exact .pure (turned scope rfl)
  cases op with
  | slot op => exact (op.perform_confines brings).bind fun _ told => .pure told
  | shared op => exact op.perform_confines.bind fun _ told => .pure told
  | activate scope => exact turned (Scope.activate_confines brings)
  | deactivate scope => exact turned (Scope.deactivate_confines brings)
  | resume scope => exact (Scope.resume_confines brings).bind fun _ told => .pure told
  | suspend scope => exact (Scope.suspend_confines brings).bind fun _ told => .pure told

/-! ## Turns -/

namespace System

variable {c d : System ρ κ} {command : Command κ ε α} {response : Fate (Response κ ε α)}

theorem Only.innermost (only : c.Only P) {stay : Stay} {inner outer : List (Worker × Stay)}
    (top : c.Innermost w stay inner outer) :
    stay.Only P ∧ ∀ e ∈ inner ++ outer, e.2.Only P := by
  have all := only.stays
  rw [top.1, List.forall_mem_append, List.forall_mem_cons] at all
  exact ⟨all.2.1, List.forall_mem_append.2 ⟨all.1, all.2.2⟩⟩

theorem Only.task (only : c.Only P) {i : Nat} {task : Task κ} (found : c.tasks[i]? = some task) :
    task.Only P ∧ ∀ other ∈ c.tasks.eraseIdx i, other.Only P :=
  ⟨only.tasks task (List.mem_of_getElem? found),
    fun other mem => only.tasks other (List.mem_of_mem_eraseIdx mem)⟩

/-- What happens in the world leaves the stays and the tasks alone. -/
theorem Only.here (only : c.Only P) (world : s.Only P) : Only P { c with world := s } :=
  ⟨world, only.stays, only.tasks⟩

theorem Only.staying (only : c.Only P) (world : s.Only P) {stay : Stay} (held : stay.Only P) :
    (c.staying w stay s).Only P :=
  ⟨world, List.forall_mem_cons.2 ⟨held, only.stays⟩, only.tasks⟩

/-- A task takes the place of another, in this world. -/
theorem Only.replaced (only : c.Only P) {i : Nat} {task : Task κ} (world : s.Only P)
    (held : task.Only P) : Only P { c with world := s, tasks := task :: c.tasks.eraseIdx i } :=
  ⟨world, only.stays, List.forall_mem_cons.2
    ⟨held, fun other mem => only.tasks other (List.mem_of_mem_eraseIdx mem)⟩⟩

/-- A command brings in what it comes with, and nothing else. -/
theorem perform_only (only : c.Only P) (brings : command.Only P)
    (ran : c.perform w command = .ok (response, d)) :
    d.Only P ∧ response.All (Response.Only P) := by
  cases serves ran with
  | operate action =>
    obtain ⟨world, told⟩ := Operation.respond_confines brings only.world action
    exact ⟨only.here world, told⟩
  | install action =>
    obtain ⟨world, told⟩ := Confines.of_calm (only_shares.install _) only.world action
    exact ⟨only.here world, told.map fun _ _ => trivial⟩
  | answers m v => exact ⟨only.here (only.world.setManager m brings), Fate.all_returned trivial⟩
  | enter action =>
    obtain ⟨world, turned⟩ := Scope.activate_confines brings only.world action
    have held := turned _ rfl _ rfl
    exact ⟨only.staying world held, Fate.all_returned held⟩
  | enterFailed action failed =>
    obtain ⟨world, turned⟩ := Scope.activate_confines brings only.world action
    refine ⟨only.here world, turned.map ?_⟩
    rintro (e | active) held
    · trivial
    · exact held active rfl
  | resume action =>
    obtain ⟨world, turned⟩ := Scope.resume_confines brings only.world action
    have held := turned _ rfl
    exact ⟨only.staying world held, Fate.all_returned held⟩
  | resumeFailed action =>
    obtain ⟨world, turned⟩ := Scope.resume_confines brings only.world action
    exact ⟨only.here world, turned.map fun _ held => held⟩
  | release top action =>
    obtain ⟨held, others⟩ := only.innermost top
    obtain ⟨world, idle⟩ := Scope.release_confines held only.world action
    exact ⟨⟨world, others, only.tasks⟩, idle.map fun _ told => told⟩
  | suspend top action =>
    obtain ⟨held, others⟩ := only.innermost top
    obtain ⟨world, idle⟩ := Scope.suspend_confines held only.world action
    exact ⟨⟨world, others, only.tasks⟩, idle.map fun _ told => told⟩
  | call action =>
    obtain ⟨world, entered⟩ := Template.enter_confines _ _ only.world action
    have own := entered _ rfl _ rfl
    exact ⟨only.staying world own, Fate.all_returned own⟩
  | refuse action refused =>
    obtain ⟨world, entered⟩ := Template.enter_confines _ _ only.world action
    refine ⟨only.here world, entered.map ?_⟩
    rintro (e | part) own
    · trivial
    · exact own part rfl
  | leave top action =>
    obtain ⟨own, others⟩ := only.innermost top
    obtain ⟨world, left⟩ := Part.leave_confines own _ only.world action
    exact ⟨⟨world, others, only.tasks⟩, left.map fun _ _ => trivial⟩
  | future future =>
    exact ⟨⟨only.world, only.stays, List.forall_mem_cons.2 ⟨trivial, only.tasks⟩⟩,
      Fate.all_returned trivial⟩
  | carry found action =>
    obtain ⟨world, made⟩ := Task.carry_confines (only.task found).1 brings only.world action
    exact ⟨only.replaced world (made _ rfl), Fate.all_returned trivial⟩
  | wrap template info found =>
    exact ⟨only.replaced only.world (only.task found).1, Fate.all_returned trivial⟩
  | poll found action =>
    obtain ⟨inside, others⟩ := only.task found
    obtain ⟨world, reached⟩ := Task.approach_confines inside only.world action
    exact ⟨⟨world, List.forall_mem_cons.2 ⟨reached _ rfl, only.stays⟩, others⟩,
      Fate.all_returned trivial⟩
  | pass found action =>
    obtain ⟨world, ended⟩ := Task.approach_confines (only.task found).1 only.world action
    exact ⟨only.replaced world (ended _ rfl), Fate.all_returned trivial⟩
  | finish top action =>
    obtain ⟨held, others⟩ := only.innermost top
    obtain ⟨world, closed⟩ := Layer.closeAll_confines held (by trivial) only.world action
    exact ⟨⟨world, others, List.forall_mem_cons.2 ⟨closed _ rfl, only.tasks⟩⟩,
      Fate.all_returned trivial⟩
  | drop found action =>
    obtain ⟨inside, others⟩ := only.task found
    obtain ⟨world, dropped⟩ := Task.drop_confines inside only.world action
    exact ⟨⟨world, only.stays, others⟩, dropped.map fun _ _ => trivial⟩
  | unusable moves => exact ⟨only, Fate.all_returned trivial⟩

/-- What holds of all ids that a client brings in holds of all ids that are held, and of all that it
is told. -/
theorem serve_only (client : Client κ ε α) {c : System ρ κ} {turns : List (Turn ρ κ ε α)}
    (only : c.Only P) (taken : turns <+: (c.serve client).turns)
    (brings : ∀ turn ∈ turns, turn.command.Only P) :
    (c.after turns).Only P ∧ ∀ turn ∈ turns, turn.response.All (Response.Only P) := by
  induction turns using List.reverseRecOn with
  | nil => exact ⟨only, fun _ mem => absurd mem List.not_mem_nil⟩
  | append_singleton past turn ih =>
    obtain ⟨earlier, now⟩ := List.forall_mem_append.1 brings
    obtain ⟨held, told⟩ := ih ((List.prefix_append past [turn]).trans taken) earlier
    obtain ⟨ran, -, -⟩ := serve_after client taken
    obtain ⟨left, response⟩ := perform_only held (now turn List.mem_cons_self) ran
    exact ⟨left, List.forall_mem_append.2 ⟨told, List.forall_mem_singleton.2 response⟩⟩

end System

/-! ## Ids stay what they are -/

theorem Scope.only_of_forall (all : ∀ x, P x) (scope : Scope) : scope.Only P :=
  ⟨fun x _ => all x, fun x _ => all x⟩

theorem Task.only_of_forall (all : ∀ x, P x) (task : Task κ) : task.Only P := by
  induction task with
  | plain _ | ended => trivial
  | carried carrier inner ih => exact ⟨carrier.scope.only_of_forall all, ih⟩
  | fresh t info business ih => exact ih
  | called part carrier business ih => exact ⟨all part.xid, carrier.scope.only_of_forall all, ih⟩

/-- A property of every id is one of every id in a system. -/
theorem System.only_of_forall (all : ∀ x, P x) (c : System ρ κ) : c.Only P := by
  have world : c.world.Only P :=
    ⟨fun _ x _ => all x, fun _ x _ => all x, fun _ _ => ⟨fun x _ => all x, fun x _ => all x⟩⟩
  refine ⟨world, fun e _ => ?_, fun task _ => task.only_of_forall all⟩
  obtain ⟨v, guarded | part | layers⟩ := e
  · exact guarded.only_of_forall all
  · exact all part.xid
  · exact fun layer _ => ⟨layer.carrier.scope.only_of_forall all, fun part _ => all part.xid⟩

/-- A text is taken as an id exactly if one of its characters is not white space; all ways in agree
on that and on the id, and all ways out give the text back. Binding a text that is taken is binding
its id, and otherwise it does what unbinding does. After any turns of any client, no id that is
bound, in a scope, in a call or in a task, and none that a manager was asked to commit or to roll
back, is without such a character; and any property that the ids had from the start and that all
ids have that were brought in is one of all these ids, and of all ids that the client was told. -/
theorem Xid.kept_whole (client : Client κ ε α) {c : System ρ κ} {turns : List (Turn ρ κ ε α)}
    (taken : turns <+: (c.serve client).turns) :
    (∀ text, (∃ x, Takes text x) ↔ ∃ ch ∈ text.toList, Text.isWhite ch = false) ∧
      (∀ text, Refuses text ↔ ∀ ch ∈ text.toList, Text.isWhite ch = true) ∧
      (∀ text x, Takes text x →
        (Ambient.bindText text : Action ρ (Option Xid)) = Ambient.bind x) ∧
      (∀ text, Refuses text →
        Ambient.Alike (Ambient.bindText text : Action ρ (Option Xid)) Ambient.unbind) ∧
      (c.after turns).Only (fun x => ∃ ch ∈ x.text.toList, Text.isWhite ch = false) ∧
      ∀ P : Xid → Prop, c.Only P → (∀ turn ∈ turns, turn.command.Only P) →
        (c.after turns).Only P ∧ ∀ turn ∈ turns, turn.response.All (Response.Only P) := by
  refine ⟨exists_takes_iff, refuses_iff, fun _ _ => Ambient.bindText_of_takes,
    fun _ => Ambient.bindText_of_refuses, System.only_of_forall visible _, ?_⟩
  intro P start brings
  exact System.serve_only client start taken brings

/-- A manager grants an id with white space around it, and commits that very id. -/
theorem Xid.kept_whole_of_granted :
    ∃ (x : Xid) (c : System Unit Unit) (client : Client Unit Unit Unit)
      (turns : List (Turn Unit Unit Unit Unit)), x.text = "\ttx 9 " ∧
      turns <+: (c.serve client).turns ∧
      (c.after turns).Only (fun y => y = x ∨ y = Manager.firstXid) ∧
      (c.after turns).world.calls.map (fun call => call.exchange.xid?) = [some x, some x] := by
  let x : Xid := ⟨"\ttx 9 ", by decide⟩
  let granting : Manager := { Manager.willing with begins := ⟨.granted x, []⟩ }
  let c : System Unit Unit := { world := { rest := () } }
  let client : Client Unit Unit Unit :=
    .ask .main (.answers "tm" granting) fun _ =>
      .ask .main (.call { manager := some "tm" } {}) fun _ =>
        .ask .main (.leave (.returned (.ok ()))) fun _ => .stop
  have taken : [_, _, _] <+: (c.serve client).turns := ⟨[], rfl⟩
  have start : c.Only fun y => y = x ∨ y = Manager.firstXid := by
    refine ⟨⟨fun w y found => ?_, fun m y mem => ?_, fun _ mem => ?_⟩, fun _ mem => ?_,
      fun _ mem => ?_⟩
    · simp [c, World.bound, World.slot] at found
    · exact .inr (Answer.granted.inj (List.mem_singleton.1 mem))
    · exact absurd mem List.not_mem_nil
    · exact absurd mem List.not_mem_nil
    · exact absurd mem List.not_mem_nil
  obtain ⟨-, -, -, -, -, keeps⟩ := kept_whole client taken
  refine ⟨x, c, client, _, rfl, taken, (keeps _ start ?_).1, rfl⟩
  intro turn mem
  rcases List.mem_cons.1 mem with rfl | mem
  · intro y granted
    cases List.mem_singleton.1 granted
    exact .inl rfl
  · rcases List.mem_cons.1 mem with rfl | mem
    · trivial
    · obtain rfl := List.mem_singleton.1 mem
      trivial

end AmbientTx
