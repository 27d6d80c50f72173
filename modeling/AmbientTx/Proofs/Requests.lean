import AmbientTx.Proofs.Course
import AmbientTx.Proofs.Modes

/-! # What managers are asked for

A call that begins a transaction looks its request up when it begins: the timeout is its own, or
else the one that is set on the worker that makes the call, or else the default of the installed
configuration, or else that of the template (`Template.request`). An asynchronous call begins in
its first poll, so it asks with what holds on the worker that polls it, and not with what held where
it was made. On a worker whose slot is gone no timeout is set, whatever is asked for
(`World.override`).

Every turn of a client starts at most the call that it names, or the calls that were not polled yet
in the task that it polls (`System.starts`). What it asks managers for is what these calls ask for
then, in this order (`System.perform_requests`).
-/

namespace AmbientTx

variable {ρ κ α β ε : Type} {w : Worker} {s t u : World ρ}

open World AmbientTx.Action

/-! ## Requests -/

/-- What a manager was asked for, if it was asked to begin. -/
def Call.request? (call : Call) : Option BeginRequest :=
  match call.exchange with
  | .launch request _ => some request
  | .commit _ _ | .rollback _ _ => none

namespace World

/-- What managers were asked to begin. -/
def requests (s : World ρ) : List BeginRequest :=
  s.calls.filterMap Call.request?

/-- What these calls ask for, if they begin on `w` now. -/
def due (s : World ρ) (w : Worker) (calls : List (Template × CallInfo)) : List BeginRequest :=
  calls.map fun call => call.1.request call.2 s.config (s.slot w)

/-- Managers were asked to begin some of these calls. -/
def Asks (calls : List (Template × CallInfo)) (w : Worker) (s t : World ρ) : Prop :=
  ∃ made, t.requests = s.requests ++ made ∧ made.Sublist (s.due w calls)

/-- Managers were asked to begin some of these calls, and nothing changed that requests depend
on. -/
structure Begins (calls : List (Template × CallInfo)) (w : Worker) (s t : World ρ) : Prop where
  asks : Asks calls w s t
  config : t.config = s.config
  entries : Framed w s t

variable {calls first rest : List (Template × CallInfo)}

theorem requests_of_calls (same : t.calls = s.calls) : t.requests = s.requests := by
  rw [requests, same, requests]

theorem Asks.of_same (same : t.requests = s.requests) : Asks calls w s t :=
  ⟨[], same.trans (List.append_nil _).symm, List.nil_sublist _⟩

theorem Begins.of_sublist (h : Begins first w s t) (fewer : first.Sublist calls) :
    Begins calls w s t := by
  obtain ⟨made, grown, some⟩ := h.asks
  exact ⟨⟨made, grown, some.trans (fewer.map _)⟩, h.config, h.entries⟩

theorem Begins.trans (h : Begins first w s t) (k : Begins rest w t u) :
    Begins (first ++ rest) w s u := by
  obtain ⟨made, grown, some⟩ := h.asks
  obtain ⟨more, grown', some'⟩ := k.asks
  -- the later requests depend on what did not change
  have entries := congrArg Slot.timeout (h.entries w)
  have timeout : (t.slot w).timeout = (s.slot w).timeout := entries
  have same : t.due w rest = s.due w rest := by
    simp only [due, Template.request, h.config, timeout]
  refine ⟨⟨made ++ more, ?_, ?_⟩, k.config.trans h.config, framed_repeats.trans h.entries k.entries⟩
  · rw [grown', grown, List.append_assoc]
  · rw [same] at some'
    rw [due, List.map_append]
    exact some.append some'

theorem begins_nothing (calls : t.calls = s.calls) (config : t.config = s.config)
    (entries : Framed w s t) : Begins [] w s t :=
  ⟨.of_same (requests_of_calls calls), config, entries⟩

theorem Called.begins_nothing {m : ManagerName} {e : Exchange} (called : Called w m e s t)
    (other : Call.request? ⟨m, s.bound w, e⟩ = none) : Begins [] w s t := by
  refine ⟨.of_same ?_, called.config, called.silent.framed⟩
  rw [requests, called.calls, List.filterMap_append]
  simp [requests, other]

/-- What does not start a call begins nothing. -/
theorem begins_carries : Carries (Begins (ρ := ρ) []) where
  repeats := ⟨fun w s => begins_nothing rfl rfl (framed_repeats.refl w s), Begins.trans⟩
  event w s e _ := begins_nothing (calls_event s w e) rfl fun _ => rfl
  bind x := by
    intro w s r ran
    have turned := (Ambient.bind_calm x).keeps ran
    exact begins_nothing turned.calls turned.config (framed_pervades.bind x ran)
  unbind := by
    intro w s r ran
    have turned := Ambient.unbind_calm.keeps ran
    exact begins_nothing turned.calls turned.config (framed_pervades.unbind ran)
  commit m x := by
    intro w s r ran
    obtain ⟨answer, t, committed, called⟩ := Manager.commit_run m x w s
    obtain rfl := Except.ok.inj (committed.symm.trans ran)
    exact called.begins_nothing rfl
  rollback m x := by
    intro w s r ran
    obtain ⟨answer, t, rolledBack, called⟩ := Manager.rollback_run m x w s
    obtain rfl := Except.ok.inj (rolledBack.symm.trans ran)
    exact called.begins_nothing rfl
  span w s phase span n := by
    have calls := (calls_record s w (.span phase span)).trans (List.append_nil _)
    exact begins_nothing calls rfl fun _ => rfl

end World

/-! ## Code that starts calls -/

namespace World.Begins

variable {calls first rest : List (Template × CallInfo)} {x : Action ρ α} {f : α → Action ρ β}

theorem nothing (h : Keeps (Begins []) x) : Keeps (Begins calls) x :=
  h.mono fun h => h.of_sublist (List.nil_sublist calls)

theorem bind (hx : Keeps (Begins first) x) (hf : ∀ a, Keeps (Begins rest) (f a)) :
    Keeps (Begins (first ++ rest)) (x >>= f) := by
  intro w s r ran
  rcases bind_eq_ok.1 ran with ⟨a, t, begun, after⟩ | ⟨p, t, begun, rfl⟩
  · exact (hx begun).trans (hf a after)
  · exact (hx begun).of_sublist (List.sublist_append_left first rest)

/-- After code that begins nothing. -/
theorem after (hx : Keeps (Begins []) x) (hf : ∀ a, Keeps (Begins calls) (f a)) :
    Keeps (Begins calls) (x >>= f) :=
  bind hx hf

/-- Before code that begins nothing. -/
theorem before (hx : Keeps (Begins calls) x) (hf : ∀ a, Keeps (Begins []) (f a)) :
    Keeps (Begins calls) (x >>= f) := by
  have both := bind hx hf
  rwa [List.append_nil] at both

end World.Begins

theorem Template.start_begins (template : Template) (info : CallInfo) :
    Keeps (Begins [(template, info)])
      (template.start info : Action ρ (Except (CallError ε) Part)) := by
  rintro w s ⟨fate, u⟩ ran
  have starts := Starts.of_run ran
  refine ⟨?_, starts.silent.config, starts.silent.framed⟩
  cases starts with
  | joins bound => exact .of_same (requests_of_calls (calls_event s w _))
  | unmanaged unbound missing => exact .of_same rfl
  | asks unbound found called =>
    refine ⟨_, ?_, List.Sublist.refl _⟩
    rw [requests, called.calls, List.filterMap_append]
    rfl

theorem Template.enter_begins (template : Template) (info : CallInfo) :
    Keeps (Begins [(template, info)])
      (template.enter info : Action ρ (Except (CallError ε) Part)) := by
  refine Begins.before (template.start_begins info) fun outcome => ?_
  cases outcome with
  | error e => exact Keeps.pure begins_carries.repeats _
  | ok part =>
    exact Keeps.bind begins_carries.repeats (begins_carries.bindPart part) fun _ =>
      Keeps.pure begins_carries.repeats _

namespace Task

/-- The calls of a task that were not polled yet, the outermost first. -/
def unpolled : Task κ → List (Template × CallInfo)
  | .plain _ | .ended => []
  | .carried _ inner => inner.unpolled
  | .called _ _ business => business.unpolled
  | .fresh template info business => (template, info) :: business.unpolled

theorem reachUnder_begins {calls : List (Template × CallInfo)} (part : Option Part)
    (carrier : Carrier) (inner : Task κ) {reach : Action ρ (List Layer × Reached κ α)}
    (kept : Keeps (Begins calls) reach) :
    Keeps (Begins calls) (reachUnder part carrier inner reach) := by
  refine Begins.after (begins_carries.resume carrier) fun resumed => ?_
  obtain ⟨carrier, ⟨⟩ | p⟩ := resumed
  · exact Begins.before kept fun _ => Keeps.pure begins_carries.repeats _
  · refine Begins.nothing ?_
    exact Keeps.bind begins_carries.repeats (begins_carries.settleUnder part carrier _) fun _ =>
      Keeps.pure begins_carries.repeats _

/-- The way in of a poll starts the calls of the task that were not polled yet. -/
theorem reach_begins (task : Task κ) :
    Keeps (Begins task.unpolled) (task.reach : Action ρ (List Layer × Reached κ α)) := by
  induction task with
  | plain future => exact Keeps.pure begins_carries.repeats _
  | carried carrier inner ih => exact reachUnder_begins none carrier inner ih
  | fresh template info business ih =>
    have refused (fate : Fate (Progress α)) : Keeps (Begins business.unpolled) (do
        return ([], .ended (← endWith fate business.drop)) :
          Action ρ (List Layer × Reached κ α)) := by
      refine Begins.nothing ?_
      exact Keeps.bind begins_carries.repeats
        (begins_carries.endWith fate (begins_carries.drop business)) fun _ =>
          Keeps.pure begins_carries.repeats _
    refine Begins.bind (template.start_begins info).attempt fun outcome => ?_
    obtain (e | part) | p := outcome
    · exact refused _
    · exact Begins.after (begins_carries.create _) fun carrier =>
        reachUnder_begins (some part) carrier business ih
    · exact refused _
  | called part carrier business ih => exact reachUnder_begins (some part) carrier business ih
  | ended => exact Keeps.pure begins_carries.repeats _

theorem approach_begins (task : Task κ) :
    Keeps (Begins task.unpolled)
      (task.approach : Action ρ (List Layer × κ ⊕ Polled κ α)) := by
  refine Begins.before task.reach_begins fun reached => ?_
  obtain ⟨layers, future | polled⟩ := reached
  · exact Keeps.pure begins_carries.repeats _
  · exact Keeps.bind begins_carries.repeats (begins_carries.closeAll layers polled) fun _ =>
      Keeps.pure begins_carries.repeats _

end Task

/-! ## Turns -/

namespace System

/-- The calls that a command starts, unless something is in their way. -/
def starts (c : System ρ κ) : Command κ ε α → List (Template × CallInfo)
  | .call template info => [(template, info)]
  | .poll i => (c.tasks[i]?.map Task.unpolled).getD []
  | _ => []

/-- A poll starts the calls of its task that were not polled yet. -/
theorem starts_poll {c : System ρ κ} {i : Nat} {task : Task κ} (found : c.tasks[i]? = some task) :
    c.starts (.poll i : Command κ ε α) = task.unpolled := by
  rw [starts, found]
  rfl

/-- Whatever a command does, managers are asked to begin nothing but the calls that it starts, with
what the worker and the configuration have at that moment. -/
theorem perform_requests {c d : System ρ κ} {command : Command κ ε α}
    {response : Fate (Response κ ε α)} (ran : c.perform w command = .ok (response, d)) :
    Asks (c.starts command) w c.world d.world := by
  cases serves ran with
  | operate action =>
    obtain ⟨q, performed, same⟩ := perform_of_respond action
    rw [← same]
    exact .of_same (requests_of_calls ((Operation.perform_calm _).keeps performed).calls)
  | install action =>
    exact .of_same (requests_of_calls ((local_shares.install _).keeps action).calls)
  | enter action | enterFailed action _ => exact (begins_carries.activate _ action).asks
  | resume action | resumeFailed action => exact (begins_carries.scopeResume _ action).asks
  | release _ action => exact (begins_carries.scopeRelease _ action).asks
  | suspend _ action => exact (begins_carries.scopeSuspend _ action).asks
  | call action | refuse action _ => exact (Template.enter_begins _ _ action).asks
  | leave _ action => exact (begins_carries.leave _ _ action).asks
  | carry found action =>
    refine Begins.asks (Keeps.bind begins_carries.repeats (begins_carries.create _) ?_ action)
    exact fun _ => Keeps.pure begins_carries.repeats _
  | poll found action | pass found action =>
    rw [starts_poll found]
    exact (Task.approach_begins _ action).asks
  | finish _ action => exact (begins_carries.closeAll _ _ action).asks
  | drop _ action => exact (begins_carries.drop _ action).asks
  | answers | future | wrap | unusable => exact .of_same rfl

end System

/-! ## What was set last -/

/-- What an operation leaves as the timeout, if it sets it. -/
def Script.SlotOp.setsTimeout? : SlotOp → Option (Option UInt64)
  | .setTimeout n => some n
  | .clear => some none
  | .bind _ | .bindText _ | .unbind | .current | .isCurrent _ | .restore _ | .inTransaction
  | .assertOutside | .bindMode _ | .unbindMode | .mode | .bindGlobalLock | .unbindGlobalLock
  | .requiresGlobalLock | .timeout | .slot => none

theorem Script.SlotOp.leaves_timeout (op : SlotOp) (slot : Slot) :
    (op.leaves slot).timeout = op.setsTimeout?.getD slot.timeout := by
  cases op with
  | bind text | assertOutside =>
    simp only [leaves, apply]
    split <;> rfl
  | _ => rfl

/-- What a turn leaves as the timeout of `v`, if it sets it. -/
def Turn.setsTimeout? (v : Worker) (turn : Turn ρ κ ε α) : Option (Option UInt64) :=
  (turn.operation? v).bind Script.SlotOp.setsTimeout?

/-- The configuration that a turn installs, if it installs one. -/
def Turn.installed? (turn : Turn ρ κ ε α) : Option ContextConfig :=
  turn.command.installs?.filter fun config => config.validate.isOk

theorem Turn.Configures.config {turn : Turn ρ κ ε α} (configures : turn.Configures s) :
    turn.world.config = turn.installed?.getD s.config := by
  unfold installed?
  cases attempted : turn.command.installs? with
  | none => exact configures.otherwise attempted
  | some config =>
    rcases configures.attempt config attempted with ⟨valid, installed, -⟩ | ⟨e, invalid, same, -⟩
    · rw [Option.filter_some_pos (by rw [valid]; rfl)]
      exact installed
    · rw [Option.filter_some_neg (by simp [invalid, Except.isOk, Except.toBool]), same]
      rfl

/-- The timeout that is set on `v` after these turns. On a worker without a slot none is. -/
def World.override (start : World ρ) (turns : List (Turn ρ κ ε α)) (v : Worker) : Option UInt64 :=
  if v.hasSlot then System.lastSet (Turn.setsTimeout? v) (start.slot v).timeout turns else none

/-- The configuration that is installed after these turns. -/
def World.configAfter (start : World ρ) (turns : List (Turn ρ κ ε α)) : ContextConfig :=
  System.lastSet Turn.installed? start.config turns

/-- The timeouts of all workers and the configuration are those that were set last. -/
structure SetLast (start : World ρ) (turns : List (Turn ρ κ ε α)) (s : World ρ) : Prop where
  timeout : ∀ v, (s.slot v).timeout = start.override turns v
  config : s.config = start.configAfter turns

theorem SetLast.start (s : World ρ) : SetLast s ([] : List (Turn ρ κ ε α)) s := by
  refine ⟨fun v => ?_, rfl⟩
  unfold World.override
  split
  · rfl
  · next slotless => rw [slot_of_not_hasSlot slotless]

theorem SetLast.perform {start : World ρ} {past : List (Turn ρ κ ε α)} {c d : System ρ κ}
    {command : Command κ ε α} {response : Fate (Response κ ε α)}
    (kept : SetLast start past c.world) (ran : c.perform w command = .ok (response, d)) :
    SetLast start (past ++ [⟨w, command, response, d.world⟩]) d.world := by
  constructor
  · intro v
    have before := kept.timeout v
    unfold World.override at before ⊢
    split
    · next hasSlot =>
      rw [if_pos hasSlot] at before
      have entries := congrArg Slot.timeout
        ((System.performed ran).entries (v := v) response hasSlot)
      rw [System.lastSet_append, ← before, Turn.setsTimeout?,
        ← Turn.read_leaves Script.SlotOp.leaves_timeout]
      exact entries
    · next slotless => rw [slot_of_not_hasSlot slotless]
  · rw [World.configAfter, System.lastSet_append]
    have before : c.world.config = System.lastSet Turn.installed? start.config past := kept.config
    rw [← before]
    exact (System.perform_configures ran).config

namespace System

/-- At every turn of every client, managers are asked to begin nothing but the calls that the turn
starts: a synchronous call, or the calls in the polled task that were not polled yet. They are asked
with the application and the group of its template, the name of the call, and the first timeout that
there is of: that of the call; that which was set last on its worker before the turn, if the worker
has a slot; that of the configuration that was installed last before the turn; that of the
template. -/
theorem begin_requests_resolved (c : System ρ κ) (client : Client κ ε α)
    {turns : List (Turn ρ κ ε α)} {turn : Turn ρ κ ε α}
    (taken : turns ++ [turn] <+: (c.serve client).turns) :
    (c.after turns).perform turn.worker turn.command =
        .ok (turn.response, c.after (turns ++ [turn])) ∧
      (c.after (turns ++ [turn])).world = turn.world ∧
      ∃ made, turn.world.requests = (worldAfter c.world turns).requests ++ made ∧
        made.Sublist (((c.after turns).starts turn.command).map fun (template, info) =>
          { application := template.options.application
            group := template.options.group
            name := info.name
            timeout := (info.timeout.or ((c.world.override turns turn.worker).or
              (c.world.configAfter turns).defaultTimeout)).getD
                template.options.defaultTimeout }) := by
  obtain ⟨ran, before, after⟩ := serve_after client taken
  have earlier : turns <+: (c.serve client).turns := (List.prefix_append turns [turn]).trans taken
  have setLast : SetLast c.world turns (worldAfter c.world turns) :=
    serve_invariant (fun _ _ _ _ _ _ kept ran => kept.perform ran) client (SetLast.start c.world)
      earlier
  obtain ⟨made, grown, some⟩ := perform_requests ran
  rw [after, before] at grown
  refine ⟨ran, after, made, grown, ?_⟩
  rw [due, before] at some
  simp only [Template.request, setLast.timeout, setLast.config] at some
  exact some

/-- A call is wrapped on a worker with a timeout, and polled on another worker that has another one.
It begins with the timeout of that worker, although the configuration has one as well. -/
theorem begin_requests_resolved_of_polled :
    ∃ (c : System Unit Unit) (client : Client Unit Unit Unit)
      (turns : List (Turn Unit Unit Unit Unit)) (turn : Turn Unit Unit Unit Unit)
      (made : List BeginRequest), turns ++ [turn] <+: (c.serve client).turns ∧
      c.world.override turns .main = some 5 ∧ turn.worker ≠ .main ∧
      turn.world.requests = (worldAfter c.world turns).requests ++ made ∧ made ≠ [] ∧
      made.Sublist [⟨"shop", "default_tx_group", "order", 7⟩] := by
  let template : Template := { options := { application := "shop" }, manager := some "tm" }
  let c : System Unit Unit := { world := { rest := () }, tasks := [.plain ()] }
  let client : Client Unit Unit Unit :=
    .ask .main (.operate (.slot (.setTimeout (some 5)))) fun _ =>
      .ask .main (.wrap 0 template { name := "order" }) fun _ =>
        .ask (.fresh 0) (.install { defaultTimeout := some 9 }) fun _ =>
          .ask (.fresh 0) (.operate (.slot (.setTimeout (some 7)))) fun _ =>
            .ask (.fresh 0) (.poll 0) fun _ => .stop
  have taken : [_, _, _, _] ++ [_] <+: (c.serve client).turns := ⟨[], rfl⟩
  obtain ⟨-, -, made, grown, some⟩ := begin_requests_resolved c client taken
  refine ⟨c, client, _, _, made, taken, rfl, nofun, grown, ?_, some⟩
  rintro rfl
  cases grown

/-- A worker that read its slot has lost it when it ends. A timeout that is set there then is lost,
so the next call there begins with that of its template. -/
theorem timeout_lost_of_ending :
    ¬ ∀ (c : System Unit Unit) (client : Client Unit Unit Unit)
      (turns : List (Turn Unit Unit Unit Unit)) (turn : Turn Unit Unit Unit Unit),
      turns ++ [turn] <+: (c.serve client).turns →
      ∃ made, turn.world.requests = (worldAfter c.world turns).requests ++ made ∧
        made.Sublist (((c.after turns).starts turn.command).map fun (template, info) =>
          { application := template.options.application
            group := template.options.group
            name := info.name
            timeout := (info.timeout.or ((lastSet (Turn.setsTimeout? turn.worker)
              (c.world.slot turn.worker).timeout turns).or
                (c.world.configAfter turns).defaultTimeout)).getD
                  template.options.defaultTimeout }) := by
  intro claimed
  let c : System Unit Unit := { world := { rest := () } }
  let client : Client Unit Unit Unit :=
    .ask (.fresh 0) (.operate (.slot .timeout)) fun _ =>
      .ask (.ending 0 true) (.operate (.slot (.setTimeout (some 5)))) fun _ =>
        .ask (.ending 0 true) (.call { manager := some "tm" } {}) fun _ => .stop
  have taken : [_, _] ++ [_] <+: (c.serve client).turns := ⟨[], rfl⟩
  obtain ⟨made, grown, some⟩ := claimed c client _ _ taken
  obtain rfl : [_] = made := grown
  let request (timeout : UInt64) : BeginRequest :=
    ⟨"txscope-app", "default_tx_group", "default", timeout⟩
  have other : ¬ [request 60000].Sublist [request 5] := by decide
  exact other some

end System
end AmbientTx
