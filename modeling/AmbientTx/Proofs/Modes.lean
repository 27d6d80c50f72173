import AmbientTx.Proofs.Entries

/-! # Branch modes of transactions

Work takes part in its transaction by confirming and cancelling, or as a saga, only where a client
bound that mode. The mode that is in force without being bound is the default of the configuration,
and these two are never the default: a configuration that has them is not installed, wherever it
comes from. And what is bound on a worker is what the last operation there left (`lastMode`), for
nothing else touches it.
-/

namespace AmbientTx

variable {ρ κ α ε : Type} {w v : Worker} {s t : World ρ}

open World AmbientTx.Action

/-! ## The installed configuration -/

theorem ContextConfig.validate_eq_ok {config : ContextConfig} : config.validate = .ok () ↔
    config.defaultMode = none ∨ config.defaultMode = some .automatic ∨
      config.defaultMode = some .xa := by
  unfold validate
  rcases config.defaultMode with _ | m
  · simp
  · cases m <;> simp [checkMode, BranchMode.mayBeDefault]

/-- An attempt to install a configuration succeeds if it is valid, and else nothing happens. -/
theorem Ambient.install_run (config : ContextConfig) (w : Worker) (s : World ρ) :
    (config.validate = .ok () ∧ install config w s = .ok ⟨.returned (.ok s.config),
        { s.record w (.event (.configInstalled config)) with config }⟩) ∨
      ∃ e, config.validate = .error e ∧ install config w s = .ok ⟨.returned (.error e), s⟩ := by
  unfold install
  cases config.validate with
  | ok u => exact .inl ⟨rfl, rfl⟩
  | error e => exact .inr ⟨e, rfl, rfl⟩

/-- The configuration that a command attempts to install. -/
def Command.installs? : Command κ ε α → Option ContextConfig
  | .install config => some config
  | .operate (.shared (.install source)) => source.read.toOption
  | _ => none

/-- The configuration that an accepted attempt replaced. -/
def Response.previous? : Response κ ε α → Option ContextConfig
  | .installed (.ok previous) => some previous
  | .reply (.previousConfig previous) => some previous
  | _ => none

/-- Why an attempt to install a configuration was rejected. -/
def Response.rejection? : Response κ ε α → Option ContextError
  | .installed (.error e) => some e
  | .reply (.refused (.context e)) => some e
  | _ => none

/-- What a turn does to the configuration that is installed in `s`. An attempt to install another is
accepted and returns it, or it is rejected and changes nothing. -/
structure Turn.Configures (s : World ρ) (turn : Turn ρ κ ε α) : Prop where
  attempt : ∀ config, turn.command.installs? = some config →
    (config.validate = .ok () ∧ turn.world.config = config ∧
      ∃ response, turn.response = .returned response ∧ response.previous? = some s.config) ∨
    ∃ e, config.validate = .error e ∧ turn.world = s ∧
      ∃ response, turn.response = .returned response ∧ response.rejection? = some e
  otherwise : turn.command.installs? = none → turn.world.config = s.config

namespace World

/-- The same configuration is installed. -/
def Configured (_ : Worker) (s t : World ρ) : Prop :=
  t.config = s.config

theorem configured_repeats : Repeats (Configured (ρ := ρ)) where
  refl _ _ := rfl
  trans h k := Eq.trans k h

theorem configured_pervades : Pervades (Configured (ρ := ρ)) where
  repeats := configured_repeats
  event _ _ _ _ := rfl
  bind x := (Ambient.bind_calm x).keeps.mono Turned.config
  unbind := Ambient.unbind_calm.keeps.mono Turned.config
  launch m request _ _ _ _ ran := (Manager.launch_silent m request ran).config
  commit m x := (Manager.commit_silent m x).mono Silent.config
  rollback m x := (Manager.rollback_silent m x).mono Silent.config
  span _ _ _ _ _ := rfl

theorem config_of_does {x : Action ρ α} {reads : ContextConfig → Slot → α} {writes : Slot → Slot}
    {logs : Slot → List Event} (does : Ambient.Does x reads writes logs) : Keeps Configured x := by
  intro w s r ran
  obtain rfl := Except.ok.inj ((does w s).symm.trans ran)
  exact (turned_mapSlot w s writes).config

end World

theorem Script.SharedOp.configured {op : SharedOp} (other : ∀ source, op ≠ .install source) :
    Keeps Configured (op.perform : Action ρ Reply) := by
  cases op with
  | install source => exact absurd rfl (other source)
  | manager =>
    refine Keeps.bind configured_repeats
      (Calm.read configured_repeats (fun _ s => s.installed) fun _ _ => rfl).keeps fun found => ?_
    cases found <;> exact Keeps.pure configured_repeats _
  | config | installManager | uninstallManager | hasManager | role =>
    intro w s r ran
    obtain rfl := Except.ok.inj ran
    rfl

/-- Other commands leave the configuration alone. -/
theorem System.Performed.config {c d : System ρ κ} {command : Command κ ε α}
    (performed : Performed w command c d) (other : command.installs? = none) :
    d.world.config = c.world.config := by
  have operated {op : Operation} {r : Ran ρ Unit} (ran : op.perform w c.world = .ok r)
      (shared : ∀ inner, op = .shared inner → Keeps Configured (inner.perform : Action ρ _)) :
      r.world.config = c.world.config :=
    configured_pervades.operate (fun inner _ => config_of_does inner.perform_does) shared ran
  cases performed with
  | installed same ran =>
    subst same
    cases other
  | @operated op _ same ran =>
    subst same
    refine operated ran ?_
    rintro inner rfl
    by_cases installs : ∃ source, inner = .install source
    · obtain ⟨source, rfl⟩ := installs
      -- a source that cannot be read is refused
      have unread : ∃ e, source.read = .error e := by
        cases found : source.read with
        | error e => exact ⟨e, rfl⟩
        | ok config => simp [Command.installs?, found, Except.toOption] at other
      obtain ⟨e, unread⟩ := unread
      simp only [Script.SharedOp.perform, unread]
      exact Keeps.pure configured_repeats _
    · exact inner.configured fun source same => installs ⟨source, same⟩
  | unusable => rfl
  | failed moves turns ran =>
    refine operated ran ?_
    rintro inner rfl
    rcases turns with same | same <;> cases same
  | stepped moves step other => exact configured_pervades.step_of_ne step other fun _ _ _ _ => rfl

theorem Command.installs_eq_some {command : Command κ ε α} {config : ContextConfig}
    (attempted : command.installs? = some config) : command = .install config ∨
      ∃ source, command = .operate (.shared (.install source)) ∧ source.read = .ok config := by
  unfold installs? at attempted
  split at attempted
  · cases attempted
    exact .inl rfl
  · next source =>
    refine .inr ⟨source, rfl, ?_⟩
    cases found : source.read with
    | error e =>
      rw [found] at attempted
      cases attempted
    | ok read =>
      rw [found] at attempted
      cases attempted
      rfl
  · cases attempted

/-- A command that attempts to install a configuration does so or is rejected. -/
theorem System.perform_configures {c d : System ρ κ} {command : Command κ ε α}
    {response : Fate (Response κ ε α)} (ran : c.perform w command = .ok (response, d)) :
    Turn.Configures c.world ⟨w, command, response, d.world⟩ := by
  refine ⟨fun config attempted => ?_, (performed ran).config⟩
  rcases Ambient.install_run config w c.world with ⟨valid, installed⟩ | ⟨e, invalid, rejected⟩
  · refine .inl ⟨valid, ?_⟩
    rcases Command.installs_eq_some attempted with rfl | ⟨source, rfl, read⟩
    · simp only [perform, installed] at ran
      cases ran
      exact ⟨rfl, _, rfl, rfl⟩
    · simp only [perform, Operation.respond, Script.SharedOp.perform, read, bind_assoc,
        bind_of_returned installed] at ran
      cases ran
      exact ⟨rfl, _, rfl, rfl⟩
  · refine .inr ⟨e, invalid, ?_⟩
    rcases Command.installs_eq_some attempted with rfl | ⟨source, rfl, read⟩
    · simp only [perform, rejected] at ran
      cases ran
      exact ⟨rfl, _, rfl, rfl⟩
    · simp only [perform, Operation.respond, Script.SharedOp.perform, read, bind_assoc,
        bind_of_returned rejected] at ran
      cases ran
      exact ⟨rfl, _, rfl, rfl⟩

/-! ## Which mode was bound last -/

/-- What an operation leaves as the bound branch mode, if it sets it. -/
def Script.SlotOp.setsMode? : SlotOp → Option (Option BranchMode)
  | .bindMode m => some (some m)
  | .unbindMode | .clear => some none
  | .bind _ | .bindText _ | .unbind | .current | .isCurrent _ | .restore _ | .inTransaction
  | .assertOutside | .mode | .bindGlobalLock | .unbindGlobalLock | .requiresGlobalLock
  | .setTimeout _ | .timeout | .slot => none

theorem Script.SlotOp.leaves_mode (op : SlotOp) (slot : Slot) :
    (op.leaves slot).mode = op.setsMode?.getD slot.mode := by
  cases op with
  | bind text | assertOutside =>
    simp only [leaves, apply]
    split <;> rfl
  | _ => rfl

/-- What a turn leaves as the bound branch mode of `v`, if it sets it. -/
def Turn.setsMode? (v : Worker) (turn : Turn ρ κ ε α) : Option (Option BranchMode) :=
  match turn.command with
  | .operate (.slot op) => if turn.worker = v then op.setsMode? else none
  | _ => none

/-- What the last of the operations on `v` that set the branch mode left bound. -/
def lastMode (v : Worker) (turns : List (Turn ρ κ ε α)) : Option BranchMode :=
  System.lastSet (Turn.setsMode? v) none turns

theorem Turn.setsMode?_eq (v : Worker) (turn : Turn ρ κ ε α) :
    turn.setsMode? v = (turn.operation? v).bind Script.SlotOp.setsMode? := by
  obtain ⟨u, command, response, t⟩ := turn
  cases command with
  | operate op =>
    cases op with
    | slot op =>
      show (if u = v then op.setsMode? else none) =
        (if u = v then some op else none).bind Script.SlotOp.setsMode?
      split <;> rfl
    | _ => rfl
  | _ => rfl

/-- A turn leaves on every worker the branch mode that it sets there, or else the one that was
bound. -/
theorem System.Performed.mode {c d : System ρ κ} {command : Command κ ε α}
    (performed : Performed w command c d) (response : Fate (Response κ ε α)) (hasSlot : v.hasSlot) :
    (d.world.slot v).mode =
      (Turn.setsMode? v ⟨w, command, response, d.world⟩).getD (c.world.slot v).mode := by
  have kept := congrArg Slot.mode (performed.entries response hasSlot)
  rw [Turn.setsMode?_eq, ← Turn.read_leaves Script.SlotOp.leaves_mode]
  exact kept

/-! ## Every turn -/

/-- The installed configuration is valid, and the branch mode of every worker is the one that was
bound last. -/
structure ModesKept (turns : List (Turn ρ κ ε α)) (s : World ρ) : Prop where
  valid : s.config.validate = .ok ()
  bound : ∀ v, v.hasSlot → (s.slot v).mode = lastMode v turns

theorem ModesKept.perform {past : List (Turn ρ κ ε α)} {c d : System ρ κ}
    {command : Command κ ε α} {response : Fate (Response κ ε α)} (kept : ModesKept past c.world)
    (ran : c.perform w command = .ok (response, d)) :
    ModesKept (past ++ [⟨w, command, response, d.world⟩]) d.world := by
  have configures := System.perform_configures ran
  constructor
  · cases attempted : command.installs? with
    | none =>
      have same : d.world.config = c.world.config := configures.otherwise attempted
      rw [same]
      exact kept.valid
    | some config =>
      rcases configures.attempt config attempted with ⟨valid, installed, -⟩ | ⟨e, -, same, -⟩
      · have installed : d.world.config = config := installed
        rw [installed]
        exact valid
      · have same : d.world = c.world := same
        rw [same]
        exact kept.valid
  · intro v hasSlot
    rw [lastMode, System.lastSet_append, ← lastMode, ← kept.bound v hasSlot]
    exact (System.performed ran).mode response hasSlot

theorem Ambient.modeInForce_eq_some {config : ContextConfig} {slot : Slot} {m : BranchMode}
    (valid : config.validate = .ok ()) (special : m = .tryConfirmCancel ∨ m = .saga) :
    modeInForce config slot = some m ↔ slot.xid ≠ none ∧ slot.mode = some m := by
  unfold modeInForce
  -- without a bound mode the default is in force, which is never one of the two
  cases slot.xid with
  | none => simp
  | some x =>
    cases slot.mode with
    | some bound => simp
    | none =>
      rcases ContextConfig.validate_eq_ok.1 valid with none | automatic | xa
      · rcases special with rfl | rfl <;> simp [none]
      · rcases special with rfl | rfl <;> simp [automatic]
      · rcases special with rfl | rfl <;> simp [xa]

/-- What can be observed of the branch modes in `t`, after these turns. -/
structure ModesObserved (turns : List (Turn ρ κ ε α)) (t : World ρ) : Prop where
  default : t.config.defaultMode = none ∨ t.config.defaultMode = some .automatic ∨
    t.config.defaultMode = some .xa
  inForce : ∀ v, ∃ m, Ambient.mode v t = .ok ⟨.returned m, t⟩ ∧ (m = none ↔ t.bound v = none)
  special : ∀ v m, m = .tryConfirmCancel ∨ m = .saga → Ambient.runsIn m v t =
    .ok ⟨.returned (decide (t.bound v ≠ none ∧ lastMode v turns = some m)), t⟩

theorem ModesKept.observed {turns : List (Turn ρ κ ε α)} (kept : ModesKept turns t) :
    ModesObserved turns t := by
  refine ⟨ContextConfig.validate_eq_ok.1 kept.valid, fun v => ?_, fun v m special => ?_⟩
  · refine ⟨_, Ambient.mode_run v t, ?_⟩
    unfold Ambient.modeInForce World.bound
    cases (t.slot v).xid <;> simp
  · rw [Ambient.runsIn_run]
    congr 3
    rw [decide_eq_decide, Ambient.modeInForce_eq_some kept.valid special]
    by_cases hasSlot : v.hasSlot
    · rw [kept.bound v hasSlot, World.bound]
    · simp [slot_of_not_hasSlot hasSlot, World.bound]

namespace System

/-- At every point of a run that starts with a valid configuration and without bound branch modes:
the default mode is absent, `automatic` or `xa`; a mode is in force exactly where a transaction is
bound; and it is `tryConfirmCancel` or `saga` exactly where besides the last operation on the worker
that set the branch mode bound this one. Every attempt to install a configuration is accepted and
returns the previous one, or it is rejected and changes nothing. -/
theorem special_modes_only_where_bound (c : System ρ κ) (client : Client κ ε α)
    (valid : c.world.config.validate = .ok ()) (unbound : ∀ v, (c.world.slot v).mode = none) :
    (∀ turns, turns <+: (c.serve client).turns →
      ModesObserved turns (worldAfter c.world turns)) ∧
    ∀ turns turn, turns ++ [turn] <+: (c.serve client).turns →
      turn.Configures (worldAfter c.world turns) := by
  constructor
  · intro turns taken
    have start : ModesKept ([] : List (Turn ρ κ ε α)) c.world := ⟨valid, fun v _ => unbound v⟩
    have kept := serve_invariant (fun _ _ _ _ _ _ kept ran => kept.perform ran) client start taken
    exact ModesKept.observed kept
  · intro turns turn taken
    exact serve_turn (fun _ _ _ _ _ ran => perform_configures ran) client taken

/-- A configuration with a saga as its default is rejected and the next one is accepted; then a
branch mode is bound, and a transaction. -/
theorem special_modes_only_where_bound_of_install :
    ∃ (c : System Unit Unit) (client : Client Unit Unit Unit) (turn : Turn Unit Unit Unit Unit),
      c.world.config.validate = .ok () ∧ (∀ v, (c.world.slot v).mode = none) ∧
      (c.serve client).turns.map Turn.response =
        [.returned (.installed (.error (.illegalDefaultMode .saga))),
          .returned (.installed (.ok {})), .returned (.reply (.mode none)),
          .returned (.reply .nothing)] ∧
      ModesObserved (c.serve client).turns (worldAfter c.world (c.serve client).turns) ∧
      Ambient.runsIn .tryConfirmCancel .main (c.serve client).last.world =
        .ok ⟨.returned true, (c.serve client).last.world⟩ ∧
      turn ∈ (c.serve client).turns ∧ turn.Configures c.world := by
  let c : System Unit Unit := { world := { rest := () } }
  let client : Client Unit Unit Unit :=
    .ask .main (.install { defaultMode := some .saga }) fun _ =>
      .ask .main (.install { defaultMode := some .xa }) fun _ =>
        .ask .main (.operate (.slot (.bindMode .tryConfirmCancel))) fun _ =>
          .ask .main (.operate (.slot (.restore (some Manager.firstXid)))) fun _ => .stop
  have unbound (v : Worker) : (c.world.slot v).mode = none := by
    unfold World.slot
    split <;> rfl
  obtain ⟨observed, configures⟩ := special_modes_only_where_bound c client rfl unbound
  have observed := observed _ (List.prefix_refl _)
  refine ⟨c, client, _, rfl, unbound, rfl, observed, ?_, List.mem_cons_self,
    configures [] _ ⟨_, rfl⟩⟩
  rw [serve_last, observed.special .main .tryConfirmCancel (.inl rfl)]
  rfl

end System
end AmbientTx
