import AmbientTx.Proofs.Client
import AmbientTx.Proofs.Mirror

/-! # Sessions side by side

A client that is told the same asks for the same. So if the library cannot tell the worlds of two
systems apart (`World.Mirrors`), a client does not either: it is served with the same responses, and
halts for the same reason, if it does (`System.serve_like`). The client must not ask for what may
differ: for the entries of a slot apart from what is bound (`Command.readsEntries`), and for the
configuration (`Command.asksConfig`).
-/

namespace AmbientTx

variable {ρ κ α β ε : Type} {w : Worker} {s t : World ρ} {A : World ρ → World ρ → Prop}
  {S : Option Span → Option Span → Prop}

open World AmbientTx.Action

/-! ## What a command reads -/

namespace Script

/-- Whether an operation reads more of its slot than what is bound. -/
def SlotOp.readsEntries : SlotOp → Bool
  | .bindMode _ | .unbindMode | .mode | .requiresGlobalLock | .timeout | .slot => true
  | .bind _ | .bindText _ | .unbind | .current | .isCurrent _ | .restore _ | .inTransaction
  | .assertOutside | .bindGlobalLock | .unbindGlobalLock | .setTimeout _ | .clear => false

def SharedOp.asksConfig : SharedOp → Bool
  | .install _ | .config => true
  | .installManager _ | .uninstallManager | .manager | .hasManager | .role => false

end Script

/-- Whether a command reads more of the slot of its worker than what is bound. -/
def Command.readsEntries (c : System ρ κ) (w : Worker) : Command κ ε α → Bool
  | .operate (.slot op) => op.readsEntries
  | .call template info => template.takesTimeout info (c.world.bound w) c.world.installed
  | .poll i =>
    (c.tasks[i]?).any fun task => task.takesTimeout c.world.installed (c.world.bound w)
  | _ => false

/-- Whether a command reads or installs the whole configuration. -/
def Command.asksConfig : Command κ ε α → Bool
  | .operate (.shared op) => op.asksConfig
  | .install _ => true
  | _ => false

/-- `P` holds of every command that is performed, in the system that performs it. -/
def Client.Along (P : System ρ κ → Worker → Command κ ε α → Prop) (c : System ρ κ) :
    Client κ ε α → Prop
  | .stop => True
  | .ask w command next =>
    P c w command ∧ ∀ response d, c.perform w command = .ok (response, d) →
      (next response).Along P d

theorem Client.Along.mono {P Q : System ρ κ → Worker → Command κ ε α → Prop} {c : System ρ κ}
    {client : Client κ ε α} (along : client.Along P c)
    (sub : ∀ c w command, P c w command → Q c w command) : client.Along Q c := by
  induction client generalizing c with
  | stop => trivial
  | ask w command next ih =>
    obtain ⟨now, later⟩ := along
    exact ⟨sub c w command now, fun response d ran => ih response (later response d ran)⟩

/-! ## Operations -/

namespace Script.SlotOp

variable {a b : Slot} {config config' : ContextConfig}

/-- What an operation replies, where only entries differ that it does not read. -/
theorem apply_fst_congr (op : SlotOp) (xid : b.xid = a.xid)
    (mode : config'.defaultMode = config.defaultMode)
    (timeout : config'.defaultTimeout = config.defaultTimeout)
    (entries : op.readsEntries = true → b = a) :
    (op.apply config' b).1 = (op.apply config a).1 := by
  cases reads : op.readsEntries with
  | true =>
    obtain rfl := entries reads
    cases op <;> simp [apply, Ambient.modeInForce, mode, timeout]
  | false =>
    cases op with
    | bind text =>
      simp only [apply, xid]
      split <;> rfl
    | assertOutside =>
      simp only [apply, xid]
      split <;> rfl
    | bindMode | unbindMode | mode | requiresGlobalLock | timeout | slot => cases reads
    | _ => simp only [apply, xid]

theorem logs_congr (op : SlotOp) (xid : b.xid = a.xid)
    (entries : op.readsEntries = true → b = a) : op.logs b = op.logs a := by
  cases reads : op.readsEntries with
  | true => rw [entries reads]
  | false =>
    cases op with
    | restore saved => cases saved <;> simp only [logs, xid]
    | bindMode | unbindMode | mode | requiresGlobalLock | timeout | slot => cases reads
    | _ => simp only [logs, xid]

/-- What an operation leaves bound depends on nothing but what was. -/
theorem leaves_unmixed (op : SlotOp) (xid : a.xid = b.xid) :
    (op.leaves a).xid = (op.leaves b).xid := by
  cases op with
  | bind text =>
    simp only [leaves, apply]
    split
    · rfl
    · exact xid
  | assertOutside =>
    simp only [leaves, apply]
    cases a.xid <;> cases b.xid <;> exact xid
  | _ => simp [leaves, apply, xid]

end Script.SlotOp

namespace World.Mirrors

theorem slotOp (h : Mirrors w A S) (op : Script.SlotOp) (sees : op.readsEntries = true → Sees w A) :
    Coupled w A Eq op.perform op.perform := by
  intro s t worlds
  have xid : (t.slot w).xid = (s.slot w).xid := h.bound worlds
  have entries (reads : op.readsEntries = true) : t.slot w = s.slot w := sees reads worlds
  apply h.does op.perform_does fun a b => op.leaves_unmixed
  · exact worlds
  · exact op.apply_fst_congr xid (h.defaultMode worlds) (h.defaultTimeout worlds) entries
  · exact op.logs_congr xid entries

theorem installConfig (h : Mirrors w A S) (tells : Tells A) (config : ContextConfig) :
    Coupled w A Eq (Ambient.install config) (Ambient.install config) := by
  unfold Ambient.install
  cases config.validate with
  | error e => exact Coupled.pure rfl
  | ok u =>
    have read : Coupled w A Eq Ambient.config Ambient.config :=
      fun _ _ worlds => .returned (tells.config worlds).symm worlds
    have written : Coupled w A Eq (Action.modify fun _ s => { s with config })
        (Action.modify fun _ s => { s with config }) :=
      fun _ _ worlds => .returned rfl (tells.configure config worlds)
    exact (h.log _).bind_eq fun _ => read.bind_eq fun _ => written.bind_eq fun _ => Coupled.pure rfl

theorem sharedOp (h : Mirrors w A S) (op : Script.SharedOp)
    (tells : op.asksConfig = true → Tells A) : Coupled w A Eq op.perform op.perform := by
  have readInstalled : Coupled w A Eq Manager.installed Manager.installed :=
    fun _ _ worlds => .returned (h.installed worlds).symm worlds
  have writeInstalled (m : Option ManagerName) :
      Coupled w A Eq (Action.modify fun _ s => { s with installed := m })
        (Action.modify fun _ s => { s with installed := m }) :=
    fun _ _ worlds => .returned rfl (h.install m worlds)
  cases op with
  | install source =>
    simp only [Script.SharedOp.perform]
    cases source.read with
    | error e => exact Coupled.pure rfl
    | ok config =>
      refine (h.installConfig (tells rfl) config).bind_eq fun outcome => ?_
      cases outcome <;> exact Coupled.pure rfl
  | config =>
    have read : Coupled w A Eq Ambient.config Ambient.config :=
      fun _ _ worlds => .returned ((tells rfl).config worlds).symm worlds
    exact read.bind_eq fun _ => Coupled.pure rfl
  | installManager m =>
    refine Coupled.bind_eq ?_ fun _ => Coupled.pure rfl
    exact (h.log _).bind_eq fun _ => readInstalled.bind_eq fun _ =>
      (writeInstalled (some m)).bind_eq fun _ => Coupled.pure rfl
  | uninstallManager =>
    refine Coupled.bind_eq ?_ fun _ => Coupled.pure rfl
    exact readInstalled.bind_eq fun _ => (writeInstalled none).bind_eq fun _ => Coupled.pure rfl
  | manager =>
    refine readInstalled.bind_eq fun found => ?_
    cases found <;> exact Coupled.pure rfl
  | hasManager => exact readInstalled.bind_eq fun _ => Coupled.pure rfl
  | role =>
    refine Coupled.bind_eq ?_ fun _ => Coupled.pure rfl
    exact h.current.bind_eq fun bound => Coupled.pure rfl

theorem respond (h : Mirrors w A S) (op : Operation)
    (sees : ∀ inner, op = .slot inner → inner.readsEntries = true → Sees w A)
    (tells : ∀ inner, op = .shared inner → inner.asksConfig = true → Tells A) :
    Coupled w A Eq (op.respond : Action ρ (Response κ ε α)) op.respond := by
  cases op with
  | slot op => exact (h.slotOp op (sees op rfl)).bind_eq fun _ => Coupled.pure rfl
  | shared op => exact (h.sharedOp op (tells op rfl)).bind_eq fun _ => Coupled.pure rfl
  | activate scope => exact (h.activate scope).bind_eq fun _ => Coupled.pure rfl
  | deactivate scope => exact (h.deactivate scope).bind_eq fun _ => Coupled.pure rfl
  | resume scope => exact (h.scopeResume scope).bind_eq fun _ => Coupled.pure rfl
  | suspend scope => exact (h.scopeSuspend scope).bind_eq fun _ => Coupled.pure rfl

end World.Mirrors

/-! ## Systems -/

/-- The same stay, but for spans. -/
inductive Stay.Like (S : Option Span → Option Span → Prop) : Stay → Stay → Prop where
  | guarded (scope : Scope) : Like S (.guarded scope) (.guarded scope)
  | call (part : Part) : Like S (.call part) (.call part)
  | poll {layers layers' : List Layer} (alike : List.Forall₂ (Layer.Like S) layers layers') :
      Like S (.poll layers) (.poll layers')

/-- The same stays of the same workers, but for spans. -/
abbrev Stay.AllLike (S : Option Span → Option Span → Prop) :
    List (Worker × Stay) → List (Worker × Stay) → Prop :=
  List.Forall₂ fun e f => f.1 = e.1 ∧ e.2.Like S f.2

/-- Two systems whose worlds `A` relates, with the same stays and tasks but for spans. -/
structure System.Like (A : World ρ → World ρ → Prop) (S : Option Span → Option Span → Prop)
    (c d : System ρ κ) : Prop where
  world : A c.world d.world
  stays : Stay.AllLike S c.stays d.stays
  tasks : List.Forall₂ (Task.Like S) c.tasks d.tasks

/-- A system is like itself in a world that `A` relates to its own. -/
theorem System.Like.of_world {c : System ρ κ} (same : ∀ a, S a a) (worlds : A c.world s) :
    c.Like A S { c with world := s } := by
  have carriers (c : Carrier) : c.Like S c := ⟨rfl, same c.span⟩
  have layers (layers : List Layer) : List.Forall₂ (Layer.Like S) layers layers :=
    List.forall₂_same.2 fun layer _ => ⟨carriers layer.carrier, rfl⟩
  have stays (stay : Stay) : stay.Like S stay := by
    cases stay with
    | guarded scope => exact .guarded scope
    | call part => exact .call part
    | poll all => exact .poll (layers all)
  have tasks (task : Task κ) : task.Like S task := by
    induction task with
    | plain future => exact .plain future
    | carried carrier inner ih => exact .carried (carriers carrier) ih
    | fresh template info business ih => exact .fresh template info ih
    | called part carrier business ih => exact .called part (carriers carrier) ih
    | ended => exact .ended
  exact ⟨worlds, List.forall₂_same.2 fun e _ => ⟨rfl, stays e.2⟩,
    List.forall₂_same.2 fun task _ => tasks task⟩

/-- Two systems answer a command in the same way. -/
inductive System.Responds (A : World ρ → World ρ → Prop) (S : Option Span → Option Span → Prop) :
    Except Halt (Fate (Response κ ε α) × System ρ κ) →
      Except Halt (Fate (Response κ ε α) × System ρ κ) → Prop where
  | halted (h : Halt) : Responds A S (.error h) (.error h)
  | responded (response : Fate (Response κ ε α)) {c d : System ρ κ} (alike : c.Like A S d) :
      Responds A S (.ok (response, c)) (.ok (response, d))

namespace System

theorem responds_of_paired {B : β → β → Prop} {r q : Except Halt (Ran ρ β)}
    {f g : Ran ρ β → Fate (Response κ ε α) × System ρ κ} (ran : Paired A B r q)
    (next : ∀ fate fate' s t, Fate.Like B fate fate' → A s t →
      Responds A S (.ok (f ⟨fate, s⟩)) (.ok (g ⟨fate', t⟩))) :
    Responds A S (r.map f) (q.map g) := by
  cases ran with
  | halted h => exact .halted h
  | ended fates worlds => exact next _ _ _ _ fates worlds

/-- Both runs returned the same value or unwound with the same panic. -/
theorem responds_of_eq {r q : Except Halt (Ran ρ β)}
    {f g : Ran ρ β → Fate (Response κ ε α) × System ρ κ} (ran : Paired A Eq r q)
    (next : ∀ fate s t, A s t → Responds A S (.ok (f ⟨fate, s⟩)) (.ok (g ⟨fate, t⟩))) :
    Responds A S (r.map f) (q.map g) := by
  refine responds_of_paired ran ?_
  intro fate fate' s t fates worlds
  obtain rfl := fates.eq
  exact next fate' s t worlds

/-- The innermost stay is the same in both, and so are the others. -/
theorem popped_cases {stays stays' : List (Worker × Stay)} (alike : Stay.AllLike S stays stays') :
    (popped w stays = none ∧ popped w stays' = none) ∨
      ∃ stay stay' rest rest', popped w stays = some (stay, rest) ∧
        popped w stays' = some (stay', rest') ∧ stay.Like S stay' ∧ Stay.AllLike S rest rest' := by
  induction alike with
  | nil => exact .inl ⟨rfl, rfl⟩
  | @cons e f below below' top alike ih =>
    obtain ⟨_, stay⟩ := e
    obtain ⟨v, stay'⟩ := f
    obtain ⟨rfl, same⟩ := top
    unfold popped
    by_cases mine : v = w
    · rw [if_pos mine, if_pos mine]
      exact .inr ⟨stay, stay', below, below', rfl, rfl, same, alike⟩
    · rw [if_neg mine, if_neg mine]
      rcases ih with ⟨none, none'⟩ | ⟨inner, inner', rest, rest', found, found', inners, rests⟩
      · rw [none, none']
        exact .inl ⟨rfl, rfl⟩
      · rw [found, found']
        exact .inr ⟨inner, inner', _, _, rfl, rfl, inners, .cons ⟨rfl, same⟩ rests⟩

/-- The task at a place is the same in both, and so are the others. -/
theorem picked_cases {tasks tasks' : List (Task κ)}
    (alike : List.Forall₂ (Task.Like S) tasks tasks') (i : Nat) :
    (tasks[i]? = none ∧ tasks'[i]? = none) ∨
      ∃ task task', tasks[i]? = some task ∧ tasks'[i]? = some task' ∧ task.Like S task' ∧
        List.Forall₂ (Task.Like S) (tasks.eraseIdx i) (tasks'.eraseIdx i) := by
  induction alike generalizing i with
  | nil => exact .inl ⟨rfl, rfl⟩
  | cons head alike ih =>
    cases i with
    | zero => exact .inr ⟨_, _, rfl, rfl, head, alike⟩
    | succ i =>
      rcases ih i with none | ⟨task, task', found, found', same, rests⟩
      · exact .inl none
      · exact .inr ⟨task, task', found, found', same, .cons head rests⟩

variable {c d : System ρ κ}

theorem Like.staying (alike : c.Like A S d) (w : Worker) {stay stay' : Stay}
    (stays : stay.Like S stay') (worlds : A s t) :
    (c.staying w stay s).Like A S (d.staying w stay' t) :=
  ⟨worlds, .cons ⟨rfl, stays⟩ alike.stays, alike.tasks⟩

end System

/-- A poll got to the same future through the same layers, or it ended in the same way before. -/
abbrev Task.Approach.Like (S : Option Span → Option Span → Prop) :
    List Layer × κ ⊕ Polled κ α → List Layer × κ ⊕ Polled κ α → Prop :=
  Sum.LiftRel (fun p q => List.Forall₂ (Layer.Like S) p.1 q.1 ∧ q.2 = p.2) (Polled.Like S)

theorem World.Mirrors.approach (h : Mirrors w A S) {a b : Task κ} (tasks : a.Like S b)
    (worlds : A s t)
    (sees : Sees w A ∨ w.hasSlot ∧ a.takesTimeout s.installed (s.bound w) = false) :
    Paired A (Task.Approach.Like (α := α) S) (a.approach w s) (b.approach w t) := by
  refine (h.reach tasks worlds sees).bind ?_
  rintro ⟨layers, reached⟩ ⟨layers', reached'⟩ s' t' - ⟨alike, ways⟩ worlds
  cases ways with
  | inside future => exact .returned (.inl ⟨alike, rfl⟩) worlds
  | ended polled =>
    exact (h.closeAll alike polled).bind (fun _ _ polled => Coupled.pure (.inr polled)) worlds

namespace System

variable {c d : System ρ κ}

namespace Responds

/-- Nothing happens in both, or both release the scope of their innermost guard. -/
theorem of_guarded (alike : c.Like A S d) (w : Worker)
    {f g : Scope → List (Worker × Stay) → Except Halt (Fate (Response κ ε α) × System ρ κ)}
    (next : ∀ scope rest rest', Stay.AllLike S rest rest' →
      Responds A S (f scope rest) (g scope rest')) :
    Responds A S
      (match popped w c.stays with
        | some (.guarded scope, stays) => f scope stays
        | _ => .ok (.returned .unusable, c))
      (match popped w d.stays with
        | some (.guarded scope, stays) => g scope stays
        | _ => .ok (.returned .unusable, d)) := by
  rcases popped_cases (w := w) alike.stays with
    ⟨none, none'⟩ | ⟨stay, stay', rest, rest', found, found', same, rests⟩
  · rw [none, none']
    exact .responded _ alike
  · rw [found, found']
    cases same with
    | guarded scope => exact next scope rest rest' rests
    | call | poll => exact .responded _ alike

/-- Nothing happens in both, or both go on with tasks that are alike. -/
theorem of_picked (alike : c.Like A S d) (i : Nat)
    {f g : Task κ → Except Halt (Fate (Response κ ε α) × System ρ κ)}
    (next : ∀ task task', c.tasks[i]? = some task → task.Like S task' →
      List.Forall₂ (Task.Like S) (c.tasks.eraseIdx i) (d.tasks.eraseIdx i) →
      Responds A S (f task) (g task')) :
    Responds A S
      (match c.tasks[i]? with
        | some task => f task
        | none => .ok (.returned .unusable, c))
      (match d.tasks[i]? with
        | some task => g task
        | none => .ok (.returned .unusable, d)) := by
  rcases picked_cases alike.tasks i with
    ⟨none, none'⟩ | ⟨task, task', found, found', tasks, rests⟩
  · rw [none, none']
    exact .responded _ alike
  · rw [found, found']
    exact next task task' found tasks rests

theorem operate (h : Mirrors w A S) (alike : c.Like A S d) (op : Operation)
    (sees : (Command.operate op : Command κ ε α).readsEntries c w = true → Sees w A)
    (tells : (Command.operate op : Command κ ε α).asksConfig = true → Tells A) :
    Responds A S (c.perform w (.operate op : Command κ ε α)) (d.perform w (.operate op)) := by
  refine responds_of_eq (h.respond op ?_ ?_ alike.world) fun fate s t worlds => ?_
  · rintro inner rfl
    exact sees
  · rintro inner rfl
    exact tells
  · exact .responded _ ⟨worlds, alike.stays, alike.tasks⟩

theorem enter (h : Mirrors w A S) (alike : c.Like A S d) (scope : Scope) :
    Responds A S (c.perform w (.enter scope : Command κ ε α)) (d.perform w (.enter scope)) := by
  refine responds_of_eq (h.activate scope alike.world) fun fate s t worlds => ?_
  rcases fate with (e | active) | p
  · exact .responded _ ⟨worlds, alike.stays, alike.tasks⟩
  · exact .responded _ (alike.staying w (.guarded active) worlds)
  · exact .responded _ ⟨worlds, alike.stays, alike.tasks⟩

theorem resume (h : Mirrors w A S) (alike : c.Like A S d) (scope : Scope) :
    Responds A S (c.perform w (.resume scope : Command κ ε α)) (d.perform w (.resume scope)) := by
  refine responds_of_eq (h.scopeResume scope alike.world) fun fate s t worlds => ?_
  rcases fate with ⟨active, ⟨⟩ | p⟩ | p
  · exact .responded _ (alike.staying w (.guarded active) worlds)
  · exact .responded _ ⟨worlds, alike.stays, alike.tasks⟩
  · exact .responded _ ⟨worlds, alike.stays, alike.tasks⟩

theorem release (h : Mirrors w A S) (alike : c.Like A S d) :
    Responds A S (c.perform w (.release : Command κ ε α)) (d.perform w .release) := by
  refine of_guarded alike w fun scope rest rest' rests => ?_
  refine responds_of_eq (h.scopeRelease scope alike.world) fun fate s t worlds => ?_
  exact .responded _ ⟨worlds, rests, alike.tasks⟩

theorem suspend (h : Mirrors w A S) (alike : c.Like A S d) :
    Responds A S (c.perform w (.suspend : Command κ ε α)) (d.perform w .suspend) := by
  refine of_guarded alike w fun scope rest rest' rests => ?_
  refine responds_of_eq (h.scopeSuspend scope alike.world) fun fate s t worlds => ?_
  exact .responded _ ⟨worlds, rests, alike.tasks⟩

theorem call (h : Mirrors w A S) (alike : c.Like A S d) (template : Template) (info : CallInfo)
    (sees : (Command.call template info : Command κ ε α).readsEntries c w = true → Sees w A) :
    Responds A S (c.perform w (.call template info : Command κ ε α))
      (d.perform w (.call template info)) := by
  refine responds_of_eq (h.enter template info alike.world sees) fun fate s t worlds => ?_
  rcases fate with (e | part) | p
  · exact .responded _ ⟨worlds, alike.stays, alike.tasks⟩
  · exact .responded _ (alike.staying w (.call part) worlds)
  · exact .responded _ ⟨worlds, alike.stays, alike.tasks⟩

theorem leave (h : Mirrors w A S) (alike : c.Like A S d) (fate : Fate (Except ε α)) :
    Responds A S (c.perform w (.leave fate : Command κ ε α)) (d.perform w (.leave fate)) := by
  simp only [perform]
  rcases popped_cases (w := w) alike.stays with
    ⟨none, none'⟩ | ⟨stay, stay', rest, rest', found, found', same, rests⟩
  · rw [none, none']
    exact .responded _ alike
  · rw [found, found']
    cases same with
    | call part =>
      refine responds_of_eq (h.leave part fate alike.world) fun fate s t worlds => ?_
      exact .responded _ ⟨worlds, rests, alike.tasks⟩
    | guarded | poll => exact .responded _ alike

theorem carry (h : Mirrors w A S) (alike : c.Like A S d) (i : Nat) (scope : Scope) :
    Responds A S (c.perform w (.carry i scope : Command κ ε α)) (d.perform w (.carry i scope)) := by
  refine of_picked alike i fun task task' found tasks rests => ?_
  have carried : Coupled w A (Task.Like S) (task.carry scope) (task'.carry scope) :=
    (h.createCarrier scope).bind fun _ _ made => Coupled.pure (.carried made tasks)
  refine responds_of_paired (carried alike.world) ?_
  rintro _ _ s t (made | p) worlds
  · exact .responded _ ⟨worlds, alike.stays, .cons made rests⟩
  · exact .responded _ ⟨worlds, alike.stays, rests⟩

theorem wrap (alike : c.Like A S d) (i : Nat) (template : Template) (info : CallInfo) :
    Responds A S (c.perform w (.wrap i template info : Command κ ε α))
      (d.perform w (.wrap i template info)) := by
  refine of_picked alike i fun task task' found tasks rests => ?_
  exact .responded _ ⟨alike.world, alike.stays, .cons (.fresh template info tasks) rests⟩

theorem poll (h : Mirrors w A S) (alike : c.Like A S d) (i : Nat)
    (sees : (Command.poll i : Command κ ε α).readsEntries c w = true → Sees w A) :
    Responds A S (c.perform w (.poll i : Command κ ε α)) (d.perform w (.poll i)) := by
  refine of_picked alike i fun task task' found tasks rests => ?_
  refine responds_of_paired (h.approach tasks alike.world ?_) ?_
  -- a worker without a slot reads an empty one in both worlds
  · by_cases hasSlot : w.hasSlot
    · cases takes : task.takesTimeout c.world.installed (c.world.bound w) with
      | false => exact .inr ⟨hasSlot, rfl⟩
      | true => exact .inl (sees (by rw [Command.readsEntries, found]; exact takes))
    · exact .inl fun s t _ => by
        rw [slot_of_not_hasSlot hasSlot, slot_of_not_hasSlot hasSlot]
  · rintro _ _ s t (values | p) worlds
    · cases values with
      | @inl p q inside =>
        obtain ⟨layers, _⟩ := p
        obtain ⟨layers', future⟩ := q
        obtain ⟨layers, rfl⟩ := inside
        exact .responded _ ⟨worlds, .cons ⟨rfl, .poll layers⟩ alike.stays, rests⟩
      | @inr p q polled =>
        obtain ⟨left, _⟩ := p
        obtain ⟨left', fate⟩ := q
        obtain ⟨left, rfl⟩ := polled
        exact .responded _ ⟨worlds, alike.stays, .cons left rests⟩
    · exact .responded _ ⟨worlds, alike.stays, rests⟩

theorem finish (h : Mirrors w A S) (alike : c.Like A S d) (future : κ)
    (fate : Fate (Progress α)) :
    Responds A S (c.perform w (.finish future fate : Command κ ε α))
      (d.perform w (.finish future fate)) := by
  simp only [perform]
  rcases popped_cases (w := w) alike.stays with
    ⟨none, none'⟩ | ⟨stay, stay', rest, rest', found, found', same, rests⟩
  · rw [none, none']
    exact .responded _ alike
  · rw [found, found']
    cases same with
    | poll layers =>
      have polled : Polled.Like (α := α) S (.plain future, fate) (.plain future, fate) :=
        ⟨.plain future, rfl⟩
      refine responds_of_paired (h.closeAll layers polled alike.world) ?_
      rintro _ _ s t (⟨tasks, same⟩ | p) worlds
      · simp only [same]
        exact .responded _ ⟨worlds, rests, .cons tasks alike.tasks⟩
      · exact .responded _ ⟨worlds, rests, alike.tasks⟩
    | guarded | call => exact .responded _ alike

theorem drop (h : Mirrors w A S) (alike : c.Like A S d) (i : Nat) :
    Responds A S (c.perform w (.drop i : Command κ ε α)) (d.perform w (.drop i)) := by
  refine of_picked alike i fun task task' found tasks rests => ?_
  refine responds_of_eq (h.drop tasks alike.world) fun fate s t worlds => ?_
  exact .responded _ ⟨worlds, alike.stays, rests⟩

end Responds

/-- Two systems that are alike answer every command in the same way. -/
theorem perform_like (h : Mirrors w A S) (alike : c.Like A S d) (command : Command κ ε α)
    (sees : command.readsEntries c w = true → Sees w A)
    (tells : command.asksConfig = true → Tells A) :
    Responds A S (c.perform w command) (d.perform w command) := by
  cases command with
  | operate op => exact .operate h alike op sees tells
  | install config =>
    refine responds_of_eq (h.installConfig (tells rfl) config alike.world) fun fate s t worlds => ?_
    exact .responded _ ⟨worlds, alike.stays, alike.tasks⟩
  | answers m v => exact .responded _ ⟨h.setManager m v alike.world, alike.stays, alike.tasks⟩
  | enter scope => exact .enter h alike scope
  | resume scope => exact .resume h alike scope
  | release => exact .release h alike
  | suspend => exact .suspend h alike
  | call template info => exact .call h alike template info sees
  | leave fate => exact .leave h alike fate
  | future future =>
    exact .responded _ ⟨alike.world, alike.stays, .cons (.plain future) alike.tasks⟩
  | carry i scope => exact .carry h alike i scope
  | wrap i template info => exact .wrap alike i template info
  | poll i => exact .poll h alike i sees
  | finish future fate => exact .finish h alike future fate
  | drop i => exact .drop h alike i

end System

/-! ## Sessions -/

/-- The same turn, in worlds that `A` relates. -/
structure Turn.Like (A : World ρ → World ρ → Prop) (a b : Turn ρ κ ε α) : Prop where
  worker : b.worker = a.worker
  command : b.command = a.command
  response : b.response = a.response
  world : A a.world b.world

/-- The same session: the client asked for the same, was told the same, and stopped or was halted at
the same point. -/
structure Session.Like (A : World ρ → World ρ → Prop) (S : Option Span → Option Span → Prop)
    (a b : Session ρ κ ε α) : Prop where
  turns : List.Forall₂ (Turn.Like A) a.turns b.turns
  last : a.last.Like A S b.last
  halt : b.halt = a.halt

/-- A client is served in the same way by systems that are alike, as long as it asks for nothing
that may differ. -/
theorem System.serve_like (mirrors : ∀ w, Mirrors w A S) (client : Client κ ε α) {c d : System ρ κ}
    (alike : c.Like A S d)
    (along : client.Along (fun c w command => (command.readsEntries c w = true → Sees w A) ∧
      (command.asksConfig = true → Tells A)) c) :
    (c.serve client).Like A S (d.serve client) := by
  induction client generalizing c d with
  | stop => exact ⟨.nil, alike, rfl⟩
  | ask w command next ih =>
    obtain ⟨⟨sees, tells⟩, later⟩ := along
    have answered := perform_like (mirrors w) alike command sees tells
    unfold serve
    generalize ran : c.perform w command = r at answered
    generalize d.perform w command = q at answered
    cases answered with
    | halted h => exact ⟨.nil, alike, rfl⟩
    | responded response alike =>
      obtain ⟨turns, last, halt⟩ := ih response alike (later response _ ran)
      exact ⟨.cons ⟨rfl, rfl, rfl, alike.world⟩ turns, last, halt⟩

end AmbientTx
