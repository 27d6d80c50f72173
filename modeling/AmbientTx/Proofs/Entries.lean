import AmbientTx.Proofs.Marks
import AmbientTx.Proofs.Sessions

/-! # Only transactions travel

Scopes, jobs, tasks and calls move the bound transaction from worker to worker, and nothing else:
the branch mode, the global lock flag and the timeout of a worker are its own (`Slot.entries`). All
that the library does around a body leaves them alone (`World.Framed`), so the body starts with those
that its worker had, and those that it leaves are there at the end.

Hence what one worker has there is of no concern to the others: two runs that differ in the entries
of a worker that does not read them are the same everywhere else.
-/

namespace AmbientTx

variable {ρ κ α β ε ι σ : Type} {w : Worker} {s t u : World ρ} {R : Effect ρ}

open World AmbientTx.Action

/-! ## Code around bodies -/

namespace Action

/-- Whatever the bodies are (`c`), a run of `x` does `R`, and then perhaps it runs one of them and
does `R` again. Whether it runs one, which one and from where does not depend on the bodies; if it
runs none, nor does anything else. -/
def Around (R : Effect ρ) (bodies : σ → ι → Action ρ β) (x : σ → Action ρ α) : Prop :=
  ∀ w s,
    (∃ result, (∀ c, x c w s = result) ∧ ∀ r, result = .ok r → R w s r.world) ∨
    ∃ i t, R w s t ∧
      ∀ c r, x c w s = .ok r → ∃ q, bodies c i w t = .ok q ∧ R w q.world r.world

namespace Around

variable {γ : Type} {bodies : σ → ι → Action ρ β} {x : σ → Action ρ α} {y : Action ρ α}

/-- Code without a body. -/
theorem of_keeps (h : Keeps R y) : Around R bodies fun _ => y :=
  fun w s => .inl ⟨y w s, fun _ => rfl, fun _ ran => h ran⟩

theorem body (rep : Repeats R) (i : ι) : Around R bodies fun c => bodies c i :=
  fun w s => .inr ⟨i, s, rep.refl w s, fun _ r ran => ⟨r, ran, rep.refl w r.world⟩⟩

/-- Before the body. -/
theorem after {f : α → σ → Action ρ γ} (rep : Repeats R) (hy : Keeps R y)
    (hf : ∀ a, Around R bodies (f a)) : Around R bodies fun c => y >>= fun a => f a c := by
  intro w s
  rcases ran : y w s with halt | ⟨a | p, t⟩
  · refine .inl ⟨.error halt, fun c => ?_, fun r same => nomatch same⟩
    exact (bind_run y _ w s).trans (by rw [ran])
  · rcases hf a w t with ⟨result, same, kept⟩ | ⟨i, u, before, inside⟩
    · refine .inl ⟨result, fun c => ?_, fun r ended => rep.trans (hy ran) (kept r ended)⟩
      exact (bind_of_returned ran _).trans (same c)
    · refine .inr ⟨i, u, rep.trans (hy ran) before, fun c r ended => inside c r ?_⟩
      exact (bind_of_returned ran _).symm.trans ended
  · refine .inl ⟨_, fun c => bind_of_unwound ran _, fun r same => ?_⟩
    obtain rfl := Except.ok.inj same
    exact hy ran

/-- After the body. -/
theorem before {f : α → Action ρ γ} (rep : Repeats R) (hx : Around R bodies x)
    (hf : ∀ a, Keeps R (f a)) : Around R bodies fun c => x c >>= f := by
  have ends {w : Worker} {s t : World ρ} {x : Action ρ α} {q : Ran ρ γ} (ran : (x >>= f) w s = .ok q)
      (kept : ∀ r, x w s = .ok r → R w t r.world) : R w t q.world := by
    rcases bind_eq_ok.1 ran with ⟨a, u, first, second⟩ | ⟨p, u, first, rfl⟩
    · exact rep.trans (kept _ first) (hf a second)
    · exact kept _ first
  intro w s
  rcases hx w s with ⟨result, same, kept⟩ | ⟨i, t, first, inside⟩
  · -- the run of `x` is the same for all bodies, so it stands for them all
    let y : Action ρ α := fun _ _ => result
    exact .inl ⟨(y >>= f) w s, fun c => bind_congr_left (same c) f, fun r ran => ends ran kept⟩
  · refine .inr ⟨i, t, first, fun c r ran => ?_⟩
    obtain ⟨q, body⟩ : ∃ q, bodies c i w t = .ok q := by
      rcases bind_eq_ok.1 ran with ⟨a, u, ended, -⟩ | ⟨p, u, ended, -⟩
      all_goals
        obtain ⟨q, body, -⟩ := inside c _ ended
        exact ⟨q, body⟩
    refine ⟨q, body, ends ran fun r' ended => ?_⟩
    obtain ⟨q', body', kept⟩ := inside c r' ended
    cases body.symm.trans body'
    exact kept

theorem attempt (h : Around R bodies x) : Around R bodies fun c => (x c).attempt := by
  intro w s
  rcases h w s with ⟨result, same, kept⟩ | ⟨i, t, first, inside⟩
  · let y : Action ρ α := fun _ _ => result
    refine .inl ⟨y.attempt w s, fun c => attempt_congr (same c), fun r ran => ?_⟩
    obtain ⟨q, ended, rfl⟩ := attempt_eq_ok.1 ran
    exact kept q ended
  · refine .inr ⟨i, t, first, fun c r ran => ?_⟩
    obtain ⟨q, ended, rfl⟩ := attempt_eq_ok.1 ran
    exact inside c q ended

/-- A hook around a body. -/
theorem hook {η : Type} (rep : Repeats R) {h : Hook ρ η} {body : σ → Action ρ (α × Fate γ)}
    (resume : ∀ state, Keeps R (h.resume state)) (suspend : ∀ state, Keeps R (h.suspend state))
    (around : Around R bodies body) (state : η) (idle : α) :
    Around R bodies fun c => h.around state idle (body c) := by
  refine after rep (resume state) fun resumed => ?_
  obtain ⟨active, ⟨⟩ | p⟩ := resumed
  · refine before rep around fun ended => ?_
    refine Keeps.bind rep ?_ fun _ => Keeps.pure rep _
    exact Keeps.bind rep (suspend active) fun _ =>
      Keeps.bind rep (Keeps.settle rep _ _) fun _ => Keeps.pure rep _
  · exact of_keeps (Keeps.pure rep _)

end Around
end Action

/-- The library has the effect `R` before and after the bodies that it runs, and no other. -/
structure World.Surrounds (R : Effect ρ) : Prop where
  within : ∀ {α : Type} (scope : Scope),
    Around R (fun body (_ : Unit) => body) fun body : Action ρ α => scope.within body
  guarding : ∀ {α : Type} (scope : Scope),
    Around R (fun body (_ : Unit) => body) fun body : Action ρ α => Hook.scope.guarding scope body
  job : ∀ {κ α : Type} (job : Job κ),
    Around R (fun run (_ : Unit) => run job.body) fun run : κ → Action ρ α => job.call run
  execute : ∀ {ε α : Type} (template : Template) (info : CallInfo),
    Around R (fun business (_ : Unit) => business) fun business : Action ρ (Except ε α) =>
      template.execute info business
  poll : ∀ {κ α : Type} (task : Task κ),
    Around R (fun run => run) fun run : κ → Action ρ (κ × Fate (Progress α)) => task.poll run
  drop : ∀ {κ : Type} (task : Task κ), Keeps R task.drop
  carry : ∀ {κ : Type} (scope : Scope) (task : Task κ), Keeps R (task.carry scope)

namespace World.Pervades

theorem aroundGuarding (h : Pervades R) (scope : Scope) {bodies : σ → ι → Action ρ β}
    {body : σ → Action ρ α} (inside : Around R bodies body) :
    Around R bodies fun c => Hook.scope.guarding scope (body c) := by
  refine Around.before h.repeats ?_ fun _ => Keeps.pure h.repeats _
  apply Around.hook h.repeats h.scopeResume h.scopeSuspend
  exact Around.before h.repeats inside.attempt fun _ => Keeps.pure h.repeats _

theorem aroundCalled (h : Pervades R) (part : Part) (carrier : Carrier) (business : Task κ)
    {bodies : σ → ι → Action ρ β} {poll : σ → Action ρ (Polled κ α)}
    (polled : Around R bodies poll) :
    Around R bodies fun c => Task.pollCalled part carrier business (poll c) :=
  Around.before h.repeats (Around.hook h.repeats h.resume h.suspend polled carrier business)
    fun _ => h.afterBusiness part _ _

theorem aroundPoll (h : Pervades R) (task : Task κ) :
    Around R (fun run => run) fun run : κ → Action ρ (κ × Fate (Progress α)) => task.poll run := by
  induction task with
  | plain future =>
    exact Around.before h.repeats (Around.body h.repeats future) fun _ => Keeps.pure h.repeats _
  | carried carrier inner ih =>
    exact Around.before h.repeats (Around.hook h.repeats h.resume h.suspend ih carrier inner)
      fun _ => Keeps.pure h.repeats _
  | fresh template info business ih =>
    refine Around.after h.repeats (Keeps.attempt (h.start template info)) fun outcome => ?_
    obtain (e | part) | p := outcome
    · exact Around.of_keeps (h.endWith _ (h.drop business))
    · exact Around.after h.repeats (h.create _) fun carrier => h.aroundCalled part carrier _ ih
    · exact Around.of_keeps (h.endWith _ (h.drop business))
  | called part carrier business ih => exact h.aroundCalled part carrier business ih
  | ended => exact Around.of_keeps (Keeps.pure h.repeats _)

/-- An effect of all pieces of the library is one around bodies. -/
theorem surrounds (h : Pervades R) : Surrounds R where
  within scope := by
    refine Around.after h.repeats (h.activate scope) fun outcome => ?_
    cases outcome with
    | error e => exact Around.of_keeps (Keeps.pure h.repeats _)
    | ok active =>
      refine Around.before h.repeats (Around.body h.repeats ()).attempt fun _ => ?_
      exact Keeps.bind h.repeats (h.scopeRelease active) fun _ => Keeps.pure h.repeats _
  guarding scope := h.aroundGuarding scope (Around.body h.repeats ())
  job job := by
    refine Around.before h.repeats (h.aroundGuarding job.scope (Around.body h.repeats ()))
      fun ended => ?_
    exact Keeps.resume h.repeats ended.2
  execute template info := by
    refine Around.after h.repeats (h.enter template info) fun outcome => ?_
    cases outcome with
    | error e => exact Around.of_keeps (Keeps.pure h.repeats _)
    | ok part =>
      exact Around.before h.repeats (Around.body h.repeats ()).attempt fun fate =>
        h.leave part fate
  poll := h.aroundPoll
  drop := h.drop
  carry scope task := Keeps.bind h.repeats (h.create scope) fun _ => Keeps.pure h.repeats _

end World.Pervades

/-! ## The entries of a slot -/

/-- A slot without the bound transaction: its branch mode, global lock flag and timeout. -/
def Slot.entries (slot : Slot) : Slot :=
  { slot with xid := none }

namespace World

/-- No worker's entries changed. -/
def Framed (_ : Worker) (s t : World ρ) : Prop :=
  ∀ v, (t.slot v).entries = (s.slot v).entries

theorem framed_repeats : Repeats (Framed (ρ := ρ)) where
  refl _ _ _ := rfl
  trans h k v := (k v).trans (h v)

theorem Silent.framed (h : Silent w s t) : Framed w s t := by
  intro v
  rw [h.slot]

/-- An operation on the slot that writes to the bound transaction only. -/
theorem framed_of_does {x : Action ρ α} {reads : ContextConfig → Slot → α} {writes : Slot → Slot}
    {logs : Slot → List Event} (does : Ambient.Does x reads writes logs)
    (same : ∀ slot, (writes slot).entries = slot.entries) : Keeps Framed x := by
  intro w s r ran
  obtain rfl := Except.ok.inj ((does w s).symm.trans ran)
  intro v
  change ((s.mapSlot w writes).slot v).entries = (s.slot v).entries
  by_cases other : v = w
  · subst other
    by_cases hasSlot : v.hasSlot
    · rw [slot_mapSlot_self s hasSlot, same]
    · rw [slot_of_not_hasSlot hasSlot, slot_of_not_hasSlot hasSlot]
  · rw [slot_mapSlot_of_ne s other]

theorem framed_pervades : Pervades (Framed (ρ := ρ)) where
  repeats := framed_repeats
  event _ _ _ _ _ := rfl
  bind x := framed_of_does (Ambient.bind_does x) fun _ => rfl
  unbind := framed_of_does Ambient.unbind_does fun _ => rfl
  launch m request _ _ _ _ ran := (Manager.launch_silent m request ran).framed
  commit m x := (Manager.commit_silent m x).mono Silent.framed
  rollback m x := (Manager.rollback_silent m x).mono Silent.framed
  span _ _ _ _ _ _ := rfl

theorem framed_shares : Shares (Framed (ρ := ρ)) where
  repeats := framed_repeats
  event _ _ _ _ _ := rfl
  config _ _ _ _ := rfl
  installed _ _ _ _ := rfl

end World

/-- Only operations on the slot change entries. -/
theorem Operation.framed (op : Operation) (other : ∀ inner, op ≠ .slot inner) :
    Keeps Framed (op.perform : Action ρ Unit) := by
  apply framed_pervades.operate
  · intro inner same
    exact absurd same (other inner)
  · intro inner _
    exact (framed_shares.perform inner).keeps

/-- The operation that a turn performs on the slot of `v`, if it performs one. -/
def Turn.operation? (v : Worker) (turn : Turn ρ κ ε α) : Option Script.SlotOp :=
  match turn.command with
  | .operate (.slot op) => if turn.worker = v then some op else none
  | _ => none

/-- What a turn makes of the slot of `v`, but for the bound transaction. -/
def Turn.leaves (v : Worker) (turn : Turn ρ κ ε α) (slot : Slot) : Slot :=
  ((turn.operation? v).map fun op => op.leaves slot).getD slot

/-- An entry is what the operation sets, if it sets it. -/
theorem Turn.read_leaves {read : Slot → β} {sets? : Script.SlotOp → Option β}
    (leaves : ∀ op slot, read (Script.SlotOp.leaves op slot) = (sets? op).getD (read slot))
    (v : Worker) (turn : Turn ρ κ ε α) (slot : Slot) :
    read (turn.leaves v slot) = ((turn.operation? v).bind sets?).getD (read slot) := by
  unfold Turn.leaves
  cases turn.operation? v with
  | none => rfl
  | some op => exact leaves op slot

/-- A turn leaves the entries of every worker as the operation on the slot there does, if it is
one. -/
theorem System.Performed.entries {v : Worker} {c d : System ρ κ} {command : Command κ ε α}
    (performed : Performed w command c d) (response : Fate (Response κ ε α)) (hasSlot : v.hasSlot) :
    (d.world.slot v).entries =
      (Turn.leaves v ⟨w, command, response, d.world⟩ (c.world.slot v)).entries := by
  have still (moves : command.moves = true) :
      Turn.leaves v ⟨w, command, response, d.world⟩ (c.world.slot v) = c.world.slot v := by
    cases command with
    | operate op => cases moves
    | _ => rfl
  cases performed with
  | installed same ran =>
    subst same
    exact (framed_shares.install _).keeps ran v
  | @operated op r same ran =>
    subst same
    cases op with
    | slot op =>
      obtain ⟨q, performed, rfl⟩ := map_eq_ok.1 ran
      obtain rfl := Except.ok.inj ((op.perform_does w c.world).symm.trans performed)
      change ((c.world.mapSlot w op.leaves).slot v).entries =
        (((if w = v then some op else none).map fun op => op.leaves (c.world.slot v)).getD
          (c.world.slot v)).entries
      by_cases here : w = v
      · subst here
        rw [slot_mapSlot_self c.world hasSlot, if_pos rfl]
        rfl
      · rw [slot_mapSlot_of_ne c.world (Ne.symm here), if_neg here]
        rfl
    | _ =>
      refine Operation.framed _ ?_ ran v
      intro inner same
      cases same
  | unusable moves => rw [still moves]
  | failed moves turns ran =>
    rw [still moves]
    refine Operation.framed _ ?_ ran v
    rintro inner rfl
    rcases turns with same | same <;> cases same
  | stepped moves step other =>
    rw [still moves]
    exact framed_pervades.step_of_ne step other (fun _ _ _ _ _ => rfl) v

/-! ## Two runs -/

namespace World

/-- The worlds differ in nothing but the entries of `v`. -/
structure SameButEntries (v : Worker) (s t : World ρ) : Prop where
  elsewhere : ∀ w, w ≠ v → t.slots w = s.slots w
  xid : (t.slots v).xid = (s.slots v).xid
  config : t.config = s.config
  installed : t.installed = s.installed
  managers : t.managers = s.managers
  history : t.history = s.history
  spans : t.spans = s.spans
  rest : t.rest = s.rest

namespace SameButEntries

variable {v : Worker}

theorem slot (h : SameButEntries v s t) (other : w ≠ v) : t.slot w = s.slot w := by
  rw [World.slot, h.elsewhere w other, World.slot]

theorem bound (h : SameButEntries v s t) (w : Worker) : t.bound w = s.bound w := by
  by_cases same : w = v
  · subst same
    unfold World.bound World.slot
    split
    · exact h.xid
    · rfl
  · rw [World.bound, h.slot same, World.bound]

theorem record (h : SameButEntries v s t) (w : Worker) (e : Happening) :
    SameButEntries v (s.record w e) (t.record w e) := by
  refine ⟨h.elsewhere, h.xid, h.config, h.installed, h.managers, ?_, h.spans, h.rest⟩
  rw [history_record, history_record, h.history]

theorem mapSlot (h : SameButEntries v s t) (w : Worker) {f : Slot → Slot}
    (unmixed : ∀ a b, a.xid = b.xid → (f a).xid = (f b).xid) :
    SameButEntries v (s.mapSlot w f) (t.mapSlot w f) := by
  unfold World.mapSlot
  split
  · refine ⟨fun u other => ?_, ?_, h.config, h.installed, h.managers, h.history, h.spans, h.rest⟩
    · simp only [h.elsewhere u other]
    · simp only
      split
      · exact unmixed _ _ h.xid
      · exact h.xid
  · exact h

theorem spanned (h : SameButEntries v s t) (more : List Record) {m n : Nat} (spans : n = m) :
    SameButEntries v { s with history := s.history ++ more, spans := m }
      { t with history := t.history ++ more, spans := n } :=
  ⟨h.elsewhere, h.xid, h.config, h.installed, h.managers, by simp only [h.history], spans, h.rest⟩

/-- Worlds that differ in the entries of one worker are kept so by all that the library does, on
this worker and on the others. -/
theorem mirrors (v w : Worker) : Mirrors w (SameButEntries (ρ := ρ) v) Eq where
  bound h := h.bound w
  defaultMode h := by rw [h.config]
  defaultTimeout h := by rw [h.config]
  installed h := h.installed
  managers h := h.managers
  event e _ _ h := h.record w (.event e)
  call call _ _ h := h.record w (.call call)
  setManager m a _ _ h :=
    ⟨h.elsewhere, h.xid, h.config, h.installed, by simp only [setManager, h.managers], h.history,
      h.spans, h.rest⟩
  install m _ _ h :=
    ⟨h.elsewhere, h.xid, h.config, rfl, h.managers, h.history, h.spans, h.rest⟩
  write f unmixed _ _ h := h.mapSlot w unmixed
  create captured s t h := by
    have same : Span.fresh? t captured = Span.fresh? s captured := by
      unfold Span.fresh?
      rw [h.config, h.spans]
    rw [Span.create_eq, Span.create_eq, same, h.spans]
    exact .returned rfl (h.spanned _ rfl)
  mark phase a _ same s t h := by
    subst same
    rw [Span.mark_eq, Span.mark_eq]
    exact .returned rfl (h.spanned _ h.spans)

theorem tells (v : Worker) : Tells (SameButEntries (ρ := ρ) v) where
  config h := h.config
  configure _ _ _ h :=
    ⟨h.elsewhere, h.xid, rfl, h.installed, h.managers, h.history, h.spans, h.rest⟩

end SameButEntries
end World

namespace System

/-- Whatever runs a body, on whichever worker, leaves the entries of all workers alone before and
after it, and so does every step that is no operation on the slot. If two runs start with other
entries of a worker that does not read them, then everything else is the same in both: what any
client is told on any worker, the slots of the other workers, and the history with all calls to
managers. -/
theorem only_transactions_travel :
    Surrounds (Framed (ρ := ρ)) ∧
    (∀ op : Operation, (∀ inner, op ≠ .slot inner) → Keeps Framed (op.perform : Action ρ Unit)) ∧
    (∀ (w : Worker) (mark : Mark) (c d : System ρ κ), Step w mark c d → mark ≠ .operates →
      Framed w c.world d.world) ∧
    ∀ (v : Worker) (c : System ρ κ) (s : World ρ) (client : Client κ ε α),
      SameButEntries v c.world s →
      client.Along (fun c w command => w = v → command.readsEntries c w = false) c →
      (c.serve client).Like (SameButEntries v) Eq (serve { c with world := s } client) := by
  refine ⟨framed_pervades.surrounds, Operation.framed, ?_, ?_⟩
  · intro w mark c d step other
    exact framed_pervades.step_of_ne step other fun _ _ _ _ _ => rfl
  · intro v c s client worlds unread
    apply serve_like (SameButEntries.mirrors v)
    · exact Like.of_world (fun _ => rfl) worlds
    · refine unread.mono fun c w command unread => ⟨fun reads s t h => ?_, fun _ =>
        SameButEntries.tells v⟩
      refine h.slot fun same => ?_
      rw [unread same] at reads
      cases reads

/-- The worker that makes a task has other entries in the second run. The worker that polls the task
finds the same branch mode in force, and launches with the same timeout. -/
theorem only_transactions_travel_of_carried :
    (∃ c d : System Unit Unit, Step .main (.begins (.guarded ⟨none, some none⟩)) c d ∧
      Framed .main c.world d.world) ∧
    Keeps Framed ((Operation.activate .empty).perform : Action Unit Unit) ∧
    ∃ (c : System Unit Unit) (s : World Unit) (client : Client Unit Unit Unit),
      SameButEntries .main c.world s ∧ (s.slot .main).entries ≠ (c.world.slot .main).entries ∧
      client.Along (fun c w command => w = .main → command.readsEntries c w = false) c ∧
      (c.serve client).turns.map Turn.response = [.returned .done, .returned (.inside ()),
        .returned (.reply (.modeInForce (some .automatic) false false)),
        .returned (.reply (.xid (some Manager.firstXid))),
        .returned (.called (.ok (.launched ⟨"tm", Manager.firstXid⟩)))] ∧
      (c.serve client).Like (SameButEntries .main) Eq (serve { c with world := s } client) := by
  have all := @only_transactions_travel Unit Unit Unit Unit
  refine ⟨?_, ?_, ?_⟩
  · have ran : Scope.empty.activate .main ({ rest := () } : World Unit) =
        .ok ⟨.returned (.ok ⟨none, some none⟩), { rest := () }⟩ := rfl
    exact ⟨{ world := { rest := () } }, _, .enter ran,
      all.2.2.1 _ _ _ _ (.enter ran) fun same => nomatch same⟩
  · exact all.2.1 _ fun _ same => nomatch same
  · let world (entries : Slot) : World Unit :=
      { slots := fun w => if w = .main then { entries with xid := some Manager.firstXid } else {}
        installed := some "tm"
        rest := () }
    let c : System Unit Unit := { world := world {}, tasks := [.plain ()] }
    let s : World Unit := world { mode := some .saga, globalLock := true, timeout := some 5 }
    let client : Client Unit Unit Unit :=
      .ask .main (.carry 0 (.carrying (some Manager.firstXid))) fun _ =>
        .ask (.fresh 0) (.poll 0) fun _ =>
          .ask (.fresh 0) (.operate (.slot .mode)) fun _ =>
            .ask (.fresh 0) (.operate (.slot .unbind)) fun _ =>
              .ask (.fresh 0) (.call {} {}) fun _ => .stop
    have worlds : SameButEntries .main c.world s := by
      refine ⟨fun w other => ?_, rfl, rfl, rfl, rfl, rfl, rfl, rfl⟩
      simp only [c, s, world, if_neg other]
    have unread :
        client.Along (fun c w command => w = .main → command.readsEntries c w = false) c :=
      ⟨fun _ => rfl, fun _ _ _ => ⟨nofun, fun _ _ _ => ⟨nofun, fun _ _ _ => ⟨nofun, fun _ _ _ =>
        ⟨nofun, fun _ _ _ => trivial⟩⟩⟩⟩⟩
    exact ⟨c, s, client, worlds, by decide, unread, rfl, all.2.2.2 _ c s client worlds unread⟩

end System
end AmbientTx
