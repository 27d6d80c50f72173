import AmbientTx.Proofs.Effect
import AmbientTx.Proofs.Operation

/-! # What is recorded about spans

A history tells which spans were created, entered and exited, in which order (`marks`). Most of what
the library does marks no span (`World.Quiet`). A carrier marks its own span, and this before and
after anything else that is recorded while the carrier is resumed or suspended.
-/

namespace AmbientTx

variable {ρ κ α β ε : Type} {v w : Worker} {n m k : Nat} {s t : World ρ}

open World AmbientTx.Action

/-! ## Enters and exits -/

/-- What happened to a span, if a record is about one. -/
def Record.mark? (r : Record) : Option (SpanPhase × Span) :=
  match r.happening with
  | .span phase span => some (phase, span)
  | .event _ | .call _ => none

/-- What happened to spans, in order. -/
def marks (records : List Record) : List (SpanPhase × Span) :=
  records.filterMap Record.mark?

theorem marks_append (rs qs : List Record) : marks (rs ++ qs) = marks rs ++ marks qs :=
  List.filterMap_append

/-- The spans that were created. -/
def created (ms : List (SpanPhase × Span)) : List Span :=
  ms.filterMap fun m => if m.1 = .created then some m.2 else none

theorem created_append (ms ns : List (SpanPhase × Span)) :
    created (ms ++ ns) = created ms ++ created ns :=
  List.filterMap_append

/-- The enters and the exits. -/
def turns (ms : List (SpanPhase × Span)) : List (SpanPhase × Span) :=
  ms.filter fun m => m.1 ≠ .created

theorem turns_append (ms ns : List (SpanPhase × Span)) :
    turns (ms ++ ns) = turns ms ++ turns ns :=
  List.filter_append ..

/-- Spans are entered one after the other. -/
def entering (spans : List Span) : List (SpanPhase × Span) :=
  spans.map (Prod.mk .entered)

/-- Spans that were entered one after the other are exited. -/
def exiting (spans : List Span) : List (SpanPhase × Span) :=
  spans.reverse.map (Prod.mk .exited)

theorem entering_append (as bs : List Span) :
    entering (as ++ bs) = entering as ++ entering bs :=
  List.map_append

theorem exiting_append (as bs : List Span) : exiting (as ++ bs) = exiting bs ++ exiting as := by
  simp [exiting]

@[simp] theorem turns_entering (spans : List Span) : turns (entering spans) = entering spans := by
  simp [turns, entering, List.filter_eq_self]

@[simp] theorem turns_exiting (spans : List Span) : turns (exiting spans) = exiting spans := by
  simp [turns, exiting, List.filter_eq_self]

@[simp] theorem created_entering (spans : List Span) : created (entering spans) = [] := by
  refine List.filterMap_eq_nil_iff.2 fun m mem => ?_
  obtain ⟨span, -, rfl⟩ := List.mem_map.1 mem
  rfl

@[simp] theorem created_exiting (spans : List Span) : created (exiting spans) = [] := by
  refine List.filterMap_eq_nil_iff.2 fun m mem => ?_
  obtain ⟨span, -, rfl⟩ := List.mem_map.1 mem
  rfl

theorem mem_of_mem_turns {spans : List Span} {m : SpanPhase × Span}
    (mem : m ∈ entering spans ++ exiting spans) : m.2 ∈ spans := by
  rcases List.mem_append.1 mem with mem | mem
  · obtain ⟨span, found, rfl⟩ := List.mem_map.1 mem
    exact found
  · obtain ⟨span, found, rfl⟩ := List.mem_map.1 mem
    exact List.mem_reverse.1 found

/-- Reads enters and exits with a stack of the spans that are open. Only the innermost of them may
be exited. -/
def follow : List Span → List (SpanPhase × Span) → Option (List Span)
  | opened, [] => some opened
  | opened, (.created, _) :: rest => follow opened rest
  | opened, (.entered, span) :: rest => follow (span :: opened) rest
  | top :: opened, (.exited, span) :: rest => if span = top then follow opened rest else none
  | [], (.exited, _) :: _ => none

theorem follow_append {opened opened' : List Span} {ms : List (SpanPhase × Span)}
    (h : follow opened ms = some opened') (ns : List (SpanPhase × Span)) :
    follow opened (ms ++ ns) = follow opened' ns := by
  induction opened, ms using follow.induct with
  | case1 opened =>
    cases h
    rfl
  | case2 opened span rest ih => exact ih h
  | case3 opened span rest ih => exact ih h
  | case4 top opened rest ih =>
    simp only [follow, if_pos] at h
    simpa [follow] using ih h
  | case5 top opened span rest different => simp [follow, different] at h
  | case6 span rest => simp [follow] at h

/-- Creating spans opens none. -/
theorem follow_turns (opened : List Span) (ms : List (SpanPhase × Span)) :
    follow opened (turns ms) = follow opened ms := by
  induction opened, ms using follow.induct with
  | case1 opened => rfl
  | case2 opened span rest ih => simpa [turns, follow] using ih
  | case3 opened span rest ih => simpa [turns, follow] using ih
  | case4 top opened rest ih => simpa [turns, follow] using ih
  | case5 top opened span rest different => simp [turns, follow, different]
  | case6 span rest => simp [turns, follow]

theorem follow_entering (opened spans : List Span) :
    follow opened (entering spans) = some (spans.reverse ++ opened) := by
  induction spans generalizing opened with
  | nil => rfl
  | cons span rest ih => simpa [entering, follow] using ih (span :: opened)

theorem follow_exiting (opened spans : List Span) :
    follow (spans.reverse ++ opened) (exiting spans) = some opened := by
  unfold exiting
  generalize spans.reverse = below
  induction below with
  | nil => rfl
  | cons span rest ih => simpa [follow] using ih

/-! ## What marks no span -/

/-- Records of a worker, none of which is about a span. -/
def Unmarked (w : Worker) (records : List Record) : Prop :=
  ∀ r ∈ records, r.worker = w ∧ r.mark? = none

theorem Unmarked.append {rs qs : List Record} (h : Unmarked w rs) (k : Unmarked w qs) :
    Unmarked w (rs ++ qs) := by
  intro r mem
  rcases List.mem_append.1 mem with mem | mem
  · exact h r mem
  · exact k r mem

theorem Unmarked.marks {rs : List Record} (h : Unmarked w rs) : marks rs = [] :=
  List.filterMap_eq_nil_iff.2 fun r mem => (h r mem).2

namespace World

/-- Only what is not about spans was recorded. -/
def Quiet (w : Worker) (s t : World ρ) : Prop :=
  ∃ new, t.history = s.history ++ new ∧ Unmarked w new ∧ t.spans = s.spans

theorem quiet_repeats : Repeats (Quiet (ρ := ρ)) where
  refl w s := ⟨[], by simp [Unmarked]⟩
  trans := by
    rintro w s t u ⟨new, hist, unmarked, spans⟩ ⟨new', hist', unmarked', spans'⟩
    refine ⟨new ++ new', ?_, unmarked.append unmarked', spans'.trans spans⟩
    rw [hist', hist, List.append_assoc]

theorem quiet_record (w : Worker) (s : World ρ) {h : Happening}
    (unmarked : (Record.mk w h).mark? = none) : Quiet w s (s.record w h) :=
  ⟨[⟨w, h⟩], rfl, by simp [Unmarked, unmarked], rfl⟩

theorem quiet_mapSlot (w : Worker) (s : World ρ) (f : Slot → Slot) : Quiet w s (s.mapSlot w f) := by
  refine ⟨[], by simp, by simp [Unmarked], ?_⟩
  unfold mapSlot
  split <;> rfl

theorem quiet_logAll (w : Worker) (s : World ρ) (events : List Event) :
    Quiet w s (s.logAll w events) := by
  refine ⟨_, rfl, ?_, rfl⟩
  intro r mem
  obtain ⟨e, -, rfl⟩ := List.mem_map.1 mem
  exact ⟨rfl, rfl⟩

end World

theorem Ambient.Does.quiet {x : Action ρ α} {reads : ContextConfig → Slot → α}
    {writes : Slot → Slot} {logs : Slot → List Event} (h : Ambient.Does x reads writes logs) :
    Calm Quiet x :=
  fun w s => ⟨_, _, h w s, quiet_repeats.trans (quiet_mapSlot w s writes) (quiet_logAll w _ _)⟩

theorem World.quiet_underlies : Underlies (Quiet (ρ := ρ)) where
  repeats := quiet_repeats
  event w s e _ := quiet_record w s rfl
  bind x := (Ambient.bind_does x).quiet.keeps
  unbind := Ambient.unbind_does.quiet.keeps
  launch m request w s r _ ran := by
    obtain rfl := Except.ok.inj ((Manager.settle_run _ w _).symm.trans ran)
    exact quiet_record w (s.setManager m _) rfl
  commit m x := by
    intro w s r ran
    obtain rfl := Except.ok.inj ((Manager.settle_run _ w _).symm.trans ran)
    exact quiet_record w (s.setManager m _) rfl
  rollback m x := by
    intro w s r ran
    obtain rfl := Except.ok.inj ((Manager.settle_run _ w _).symm.trans ran)
    exact quiet_record w (s.setManager m _) rfl

theorem World.quiet_shares : Shares (Quiet (ρ := ρ)) where
  repeats := quiet_repeats
  event w s e _ := quiet_record w s rfl
  config _ _ _ := ⟨[], by simp [Unmarked]⟩
  installed _ _ _ := ⟨[], by simp [Unmarked]⟩

theorem Operation.perform_quiet (op : Operation) : Keeps Quiet (op.perform : Action ρ Unit) := by
  have h := quiet_underlies (ρ := ρ)
  have done {γ : Type} {x : Action ρ γ} (hx : Keeps Quiet x) :
      Keeps Quiet (do let _ ← x : Action ρ Unit) :=
    Keeps.bind h.repeats hx fun _ => Keeps.pure h.repeats ()
  cases op with
  | slot op => exact done op.perform_does.quiet.keeps
  | shared op => exact done (quiet_shares.perform op).keeps
  | activate scope => exact done (h.activate scope)
  | deactivate scope => exact done (h.deactivate scope)
  | resume scope => exact done (h.scopeResume scope)
  | suspend scope => exact done (h.scopeSuspend scope)

/-! ## Carriers -/

/-- The span of a carrier that is created now. -/
def Span.fresh? (s : World ρ) (captured : Option Xid) : Option Span :=
  if s.config.traceSpans then captured.map (Span.mk s.spans) else none

theorem Span.fresh_eq_some (s : World ρ) (captured : Option Xid) (x : Xid) :
    (∃ id, fresh? s captured = some ⟨id, x⟩) ↔ captured = some x ∧ s.config.traceSpans = true := by
  unfold fresh?
  cases captured <;> cases s.config.traceSpans <;> simp

/-- What a worker records about a span, if there is one. -/
def Span.records (w : Worker) (phase : SpanPhase) (span : Option Span) : List Record :=
  span.toList.map fun span => ⟨w, .span phase span⟩

theorem Span.marks_records (w : Worker) (phase : SpanPhase) (span : Option Span) :
    marks (records w phase span) = span.toList.map (Prod.mk phase) := by
  cases span <;> rfl

theorem Span.worker_of_records {phase : SpanPhase} {span : Option Span} :
    ∀ r ∈ records w phase span, r.worker = w := by
  intro r mem
  obtain ⟨span, -, rfl⟩ := List.mem_map.1 mem
  rfl

theorem Span.mark_eq (phase : SpanPhase) (span : Option Span) (w : Worker) (s : World ρ) :
    mark phase span w s =
      .ok ⟨.returned (), { s with history := s.history ++ records w phase span }⟩ := by
  cases span with
  | none => simp [mark, records, pure_run]
  | some span => rfl

theorem Span.create_eq (captured : Option Xid) (w : Worker) (s : World ρ) :
    create? captured w s = .ok ⟨.returned (fresh? s captured), { s with
      history := s.history ++ records w .created (fresh? s captured)
      spans := s.spans + (fresh? s captured).toList.length }⟩ := by
  cases captured with
  | none => simp [create?, fresh?, records, pure_run]
  | some x =>
    have read : (Ambient.config : Action ρ ContextConfig) w s = .ok ⟨.returned s.config, s⟩ := rfl
    rw [create?, bind_of_returned read]
    cases traced : s.config.traceSpans with
    | false => simp [fresh?, records, pure_run, traced]
    | true =>
      simp only [fresh?, traced]
      rfl

namespace Carrier

/-- What a carrier has as long as it lives. -/
def tag (c : Carrier) : Option Xid × Option Span :=
  (c.scope.captured, c.span)

theorem create_eq (scope : Scope) (w : Worker) (s : World ρ) :
    ∃ t, create scope w s = .ok ⟨.returned ⟨scope, Span.fresh? s scope.captured⟩, t⟩ ∧
      t.history = s.history ++ Span.records w .created (Span.fresh? s scope.captured) ∧
      t.spans = s.spans + (Span.fresh? s scope.captured).toList.length :=
  ⟨_, bind_of_returned (Span.create_eq scope.captured w s) _, rfl, rfl⟩

/-- A carrier of this scope was created: with one new span, named after what the scope captured, if
it captured something and spans are on just then, and otherwise with none. -/
structure Created (scope : Scope) (w : Worker) (s t : World ρ) (c : Carrier) : Prop where
  carries : c.scope = scope
  history : t.history = s.history ++ Span.records w .created c.span
  span : ∀ x, (∃ id, c.span = some ⟨id, x⟩) ↔
    scope.captured = some x ∧ s.config.traceSpans = true

theorem create_created (scope : Scope) (w : Worker) (s : World ρ) :
    ∃ c t, create scope w s = .ok ⟨.returned c, t⟩ ∧ Created scope w s t c := by
  obtain ⟨t, created, hist, -⟩ := create_eq scope w s
  exact ⟨_, t, created, rfl, hist, Span.fresh_eq_some s scope.captured⟩

/-- Resuming a carrier enters its span first. If its scope is active, the span is exited again. -/
theorem resume_brackets {c : Carrier} {r : Ran ρ (Carrier × Fate Unit)}
    (ran : hook.resume c w s = .ok r) :
    ∃ c' turned before, r.fate = .returned (c', turned) ∧ c'.tag = c.tag ∧ Unmarked w before ∧
      r.world.spans = s.spans ∧
      r.world.history = s.history ++ Span.records w .entered c.span ++ before ++
        match turned with
        | .returned () => []
        | .unwound _ => Span.records w .exited c.span := by
  obtain ⟨⟨captured, saved⟩, span⟩ := c
  simp only [hook, bind_of_returned (Span.mark_eq _ _ _ _)] at ran
  generalize entered : { s with history := s.history ++ Span.records w .entered span } = u at ran
  have hist : u.history = s.history ++ Span.records w .entered span := by rw [← entered]
  have spans : u.spans = s.spans := by rw [← entered]
  cases saved with
  | none =>
    obtain ⟨t, resumed, -, -⟩ := Scope.resume_run captured w u
    obtain ⟨before, grown, unmarked, same⟩ := quiet_underlies.scopeResume _ resumed
    rw [show (⟨captured, none⟩ : Scope) = .carrying captured from rfl,
      bind_of_returned resumed] at ran
    obtain rfl := pure_eq_ok.1 ran
    rw [hist] at grown
    exact ⟨_, _, before, rfl, rfl, unmarked, same.trans spans,
      grown.trans (List.append_nil _).symm⟩
  | some saved =>
    have refused : Hook.scope.resume ⟨captured, some saved⟩ w u =
        .ok ⟨.returned (⟨captured, some saved⟩, .unwound ⟨ScopeError.alreadyActive.message⟩), u⟩ :=
      bind_of_returned (Scope.activate_active rfl w u) _
    rw [bind_of_returned refused] at ran
    simp only [bind_of_returned (Span.mark_eq _ _ _ _)] at ran
    obtain rfl := pure_eq_ok.1 ran
    exact ⟨_, _, [], rfl, rfl, by simp [Unmarked], spans, by simp [hist]⟩

/-- Suspending a scope leaves what it carries. -/
theorem suspend_captured (scope : Scope) (w : Worker) (s : World ρ) :
    ∃ scope' turned t, Hook.scope.suspend scope w s = .ok ⟨.returned (scope', turned), t⟩ ∧
      scope'.captured = scope.captured := by
  obtain ⟨captured, _ | saved⟩ := scope
  · exact ⟨_, _, s, rfl, rfl⟩
  · obtain ⟨t, suspended, -, -⟩ := Scope.suspend_run captured saved w s
    exact ⟨_, _, t, suspended, rfl⟩

/-- Suspending a carrier exits its span last. -/
theorem suspend_brackets {c : Carrier} {r : Ran ρ (Carrier × Fate Unit)}
    (ran : hook.suspend c w s = .ok r) :
    ∃ c' turned after, r.fate = .returned (c', turned) ∧ c'.tag = c.tag ∧ Unmarked w after ∧
      r.world.spans = s.spans ∧
      r.world.history = s.history ++ after ++ Span.records w .exited c.span := by
  obtain ⟨scope', turned, t, suspended, captured⟩ := suspend_captured c.scope w s
  obtain ⟨after, grown, unmarked, spans⟩ := quiet_underlies.scopeSuspend _ suspended
  simp only [hook] at ran
  rw [bind_of_returned suspended] at ran
  simp only [bind_of_returned (Span.mark_eq _ _ _ _)] at ran
  obtain rfl := pure_eq_ok.1 ran
  refine ⟨_, _, after, rfl, ?_, unmarked, spans, ?_⟩
  · simp [tag, captured]
  · exact congrArg (· ++ _) grown

/-- What a poll records that goes through a carrier: the enter first, then what resuming the scope
logs, what the body does, what suspending the scope logs, and the exit last. If resuming the scope
panics, the body is not run. -/
theorem around_brackets {c c' : Carrier} {idle kept : β} {body : Action ρ (β × Fate α)}
    {fate : Fate α}
    (ran : hook.around c idle body w s = .ok ⟨.returned (c', kept, fate), t⟩) :
    c'.tag = c.tag ∧ ∃ before, Unmarked w before ∧
      ((kept = idle ∧ (∃ p, fate = .unwound p) ∧ t.history = s.history ++
          Span.records w .entered c.span ++ before ++ Span.records w .exited c.span) ∨
        ∃ u q ended after, body w u = .ok ⟨.returned (kept, ended), q⟩ ∧ Unmarked w after ∧
          u.history = s.history ++ Span.records w .entered c.span ++ before ∧
          t.history = q.history ++ after ++ Span.records w .exited c.span) := by
  obtain ⟨resumed, u, first, rest⟩ := bind_eq_returned.1 ran
  obtain ⟨active, turned, before, same, tag, unmarked, -, hist⟩ := resume_brackets first
  cases same
  rcases turned with ⟨⟩ | p
  · obtain ⟨⟨_, ended⟩, q, body, rest⟩ := bind_eq_returned.1 rest
    obtain ⟨_, t', finished, rest⟩ := bind_eq_returned.1 rest
    obtain ⟨⟩ := pure_eq_ok.1 rest
    obtain ⟨_, u', suspended, rest⟩ := bind_eq_returned.1 finished
    obtain ⟨_, _, after, same, tag', unmarked', -, hist'⟩ := suspend_brackets suspended
    cases same
    obtain ⟨_, _, joined, rest⟩ := bind_eq_returned.1 rest
    obtain ⟨⟩ := pure_eq_ok.1 rest
    obtain ⟨same, -⟩ := settle_eq_ok joined
    have span : active.span = c.span := congrArg Prod.snd tag
    rw [span] at hist'
    refine ⟨tag'.trans tag, before, unmarked, .inr ⟨u, q, ended, after, body, unmarked', ?_, ?_⟩⟩
    · exact hist.trans (List.append_nil _)
    · exact (congrArg World.history same).trans hist'
  · obtain ⟨⟩ := pure_eq_ok.1 rest
    exact ⟨tag, before, unmarked, .inl ⟨rfl, ⟨p, rfl⟩, hist⟩⟩

end Carrier

/-! ## What an action records about spans -/

/-- Run on `w` when `n` spans were created, an action only adds records of `w` to the history. `Q`
holds of its end, of what happened to spans, and of how many spans are created then. -/
def Action.Records (w : Worker) (n : Nat) (x : Action ρ α)
    (Q : Fate α → List (SpanPhase × Span) → Nat → Prop) : Prop :=
  ∀ ⦃s r⦄, s.spans = n → x w s = .ok r →
    ∃ new, r.world.history = s.history ++ new ∧ (∀ e ∈ new, e.worker = w) ∧
      Q r.fate (marks new) r.world.spans

namespace Action.Records

variable {x : Action ρ α} {f : α → Action ρ β}
  {Q Q' : Fate α → List (SpanPhase × Span) → Nat → Prop}

theorem mono (h : Records w n x Q) (sub : ∀ fate ms m, Q fate ms m → Q' fate ms m) :
    Records w n x Q' := by
  intro s r spans ran
  obtain ⟨new, hist, here, post⟩ := h spans ran
  exact ⟨new, hist, here, sub _ _ _ post⟩

theorem pure {a : α} (h : Q (.returned a) [] n) : Records w n (Pure.pure a : Action ρ α) Q := by
  intro s r spans ran
  obtain rfl := pure_eq_ok.1 ran
  exact ⟨[], by simp, by simp, spans ▸ h⟩

theorem bind {Q : Fate β → List (SpanPhase × Span) → Nat → Prop}
    {M : Fate α → List (SpanPhase × Span) → Nat → Prop} (hx : Records w n x M)
    (hf : ∀ a ms m, M (.returned a) ms m →
      Records w m (f a) fun fate ms' k => Q fate (ms ++ ms') k)
    (hp : ∀ p ms m, M (.unwound p) ms m → Q (.unwound p) ms m) : Records w n (x >>= f) Q := by
  intro s r spans ran
  rcases bind_eq_ok.1 ran with ⟨a, t, first, second⟩ | ⟨p, t, first, rfl⟩
  · obtain ⟨new, hist, here, mid⟩ := hx spans first
    obtain ⟨new', hist', here', post⟩ := hf a _ _ mid rfl second
    refine ⟨new ++ new', ?_, ?_, ?_⟩
    · rw [hist', hist, List.append_assoc]
    · intro e mem
      rcases List.mem_append.1 mem with mem | mem
      · exact here e mem
      · exact here' e mem
    · rwa [marks_append]
  · obtain ⟨new, hist, here, mid⟩ := hx spans first
    exact ⟨new, hist, here, hp p _ _ mid⟩

theorem quiet (h : Keeps Quiet x) : Records w n x fun _ ms m => ms = [] ∧ m = n := by
  intro s r spans ran
  obtain ⟨new, hist, unmarked, same⟩ := h ran
  exact ⟨new, hist, fun e mem => (unmarked e mem).1, unmarked.marks, same.trans spans⟩

/-- What marks no span, and ends in a known way. -/
theorem of_quiet {P : Fate α → Prop} (quiet : Keeps Quiet x)
    (ends : Triple w (fun _ : World ρ => True) x fun fate _ => P fate)
    (h : ∀ fate, P fate → Q fate [] n) : Records w n x Q := by
  intro s r spans ran
  obtain ⟨new, hist, here, none, same⟩ := Records.quiet quiet spans ran
  refine ⟨new, hist, here, ?_⟩
  rw [none, same]
  exact h _ (ends trivial ran)

end Action.Records

/-- Carriers that were created while the number of spans went from `n` to `m`, by what they have: a
span is new, and named after what its carrier captured. -/
structure Makes (n m : Nat) (made : List (Option Xid × Option Span))
    (ms : List (SpanPhase × Span)) : Prop where
  le : n ≤ m
  created : created ms = made.filterMap Prod.snd
  nodup : (AmbientTx.created ms).Nodup
  ids : ∀ span ∈ AmbientTx.created ms, n ≤ span.id ∧ span.id < m
  named : ∀ tag ∈ made, ∀ span, tag.2 = some span → tag.1 = some span.xid

theorem Makes.nil {ms : List (SpanPhase × Span)} (none : AmbientTx.created ms = []) :
    Makes n n [] ms :=
  ⟨Nat.le_refl n, none, by simp [none], by simp [none], by simp⟩

theorem Makes.append {made made' : List (Option Xid × Option Span)}
    {ms ms' : List (SpanPhase × Span)} (h : Makes n m made ms) (h' : Makes m k made' ms') :
    Makes n k (made ++ made') (ms ++ ms') where
  le := Nat.le_trans h.le h'.le
  created := by rw [created_append, List.filterMap_append, h.created, h'.created]
  nodup := by
    rw [created_append, List.nodup_append]
    refine ⟨h.nodup, h'.nodup, ?_⟩
    rintro span mem span' mem' rfl
    have below := (h.ids span mem).2
    have above := (h'.ids span mem').1
    omega
  ids := by
    intro span mem
    rw [created_append] at mem
    have le := h.le
    have le' := h'.le
    rcases List.mem_append.1 mem with mem | mem
    · have := h.ids span mem
      omega
    · have := h'.ids span mem
      omega
  named := by
    intro tag mem
    rcases List.mem_append.1 mem with mem | mem
    · exact h.named tag mem
    · exact h'.named tag mem

namespace Carrier

theorem create_records (scope : Scope) :
    Records w n (create scope : Action ρ Carrier) fun fate ms m =>
      ∃ c, fate = .returned c ∧ turns ms = [] ∧ Makes n m [c.tag] ms := by
  intro s r spans ran
  obtain ⟨t, created, hist, count⟩ := create_eq scope w s
  obtain rfl := Except.ok.inj (created.symm.trans ran)
  refine ⟨_, hist, Span.worker_of_records, _, rfl, ?_⟩
  rw [Span.marks_records]
  simp only [count, spans]
  cases fresh : Span.fresh? s scope.captured with
  | none =>
    refine ⟨rfl, Makes.mk (Nat.le_refl n) rfl (by simp [AmbientTx.created]) ?_ ?_⟩
    · simp [AmbientTx.created]
    · simp [tag]
  | some span =>
    have named : scope.captured = some span.xid ∧ span.id = n := by
      unfold Span.fresh? at fresh
      split at fresh
      · obtain ⟨x, captured, rfl⟩ := Option.map_eq_some_iff.1 fresh
        exact ⟨captured, spans⟩
      · cases fresh
    refine ⟨rfl, Makes.mk (Nat.le_succ n) rfl (by simp [AmbientTx.created]) ?_ ?_⟩
    · simp [AmbientTx.created, named.2]
    · simp [tag, named.1]

theorem resume_records (c : Carrier) :
    Records w n (hook.resume c : Action ρ (Carrier × Fate Unit)) fun fate ms m =>
      m = n ∧ ∃ c' turned, fate = .returned (c', turned) ∧ c'.tag = c.tag ∧
        ms = entering c.span.toList ++ match turned with
          | .returned () => []
          | .unwound _ => exiting c.span.toList := by
  intro s r spans ran
  obtain ⟨c', turned, before, same, tag, unmarked, count, hist⟩ := resume_brackets ran
  have here : ∀ e ∈ before, e.worker = w := fun e mem => (unmarked e mem).1
  simp only [List.append_assoc] at hist
  refine ⟨_, hist, ?_, count.trans spans, c', turned, same, tag, ?_⟩
  · intro e mem
    simp only [List.mem_append] at mem
    rcases mem with mem | mem | mem
    · exact Span.worker_of_records e mem
    · exact here e mem
    · rcases turned with ⟨⟩ | p
      · cases mem
      · exact Span.worker_of_records e mem
  · rw [marks_append, marks_append, unmarked.marks, Span.marks_records, List.nil_append]
    rcases turned with ⟨⟩ | p
    · rfl
    · cases c.span <;> rfl

theorem suspend_records (c : Carrier) :
    Records w n (hook.suspend c : Action ρ (Carrier × Fate Unit)) fun fate ms m =>
      m = n ∧ ∃ c' turned, fate = .returned (c', turned) ∧ c'.tag = c.tag ∧
        ms = exiting c.span.toList := by
  intro s r spans ran
  obtain ⟨c', turned, after, same, tag, unmarked, count, hist⟩ := suspend_brackets ran
  simp only [List.append_assoc] at hist
  refine ⟨_, hist, ?_, count.trans spans, c', turned, same, tag, ?_⟩
  · intro e mem
    rcases List.mem_append.1 mem with mem | mem
    · exact (unmarked e mem).1
    · exact Span.worker_of_records e mem
  · rw [marks_append, unmarked.marks, Span.marks_records]
    cases c.span <;> rfl

theorem finish_records (c : Carrier) (fate : Fate β) :
    Records w n (hook.finish c fate : Action ρ (Carrier × Fate β)) fun fate' ms m =>
      ∀ q, fate' = .returned q → ms = exiting c.span.toList ∧ m = n ∧ q.1.tag = c.tag := by
  refine Records.bind (suspend_records c) ?_ ?_
  · rintro ⟨c', turned⟩ ms m ⟨rfl, _, _, same, tag, rfl⟩
    cases same
    have joined := Keeps.settle (ρ := ρ) quiet_repeats fate turned
    refine Records.bind (Records.quiet joined) ?_ fun _ _ _ _ _ same => nomatch same
    rintro fate ms k ⟨rfl, rfl⟩
    refine Records.pure ?_
    rintro q ⟨⟩
    exact ⟨by simp, rfl, tag⟩
  · rintro p ms m ⟨-, _, _, same, -⟩
    cases same

end Carrier

end AmbientTx
