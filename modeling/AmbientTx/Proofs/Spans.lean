import AmbientTx.Proofs.Marks
import AmbientTx.Proofs.Units

/-! # Spans bracket the polls of propagated work

The span of a carrier is created with it. From then on every poll that goes through the carrier
records one enter before anything else, and one exit after everything else, and nothing but these
polls records anything about the span. So on every worker the enters and exits are well nested: the
spans that were entered and not yet exited are those of the polls in progress.
-/

namespace AmbientTx

variable {ρ κ α β ε : Type} {v w : Worker} {n m k : Nat} {s t : World ρ}

open World AmbientTx.Action

/-! ## The spans of tasks and stays -/

/-- What the carriers of a task have, the outermost first. -/
def Task.tags : Task κ → List (Option Xid × Option Span)
  | .plain _ | .ended => []
  | .carried carrier inner => carrier.tag :: inner.tags
  | .fresh _ _ business => business.tags
  | .called _ carrier business => carrier.tag :: business.tags

/-- What the carriers of layers have. -/
def Layer.tags (layers : List Layer) : List (Option Xid × Option Span) :=
  layers.map fun layer => layer.carrier.tag

/-- The spans of layers, the outermost first. -/
def Layer.spans (layers : List Layer) : List Span :=
  layers.flatMap fun layer => layer.carrier.span.toList

/-- What the carriers of a task have that was not reached. -/
def Reached.tags : Reached κ α → List (Option Xid × Option Span)
  | .inside _ => []
  | .ended polled => polled.1.tags

theorem Layer.exists_tag {layers : List Layer} {span : Span} (mem : span ∈ spans layers) :
    ∃ tag ∈ tags layers, tag.2 = some span := by
  obtain ⟨layer, mem, same⟩ := List.mem_flatMap.1 mem
  exact ⟨_, List.mem_map_of_mem mem, Option.mem_toList.1 same⟩

/-- No carrier is there more often. -/
def Fewer (as bs : List (Option Xid × Option Span)) : Prop :=
  ∀ tag, as.count tag ≤ bs.count tag

theorem Fewer.mem {as bs : List (Option Xid × Option Span)} (h : Fewer as bs)
    {tag : Option Xid × Option Span} (mem : tag ∈ as) : tag ∈ bs :=
  List.count_pos_iff.1 (Nat.lt_of_lt_of_le (List.count_pos_iff.2 mem) (h tag))

namespace Task

theorem endWith_ended (fate : Fate (Progress α)) (dropped : Action ρ Unit) :
    Triple w (fun _ => True) (endWith (κ := κ) fate dropped) fun fate _ =>
      ∀ p, fate = .returned p → p.1 = .ended := by
  intro s r _ ran
  rintro ⟨t, fate'⟩ ended
  obtain ⟨end', u⟩ := r
  subst ended
  obtain ⟨after, t', -, rest⟩ := bind_eq_returned.1 ran
  obtain ⟨joined, u', -, rest⟩ := bind_eq_returned.1 rest
  obtain ⟨⟩ := pure_eq_ok.1 rest
  rfl

/-- What becomes of a task after a poll has no other carriers. -/
theorem settleUnder_tags (part : Option Part) (carrier : Carrier) (polled : Polled κ α) :
    Triple w (fun _ : World ρ => True) (settleUnder part carrier polled) fun fate _ =>
      ∀ p, fate = .returned p → Fewer p.1.tags (carrier.tag :: polled.1.tags) := by
  intro s r _ ran p returned tag
  obtain ⟨fate, t⟩ := r
  subst returned
  cases part with
  | none =>
    obtain ⟨⟩ := pure_eq_ok.1 ran
    exact Nat.le_refl _
  | some part =>
    obtain ⟨business, (_ | outcome) | panic⟩ := polled
    · obtain ⟨⟩ := pure_eq_ok.1 ran
      exact Nat.le_refl _
    · obtain ⟨ended, u, -, rest⟩ := bind_eq_returned.1 ran
      obtain ⟨⟩ := pure_eq_ok.1 rest
      exact Nat.zero_le _
    · have ended : p.1 = .ended := endWith_ended _ _ trivial ran p rfl
      rw [ended]
      exact Nat.zero_le _

theorem settleUnder_records (part : Option Part) (carrier : Carrier) (polled : Polled κ α) :
    Records w n (settleUnder part carrier polled : Action ρ (Polled κ α)) fun fate ms m =>
      ms = [] ∧ m = n ∧
        ∀ p, fate = .returned p → Fewer p.1.tags (carrier.tag :: polled.1.tags) :=
  Records.of_quiet (quiet_underlies.settleUnder part carrier polled)
    (settleUnder_tags part carrier polled) fun _ fewer => ⟨rfl, rfl, fewer⟩

/-- The way in of a poll enters the spans of the layers that it resumes, and exits none of them. If
it leads to the future inside, these layers have all the carriers of the task and those that were
created on the way. If the next carrier panics when it is resumed, its span is entered and exited at
once (`bounced`). -/
def ReachRecords (n : Nat) (tags : List (Option Xid × Option Span)) :
    Fate (List Layer × Reached κ α) → List (SpanPhase × Span) → Nat → Prop
  | .returned (layers, reached), ms, m => ∃ made bounced,
      turns ms = entering (Layer.spans layers ++ bounced) ++ exiting bounced ∧
      (∀ future, reached = .inside future →
        bounced = [] ∧ (Layer.tags layers).Perm (tags ++ made)) ∧
      (∀ span ∈ bounced, ∃ tag ∈ tags ++ made, tag.2 = some span) ∧
      Makes n m made ms ∧ Fewer (Layer.tags layers ++ reached.tags) (tags ++ made)
  | .unwound _, _, _ => True

theorem reachUnder_records (part : Option Part) (carrier : Carrier) (inner : Task κ)
    {reach : Action ρ (List Layer × Reached κ α)}
    (h : Records w n reach (ReachRecords n inner.tags)) :
    Records w n (reachUnder part carrier inner reach)
      (ReachRecords n (carrier.tag :: inner.tags)) := by
  refine Records.bind (Carrier.resume_records carrier) ?_ fun _ _ _ _ => trivial
  rintro ⟨carrier', turned⟩ ms m ⟨rfl, _, _, same, tag, rfl⟩
  cases same
  have span : carrier'.span = carrier.span := congrArg Prod.snd tag
  rcases turned with ⟨⟩ | p
  · refine Records.bind h ?_ fun _ _ _ _ => trivial
    rintro ⟨layers, reached⟩ ms m ⟨made, bounced, word, inside, owned, makes, fewer⟩
    refine Records.pure ⟨made, bounced, ?_, fun future same => ?_, ?_, ?_, ?_⟩
    · simp [turns_append, word, Layer.spans, entering_append, span]
    · obtain ⟨none, perm⟩ := inside future same
      refine ⟨none, ?_⟩
      simpa [Layer.tags, tag] using perm
    · intro span mem
      obtain ⟨tag, mem, same⟩ := owned span mem
      exact ⟨tag, List.mem_cons_of_mem _ mem, same⟩
    · simpa using (Makes.nil (created_entering _)).append makes
    · intro tag'
      have := fewer tag'
      simp only [Layer.tags, List.map_cons, List.cons_append, List.count_cons, tag]
      exact Nat.add_le_add_right this _
  · refine Records.bind (settleUnder_records part carrier' (inner, .unwound p)) ?_
      fun _ _ _ _ => trivial
    rintro polled ms m ⟨rfl, rfl, fewer⟩
    refine Records.pure ⟨[], carrier.span.toList, ?_, fun _ same => (nomatch same), ?_, ?_, ?_⟩
    · simp [turns_append, Layer.spans]
    · intro span mem
      exact ⟨carrier.tag, List.mem_cons_self, Option.mem_toList.1 mem⟩
    · refine Makes.nil ?_
      simp [created_append]
    · intro tag'
      have := fewer polled rfl tag'
      rw [tag] at this
      simpa [Layer.tags, Reached.tags] using this

/-- What ends a poll before its task was reached, and marks no span. -/
theorem reachRecords_of_ended {tags : List (Option Xid × Option Span)}
    {x : Action ρ (Polled κ α)} (quiet : Keeps Quiet x)
    (ends : Triple w (fun _ => True) x fun fate _ => ∀ p, fate = .returned p → p.1 = .ended) :
    Records w n (do return ([], .ended (← x))) (ReachRecords n tags) := by
  refine Records.bind (Records.of_quiet quiet ends fun _ ended => ⟨rfl, rfl, ended⟩)
    (M := fun fate ms m => ms = [] ∧ m = n ∧ ∀ p, fate = .returned p → p.1 = .ended) ?_
    fun _ _ _ _ => trivial
  rintro ⟨t, fate⟩ ms m ⟨rfl, rfl, ended⟩
  obtain rfl : t = .ended := ended _ rfl
  exact Records.pure
    ⟨[], [], rfl, fun _ same => (nomatch same), by simp, Makes.nil rfl, fun _ => Nat.zero_le _⟩

/-- The way in of a poll. -/
theorem reach_records (t : Task κ) :
    Records w n (t.reach : Action ρ (List Layer × Reached κ α)) (ReachRecords n t.tags) := by
  have h := quiet_underlies (ρ := ρ)
  induction t generalizing n with
  | plain future =>
    exact Records.pure
      ⟨[], [], rfl, fun _ _ => ⟨rfl, .nil⟩, by simp, Makes.nil rfl, fun _ => Nat.le_refl _⟩
  | carried carrier inner ih => exact reachUnder_records none carrier inner ih
  | fresh t info business ih =>
    have started := Keeps.attempt (h.start (ε := TaskFailure) t info)
    refine Records.bind (Records.quiet started) ?_ fun _ _ _ _ => trivial
    rintro ((e | part) | p) ms m ⟨rfl, rfl⟩
    · exact reachRecords_of_ended (h.endWith _ (h.drop business)) (endWith_ended _ _)
    · refine Records.bind (Carrier.create_records _) ?_ fun _ _ _ _ => trivial
      rintro carrier ms m ⟨_, same, none, makes⟩
      cases same
      refine Records.mono (reachUnder_records (some part) carrier business ih) ?_
      rintro (⟨layers, reached⟩ | p) ms' k h
      · obtain ⟨made, bounced, word, inside, owned, makes', fewer⟩ := h
        refine ⟨_, bounced, ?_, fun future same => ?_, ?_, makes.append makes', ?_⟩
        · simp [turns_append, word, none]
        · obtain ⟨none, perm⟩ := inside future same
          exact ⟨none, perm.trans List.perm_middle.symm⟩
        · intro span mem
          obtain ⟨tag, mem, same⟩ := owned span mem
          simp only [List.mem_append, List.mem_cons] at mem
          refine ⟨tag, ?_, same⟩
          simp only [tags, List.mem_append, List.mem_cons, List.not_mem_nil, or_false]
          rcases mem with (mem | mem) | mem
          · exact .inr (.inl mem)
          · exact .inl mem
          · exact .inr (.inr mem)
        · intro tag
          have := fewer tag
          simp only [List.count_append, List.count_cons, List.count_nil, tags] at this ⊢
          omega
      · trivial
    · exact reachRecords_of_ended (h.endWith _ (h.drop business)) (endWith_ended _ _)
  | called part carrier business ih => exact reachUnder_records (some part) carrier business ih
  | ended =>
    exact Records.pure
      ⟨[], [], rfl, fun _ same => (nomatch same), by simp, Makes.nil rfl, fun _ => Nat.le_refl _⟩

end Task

/-- The way out of a poll exits the spans of its layers, the innermost first. -/
theorem Layer.closeAll_records (layers : List Layer) (polled : Polled κ α) :
    Records w n (closeAll layers polled : Action ρ (Polled κ α)) fun fate ms m =>
      ∀ p, fate = .returned p →
        ms = exiting (spans layers) ∧ m = n ∧ Fewer p.1.tags (tags layers ++ polled.1.tags) := by
  induction layers with
  | nil =>
    refine Records.pure fun p same => ?_
    cases same
    exact ⟨rfl, rfl, fun _ => Nat.le_refl _⟩
  | cons layer rest ih =>
    refine Records.bind ih ?_ fun _ _ _ _ _ same => nomatch same
    intro inside ms m h
    obtain ⟨rfl, rfl, fewer⟩ := h inside rfl
    -- the innermost layers come first, then this carrier is suspended, and its task settles
    refine Records.bind (Carrier.finish_records layer.carrier inside.2) ?_
      fun _ _ _ _ _ same => nomatch same
    intro suspended ms k h
    obtain ⟨rfl, rfl, tag⟩ := h suspended rfl
    refine Records.mono (Task.settleUnder_records layer.part suspended.1 (inside.1, suspended.2)) ?_
    rintro fate ms l ⟨rfl, rfl, settled⟩ p returned
    refine ⟨?_, rfl, fun tag' => ?_⟩
    · simp [spans, exiting_append]
    · have := fewer tag'
      have := settled p returned tag'
      simp only [tags, List.map_cons, List.cons_append, List.count_cons, tag] at this ⊢
      simp only [tags] at fewer
      have := fewer tag'
      omega

/-- What the carriers of a stay have, the outermost first. -/
def Stay.tags : Stay → List (Option Xid × Option Span)
  | .guarded _ | .call _ => []
  | .poll layers => Layer.tags layers

/-- The spans of a stay, the outermost first. -/
def Stay.spans : Stay → List Span
  | .guarded _ | .call _ => []
  | .poll layers => Layer.spans layers

/-- What a step of its kind enters and exits: a poll that begins enters the spans of its layers, one
that ends exits them in reverse, and a poll that runs no code of the client does both. Nothing else
enters or exits a span. -/
def Mark.Turns : Mark → List (SpanPhase × Span) → Prop
  | .begins stay, ms => ms = entering stay.spans
  | .ends stay, ms => ms = exiting stay.spans
  | .passes, ms => ∃ spans, ms = entering spans ++ exiting spans
  | .operates, ms | .prepares, ms => ms = []

namespace System

variable {c d : System ρ κ} {mark : Mark} {stay : Stay}

/-- What the carriers of all stays and tasks have. -/
def tags (c : System ρ κ) : List (Option Xid × Option Span) :=
  (c.stays.flatMap fun e => e.2.tags) ++ c.tasks.flatMap Task.tags

/-- The spans of the polls that a worker is in the middle of, the innermost first. -/
def opened (c : System ρ κ) (w : Worker) : List Span :=
  (c.stack w).flatMap fun stay => stay.spans.reverse

theorem count_tags_of_innermost {inner outer : List (Worker × Stay)}
    (top : c.Innermost w stay inner outer) (tag : Option Xid × Option Span) (s : World ρ) :
    c.tags.count tag = stay.tags.count tag +
      (tags { world := s, stays := inner ++ outer, tasks := c.tasks }).count tag := by
  simp only [tags, top.split, List.flatMap_append, List.flatMap_cons, List.count_append]
  omega

theorem count_tags_of_perm {t : Task κ} {tasks : List (Task κ)} (perm : c.tasks.Perm (t :: tasks))
    (tag : Option Xid × Option Span) (s : World ρ) (stays : List (Worker × Stay)) :
    (tags { world := s, stays, tasks := c.tasks }).count tag = t.tags.count tag +
      (tags { world := s, stays, tasks }).count tag := by
  have same := (perm.flatMap_right Task.tags).count_eq tag
  simp only [tags, List.count_append, List.flatMap_cons] at same ⊢
  omega

/-- What a step records about spans. -/
structure Recorded (w : Worker) (mark : Mark) (c d : System ρ κ) (new : List Record)
    (made : List (Option Xid × Option Span)) : Prop where
  history : d.world.history = c.world.history ++ new
  here : ∀ r ∈ new, r.worker = w
  turns : mark.Turns (AmbientTx.turns (marks new))
  owned : mark = .passes → ∀ m ∈ AmbientTx.turns (marks new),
    ∃ tag ∈ c.tasks.flatMap Task.tags ++ made, tag.2 = some m.2
  makes : Makes c.world.spans d.world.spans made (marks new)
  fewer : Fewer d.tags (c.tags ++ made)

theorem recorded_of_quiet (quiet : Quiet w c.world d.world) (turns : mark.Turns [])
    (fewer : Fewer d.tags c.tags) : ∃ new made, Recorded w mark c d new made := by
  obtain ⟨new, hist, unmarked, spans⟩ := quiet
  refine ⟨new, [], hist, fun r mem => (unmarked r mem).1, ?_, ?_, ?_, ?_⟩
  · rw [unmarked.marks]
    exact turns
  · intro _ m mem
    rw [unmarked.marks] at mem
    cases mem
  · rw [unmarked.marks, spans]
    exact Makes.nil rfl
  · simpa [Fewer] using fewer

theorem recorded_of_carry {task task' : Task κ} {tasks : List (Task κ)} {scope : Scope}
    (perm : c.tasks.Perm (task :: tasks))
    (ran : task.carry scope w c.world = .ok ⟨.returned task', s⟩) :
    ∃ new made,
      Recorded w .prepares c { c with world := s, tasks := task' :: tasks } new made := by
  obtain ⟨carrier, u, created, rest⟩ := bind_eq_returned.1 ran
  obtain ⟨⟩ := pure_eq_ok.1 rest
  obtain ⟨new, hist, here, _, same, none, makes⟩ := Carrier.create_records scope rfl created
  cases same
  refine ⟨new, _, hist, here, none, (by simp), makes, fun tag => ?_⟩
  have := count_tags_of_perm perm tag c.world c.stays
  simp only [tags, List.flatMap_cons, Task.tags, List.count_append, List.count_cons,
    List.count_nil] at this ⊢
  omega

theorem recorded_of_poll {task : Task κ} {tasks : List (Task κ)} {layers : List Layer} {future : κ}
    (perm : c.tasks.Perm (task :: tasks))
    (ran : (task.reach : Action ρ (List Layer × Reached κ α)) w c.world =
      .ok ⟨.returned (layers, .inside future), s⟩) :
    ∃ new made, Recorded w (.begins (.poll layers)) c
      { world := s, stays := (w, .poll layers) :: c.stays, tasks } new made := by
  obtain ⟨new, hist, here, made, bounced, word, inside, -, makes, fewer⟩ :=
    Task.reach_records _ rfl ran
  obtain ⟨rfl, -⟩ := inside _ rfl
  refine ⟨new, made, hist, here, ?_, (by simp), makes, fun tag => ?_⟩
  · simpa [Mark.Turns, Stay.spans, exiting] using word
  · have := count_tags_of_perm perm tag c.world c.stays
    have := fewer tag
    simp only [tags, List.flatMap_cons, Stay.tags, Reached.tags, List.append_nil,
      List.count_append] at *
    omega

/-- A poll that ends on its way in enters the spans that it got to and exits them. -/
theorem recorded_of_pass {task task' : Task κ} {tasks : List (Task κ)} {layers : List Layer}
    {polled : Polled κ α} {fate : Fate (Progress α)} (perm : c.tasks.Perm (task :: tasks))
    (ran : task.reach w c.world = .ok ⟨.returned (layers, .ended polled), s⟩)
    (closed : Layer.closeAll layers polled w s = .ok ⟨.returned (task', fate), t⟩) :
    ∃ new made, Recorded w .passes c { c with world := t, tasks := task' :: tasks } new made := by
  obtain ⟨new, hist, here, made, bounced, word, inside, owned, makes, fewer⟩ :=
    Task.reach_records _ rfl ran
  obtain ⟨new', hist', here', h'⟩ := Layer.closeAll_records _ _ rfl closed
  obtain ⟨word', count, fewer'⟩ := h' _ rfl
  have whole : turns (marks (new ++ new')) = entering (Layer.spans layers ++ bounced) ++
      exiting (Layer.spans layers ++ bounced) := by
    rw [marks_append, turns_append, word, word', turns_exiting, exiting_append, List.append_assoc]
  refine ⟨new ++ new', made, ?_, List.forall_mem_append.2 ⟨here, here'⟩, ⟨_, whole⟩, ?_, ?_,
    fun tag => ?_⟩
  · rw [hist', hist, List.append_assoc]
  · intro _ m mem
    rw [whole] at mem
    obtain ⟨tag, mem, same⟩ : ∃ tag ∈ task.tags ++ made, tag.2 = some m.2 := by
      rcases List.mem_append.1 (mem_of_mem_turns mem) with mem | mem
      · obtain ⟨tag, mem, same⟩ := Layer.exists_tag mem
        exact ⟨tag, fewer.mem (List.mem_append_left _ mem), same⟩
      · exact owned _ mem
    refine ⟨tag, ?_, same⟩
    rcases List.mem_append.1 mem with mem | mem
    · refine List.mem_append_left _ (List.mem_flatMap.2 ⟨task, ?_, mem⟩)
      exact perm.mem_iff.2 List.mem_cons_self
    · exact List.mem_append_right _ mem
  · rw [marks_append, word', count, ← List.append_nil made]
    exact makes.append (Makes.nil (created_exiting _))
  · have := count_tags_of_perm perm tag c.world c.stays
    have := fewer tag
    have := fewer' tag
    simp only [tags, List.flatMap_cons, Reached.tags, List.count_append] at *
    omega

theorem recorded_of_finish {task : Task κ} {layers : List Layer}
    {inner outer : List (Worker × Stay)} {future : κ} {fate fate' : Fate (Progress α)}
    (top : c.Innermost w (.poll layers) inner outer)
    (ran : Layer.closeAll layers (.plain future, fate) w c.world =
      .ok ⟨.returned (task, fate'), s⟩) :
    ∃ new made, Recorded w (.ends (.poll layers)) c
      { world := s, stays := inner ++ outer, tasks := task :: c.tasks } new made := by
  obtain ⟨new, hist, here, h'⟩ := Layer.closeAll_records _ _ rfl ran
  obtain ⟨word, count, fewer⟩ := h' _ rfl
  refine ⟨new, [], hist, here, ?_, (by simp), ?_, fun tag => ?_⟩
  · rw [word, turns_exiting]
    rfl
  · rw [word, count]
    exact Makes.nil (created_exiting _)
  · have := count_tags_of_innermost top tag c.world
    have := fewer tag
    simp only [tags, List.flatMap_cons, Stay.tags, Task.tags, List.append_nil,
      List.count_append] at *
    omega

theorem Step.recorded (step : Step w mark c d) : ∃ new made, Recorded w mark c d new made := by
  have h := quiet_underlies (ρ := ρ)
  have kept : Fewer c.tags c.tags := fun _ => Nat.le_refl _
  have released {stay : Stay} {inner outer : List (Worker × Stay)}
      (top : c.Innermost w stay inner outer) (s : World ρ) :
      Fewer (tags { world := s, stays := inner ++ outer, tasks := c.tasks }) c.tags := by
    intro tag
    have := count_tags_of_innermost top tag s
    omega
  cases step with
  | operate op ran => exact recorded_of_quiet (op.perform_quiet ran) rfl kept
  | answers m v => exact recorded_of_quiet ⟨[], by simp [Unmarked, World.setManager]⟩ rfl kept
  | enter ran => exact recorded_of_quiet (h.activate _ ran) rfl kept
  | resume ran => exact recorded_of_quiet (h.scopeResume _ ran) rfl kept
  | release top ran => exact recorded_of_quiet (h.scopeRelease _ ran) rfl (released top _)
  | suspend top ran => exact recorded_of_quiet (h.scopeSuspend _ ran) rfl (released top _)
  | call t info ran => exact recorded_of_quiet (h.enter t info ran) rfl kept
  | refuse t info ran refused => exact recorded_of_quiet (h.enter t info ran) ⟨[], rfl⟩ kept
  | leave top fate ran => exact recorded_of_quiet (h.leave _ fate ran) rfl (released top _)
  | future future => exact recorded_of_quiet (quiet_repeats.refl w _) rfl kept
  | carry perm scope ran => exact recorded_of_carry perm ran
  | wrap perm template info =>
    refine recorded_of_quiet (quiet_repeats.refl w _) rfl fun tag => ?_
    have := count_tags_of_perm perm tag c.world c.stays
    simp only [tags, List.flatMap_cons, Task.tags, List.count_append] at this ⊢
    omega
  | poll perm ran => exact recorded_of_poll perm ran
  | pass perm ran closed => exact recorded_of_pass perm ran closed
  | finish top future fate ran => exact recorded_of_finish top ran
  | drop perm ran =>
    refine recorded_of_quiet (h.drop _ ran) ⟨[], rfl⟩ fun tag => ?_
    have := count_tags_of_perm perm tag c.world c.stays
    simp only [tags, List.count_append] at this ⊢
    omega

/-! ## Runs -/

/-- What a step enters and exits takes the spans that are open on its worker from those of the polls
in progress before it to those after it. -/
theorem follow_of_moves {before after : List Stay} {ms : List (SpanPhase × Span)}
    (h : mark.Turns ms) (moves : Mark.Moves mark before after) :
    follow (before.flatMap fun stay => stay.spans.reverse) ms =
      some (after.flatMap fun stay => stay.spans.reverse) := by
  cases mark with
  | begins stay =>
    obtain rfl := h
    obtain rfl := moves
    exact follow_entering _ _
  | ends stay =>
    obtain rfl := h
    obtain rfl := moves
    exact follow_exiting _ _
  | passes =>
    obtain ⟨spans, rfl⟩ := h
    obtain rfl := moves
    rw [follow_append (follow_entering _ _)]
    exact follow_exiting _ _
  | operates | prepares =>
    obtain rfl := h
    obtain rfl := moves
    rfl

/-- What a run from an idle system recorded about spans. No span is created twice, no two carriers
have the same one, and it is named after what its carrier captured. On every worker enters and exits
are well nested, and the spans that are open are those of its polls in progress. -/
structure Spanned (d : System ρ κ) (new : List Record) : Prop where
  created : (created (marks new)).Nodup
  ids : ∀ span ∈ AmbientTx.created (marks new), span.id < d.world.spans
  named : ∀ tag ∈ d.tags, ∀ span, tag.2 = some span → tag.1 = some span.xid
  owned : ∀ span : Span,
    d.tags.count (some span.xid, some span) ≤ (AmbientTx.created (marks new)).count span
  nested : ∀ v, follow [] (marks (new.filter fun r => r.worker = v)) = some (d.opened v)

theorem count_le_count_span (tags : List (Option Xid × Option Span)) (span : Span) :
    tags.count (some span.xid, some span) ≤ (tags.filterMap Prod.snd).count span := by
  induction tags with
  | nil => exact Nat.le_refl 0
  | cons tag rest ih =>
    obtain ⟨captured, _ | span'⟩ := tag
    · rw [List.filterMap_cons_none rfl, List.count_cons_of_ne (by simp)]
      exact ih
    · have head : ((captured, some span') :: rest).filterMap Prod.snd =
          span' :: rest.filterMap Prod.snd := rfl
      rw [head]
      by_cases same : span' = span
      · subst same
        rw [List.count_cons_self, List.count_cons]
        split <;> omega
      · rw [List.count_cons_of_ne same, List.count_cons_of_ne (by simp [same])]
        exact ih

theorem Spanned.step {e : System ρ κ} {new : List Record} (h : Spanned d new)
    (step : Step w mark d e) : ∃ new' made, Recorded w mark d e new' made ∧
      Spanned e (new ++ new') := by
  obtain ⟨new', made, recorded⟩ := step.recorded
  have makes := recorded.makes
  refine ⟨new', made, recorded, ?_, ?_, ?_, ?_, ?_⟩
  · rw [marks_append, created_append, List.nodup_append]
    refine ⟨h.created, makes.nodup, ?_⟩
    rintro span old span' young rfl
    have := h.ids span old
    have := (makes.ids span young).1
    omega
  · intro span mem
    rw [marks_append, created_append] at mem
    have := makes.le
    rcases List.mem_append.1 mem with mem | mem
    · have := h.ids span mem
      omega
    · exact (makes.ids span mem).2
  · intro tag mem
    rcases List.mem_append.1 (recorded.fewer.mem mem) with mem | mem
    · exact h.named tag mem
    · exact makes.named tag mem
  · intro span
    have fewer := recorded.fewer (some span.xid, some span)
    have owned := h.owned span
    have fresh := count_le_count_span made span
    rw [← makes.created] at fresh
    rw [List.count_append] at fewer
    rw [marks_append, created_append, List.count_append]
    omega
  · intro v
    rw [List.filter_append, marks_append, follow_append (h.nested v)]
    by_cases hv : v = w
    · subst hv
      rw [List.filter_eq_self.2 fun r mem => by simpa using recorded.here r mem, ← follow_turns]
      exact follow_of_moves recorded.turns step.stack
    · rw [List.filter_eq_nil_iff.2 fun r mem => by simpa [recorded.here r mem] using Ne.symm hv]
      simp only [opened, step.stack_of_ne hv]
      rfl

/-- How many carriers have a span. -/
def carriersOf (span : Span) (tags : List (Option Xid × Option Span)) : Nat :=
  tags.countP fun tag => tag.2 = some span

theorem carriersOf_append (span : Span) (as bs : List (Option Xid × Option Span)) :
    carriersOf span (as ++ bs) = carriersOf span as + carriersOf span bs :=
  List.countP_append ..

theorem carriersOf_pos {span : Span} {tags : List (Option Xid × Option Span)} :
    0 < carriersOf span tags ↔ ∃ tag ∈ tags, tag.2 = some span := by
  simp [carriersOf, List.countP_pos_iff]

/-- Every carrier has its span for itself. -/
theorem Spanned.carriersOf_le {new : List Record} (h : Spanned d new) (span : Span) :
    carriersOf span d.tags ≤ (AmbientTx.created (marks new)).count span := by
  refine Nat.le_trans ?_ (h.owned span)
  refine List.countP_mono_left fun tag mem same => ?_
  have same : tag.2 = some span := by simpa using same
  have named := h.named tag mem span same
  simp [← named, ← same]

theorem count_spans_le (span : Span) (layers : List Layer) :
    (Layer.spans layers).count span = carriersOf span (Layer.tags layers) := by
  induction layers with
  | nil => rfl
  | cons layer rest ih =>
    simp only [Layer.spans, Layer.tags, carriersOf, List.flatMap_cons, List.map_cons,
      List.count_append, List.countP_cons] at ih ⊢
    rw [ih, Nat.add_comm]
    congr 1
    unfold Carrier.tag
    cases layer.carrier.span with
    | none => simp
    | some found => simp [List.count_cons]

theorem opened_cons (v : Worker) (e : Worker × Stay) (stays : List (Worker × Stay)) (s : World ρ)
    (tasks : List (Task κ)) :
    opened ⟨s, e :: stays, tasks⟩ v =
      (if e.1 = v then e.2.spans.reverse else []) ++ opened ⟨s, stays, tasks⟩ v := by
  unfold opened stack
  by_cases same : e.1 = v
  · simp [same]
  · simp [same]

/-- A span is open at most as often as there are polls with a carrier that has it. -/
theorem count_opened_le (c : System ρ κ) (span : Span) (v w : Worker) :
    (c.opened v).count span + (if v = w then 0 else (c.opened w).count span) ≤
      carriersOf span (c.stays.flatMap fun e => e.2.tags) := by
  obtain ⟨s, stays, tasks⟩ := c
  induction stays with
  | nil => simp [opened, stack]
  | cons e rest ih =>
    have head : e.2.spans.count span = carriersOf span e.2.tags := by
      cases e.2 with
      | guarded scope | call part => rfl
      | poll layers => exact count_spans_le span layers
    simp only at ih ⊢
    rw [opened_cons, opened_cons, List.flatMap_cons, carriersOf_append, ← head]
    by_cases hv : e.1 = v <;> by_cases hw : e.1 = w <;> by_cases same : v = w <;>
      simp_all <;> omega

/-- A span that is open has no other carrier than that of its poll. -/
theorem Spanned.count_le_one {new : List Record} (h : Spanned d new) (span : Span) (v w : Worker) :
    (d.opened v).count span + (if v = w then 0 else (d.opened w).count span) +
      carriersOf span (d.tasks.flatMap Task.tags) ≤ 1 := by
  have stays := d.count_opened_le span v w
  have all := h.carriersOf_le span
  have once := List.nodup_iff_count.1 h.created span
  rw [tags, carriersOf_append] at all
  omega

theorem Spanned.created_of_opened {new : List Record} (h : Spanned d new) {span : Span}
    (mem : span ∈ d.opened v) : span ∈ AmbientTx.created (marks new) := by
  have count := d.count_opened_le span v v
  have pos : 0 < (d.opened v).count span := List.count_pos_iff.2 mem
  have all := h.carriersOf_le span
  rw [tags, carriersOf_append] at all
  refine List.count_pos_iff.1 ?_
  simp only [if_pos] at count
  omega

/-- A span that is open besides a stay is not one of that stay. -/
theorem Spanned.not_mem_of_pushed {e : System ρ κ} {new : List Record} (h : Spanned d new)
    (pushed : d.stack w = stay :: e.stack w) {span : Span} (inside : span ∈ d.opened v)
    (outside : span ∈ e.opened v) : span ∉ stay.spans := by
  intro mem
  have once := h.count_le_one span w v
  have opened : d.opened w = stay.spans.reverse ++ e.opened w := by
    simp [System.opened, pushed]
  have here : 0 < stay.spans.count span := List.count_pos_iff.2 mem
  have there : 0 < (d.opened v).count span := List.count_pos_iff.2 inside
  have below : 0 < (e.opened v).count span := List.count_pos_iff.2 outside
  rw [opened, List.count_append, List.count_reverse] at once
  by_cases same : w = v
  · subst same
    omega
  · rw [if_neg same] at once
    omega

/-- While the poll of a span is in progress, nothing is recorded about the span. -/
theorem Spanned.unmarked_of_opened {e : System ρ κ} {new new' : List Record}
    {made : List (Option Xid × Option Span)} (h : Spanned d new) (h' : Spanned e (new ++ new'))
    (step : Step w mark d e) (recorded : Recorded w mark d e new' made) {span : Span}
    (before : span ∈ d.opened v) (after : span ∈ e.opened v) (phase : SpanPhase) :
    (phase, span) ∉ marks new' := by
  intro marked
  have old := h.ids span (h.created_of_opened before)
  have makes := recorded.makes
  have young (created : span ∈ AmbientTx.created (marks new')) : False := by
    have := (makes.ids span created).1
    omega
  by_cases created : phase = .created
  · exact young (List.mem_filterMap.2 ⟨_, marked, by simp [created]⟩)
  have turned : (phase, span) ∈ turns (marks new') :=
    List.mem_filter.2 ⟨marked, by simpa using created⟩
  have word := recorded.turns
  have moves := step.stack
  cases mark with
  | begins stay =>
    rw [show turns (marks new') = entering stay.spans from word] at turned
    exact h'.not_mem_of_pushed moves after before
      (mem_of_mem_turns (List.mem_append_left _ turned))
  | ends stay =>
    rw [show turns (marks new') = exiting stay.spans from word] at turned
    exact h.not_mem_of_pushed moves before after
      (mem_of_mem_turns (List.mem_append_right _ turned))
  | passes =>
    obtain ⟨tag, mem, same⟩ := recorded.owned rfl _ turned
    rcases List.mem_append.1 mem with mem | mem
    · -- the task that is polled or dropped would have the span of another poll
      have once := h.count_le_one span v v
      have here : 0 < (d.opened v).count span := List.count_pos_iff.2 before
      have there : 0 < carriersOf span (d.tasks.flatMap Task.tags) :=
        carriersOf_pos.2 ⟨tag, mem, same⟩
      omega
    · refine young ?_
      rw [makes.created]
      exact List.mem_filterMap.2 ⟨tag, mem, same⟩
  | operates | prepares =>
    rw [show turns (marks new') = [] from word] at turned
    cases turned

theorem Runs.spanned (idle : c.Idle) (runs : Runs c d) :
    ∃ new, d.world.history = c.world.history ++ new ∧ Spanned d new := by
  induction runs with
  | refl =>
    refine ⟨[], by simp, List.nodup_nil, by simp [created, marks], ?_, ?_, ?_⟩
    · simp [tags, idle.1, idle.2]
    · simp [tags, idle.1, idle.2]
    · simp [opened, stack, idle.1, follow, marks]
  | step runs step ih =>
    obtain ⟨new, hist, spanned⟩ := ih
    obtain ⟨new', made, recorded, spanned'⟩ := spanned.step step
    exact ⟨new ++ new', by rw [recorded.history, hist, List.append_assoc], spanned'⟩

/-- The spans of the library bracket propagated work, and nothing else. A carrier is created with one
new span, named after the transaction that it captured, if it captured one and spans are on just
then; otherwise with none. So is the carrier of a task when the task is carried, and that of a call
when its first poll takes part in a transaction, which then goes on as every later poll does. From
then on each poll that goes through the carrier enters its span before anything else is recorded and
exits it after everything else, however the body ends and even if it is not run, and whatever is
configured by then. A poll that gets to the future inside enters the spans of all carriers that its
task has or just got. In any run from an idle system no other carrier has the span, every step enters
and exits exactly the spans of the polls that it begins or ends, nothing is recorded about a span
between the beginning and the end of its poll, and the enters and exits of each worker are well
nested. -/
theorem spans_bracket_polls :
    (∀ (scope : Scope) (w : Worker) (s : World ρ), ∃ carrier t,
      Carrier.create scope w s = .ok ⟨.returned carrier, t⟩ ∧
      Carrier.Created scope w s t carrier) ∧
    (∀ (scope : Scope) (task : Task κ) (w : Worker) (s : World ρ), ∃ carrier t,
      task.carry scope w s = .ok ⟨.returned (.carried carrier task), t⟩ ∧
      Carrier.Created scope w s t carrier) ∧
    (∀ (template : Template) (info : CallInfo) (business : Task κ) (part : Part) (w : Worker)
      (s u : World ρ), (template.start info : Action ρ (Except (CallError TaskFailure) Part)) w s =
        .ok ⟨.returned (.ok part), u⟩ →
      ∃ carrier t, Carrier.Created (Scope.carrying (some part.xid)) w u t carrier ∧
        ∀ run : κ → Action ρ (κ × Fate (Progress α)),
          (Task.fresh template info business).poll run w s =
            (Task.called part carrier business).poll run w t) ∧
    (∀ (carrier carrier' : Carrier) (idle kept : β) (body : Action ρ (β × Fate α)) (fate : Fate α)
      (w : Worker) (s t : World ρ),
      Carrier.hook.around carrier idle body w s = .ok ⟨.returned (carrier', kept, fate), t⟩ →
      carrier'.tag = carrier.tag ∧ ∃ before, Unmarked w before ∧
        ((kept = idle ∧ (∃ p, fate = .unwound p) ∧ t.history = s.history ++
            Span.records w .entered carrier.span ++ before ++
            Span.records w .exited carrier.span) ∨
          ∃ u q ended after, body w u = .ok ⟨.returned (kept, ended), q⟩ ∧ Unmarked w after ∧
            u.history = s.history ++ Span.records w .entered carrier.span ++ before ∧
            t.history = q.history ++ after ++ Span.records w .exited carrier.span)) ∧
    (∀ (task : Task κ) (w : Worker) (s t : World ρ) (layers : List Layer) (future : κ),
      (task.reach : Action ρ (List Layer × Reached κ α)) w s =
        .ok ⟨.returned (layers, .inside future), t⟩ →
      ∃ new made, t.history = s.history ++ new ∧ (∀ r ∈ new, r.worker = w) ∧
        Makes s.spans t.spans made (marks new) ∧
        (Layer.tags layers).Perm (task.tags ++ made) ∧
        turns (marks new) = entering (Layer.spans layers)) ∧
    ∀ c d : System ρ κ, c.Idle → Runs c d →
      ∃ past, d.world.history = c.world.history ++ past ∧ Spanned d past ∧
        (∀ span, carriersOf span d.tags ≤ 1) ∧
        ∀ (w : Worker) (mark : Mark) (e : System ρ κ), Step w mark d e →
          ∃ new made, Recorded w mark d e new made ∧
            ∀ v span, span ∈ d.opened v → span ∈ e.opened v →
              ∀ phase, (phase, span) ∉ marks new := by
  refine ⟨Carrier.create_created, fun scope task w s => ?_, fun _ _ _ part w s u started => ?_,
    fun _ _ _ _ _ _ _ _ _ ran => Carrier.around_brackets ran,
    fun task w s t layers future ran => ?_, fun c d idle runs => ?_⟩
  · obtain ⟨carrier, t, ran, created⟩ := Carrier.create_created scope w s
    exact ⟨carrier, t, bind_of_returned ran _, created⟩
  · obtain ⟨carrier, t, ran, created⟩ :=
      Carrier.create_created (Scope.carrying (some part.xid)) w u
    refine ⟨carrier, t, created, fun run => ?_⟩
    refine (bind_of_returned (attempt_of_ran started) _).trans ?_
    exact bind_of_returned ran _
  · obtain ⟨new, hist, here, made, bounced, word, inside, -, makes, -⟩ :=
      Task.reach_records task rfl ran
    obtain ⟨rfl, perm⟩ := inside future rfl
    exact ⟨new, made, hist, here, makes, perm, by simpa [exiting] using word⟩
  · obtain ⟨past, hist, spanned⟩ := runs.spanned idle
    refine ⟨past, hist, spanned, fun span => ?_, fun w mark e step => ?_⟩
    · exact Nat.le_trans (spanned.carriersOf_le span) (List.nodup_iff_count.1 spanned.created span)
    · obtain ⟨new, made, recorded, spanned'⟩ := spanned.step step
      refine ⟨new, made, recorded, fun v span before after => ?_⟩
      exact spanned.unmarked_of_opened spanned' step recorded before after

/-- A task that carries a transaction is polled, once by code that panics and once by a worker that
makes no other steps. -/
theorem spans_bracket_polls_of_carried :
    (∃ (carrier carrier' : Carrier) (fate : Fate Unit) (s t : World Unit),
      Carrier.hook.around carrier () (return ((), .unwound ⟨"gone"⟩)) .main s =
        .ok ⟨.returned (carrier', (), fate), t⟩ ∧ carrier'.tag = carrier.tag) ∧
    ∃ (c d e : System Unit Unit) (span : Span) (layers : List Layer), c.Idle ∧ Runs c d ∧
      Step .main (.ends (.poll layers)) d e ∧ carriersOf span d.tags = 1 ∧ ∃ new,
        e.world.history = d.world.history ++ new ∧ turns (marks new) = [(.exited, span)] := by
  have all := @spans_bracket_polls Unit Unit Unit Unit
  constructor
  · have ran : Carrier.hook.around ⟨.carrying (some Manager.firstXid), some ⟨0, Manager.firstXid⟩⟩ ()
        (return ((), .unwound ⟨"gone"⟩) : Action Unit (Unit × Fate Unit)) .main { rest := () } =
        .ok ⟨.returned (_, _, _), _⟩ := rfl
    exact ⟨_, _, _, _, _, ran, (all.2.2.2.1 _ _ _ _ _ _ _ _ _ ran).1⟩
  · let span : Span := ⟨0, Manager.firstXid⟩
    let carrier : Carrier := ⟨.carrying (some Manager.firstXid), some span⟩
    let c : System Unit Unit := { world := { rest := () } }
    let s : World Unit := { rest := (), history := [⟨.main, .span .created span⟩], spans := 1 }
    have runs : Runs c { world := s, tasks := [.carried carrier (.plain ())] } :=
      ((Runs.refl c).step (.future (w := .main) ())).step
        (.carry (w := .main) (.refl _) (.carrying (some Manager.firstXid)) rfl)
    obtain ⟨d, e, layers, polled, ends, owned, spans⟩ : ∃ d e layers, Runs c d ∧
        Step .main (.ends (.poll layers)) d e ∧ carriersOf span d.tags = 1 ∧
        Layer.spans layers = [span] := by
      have reached : (Task.carried carrier (.plain ())).reach .main s =
          .ok ⟨.returned (_, (.inside () : Reached Unit Unit)), _⟩ := rfl
      exact ⟨_, _, _, runs.step (.poll (.refl _) reached), .finish (α := Unit)
        (⟨rfl, fun _ mem => absurd mem List.not_mem_nil⟩ : Innermost _ .main _ [] []) ()
        (.returned .waiting) rfl, rfl, rfl⟩
    obtain ⟨past, -, -, -, steps⟩ := all.2.2.2.2.2 c d ⟨rfl, rfl⟩ polled
    obtain ⟨new, made, recorded, -⟩ := steps _ _ e ends
    refine ⟨c, d, e, span, layers, ⟨rfl, rfl⟩, polled, ends, owned, new, recorded.history, ?_⟩
    have word : turns (marks new) = exiting (Layer.spans layers) := recorded.turns
    rw [word, spans]
    rfl

end System
end AmbientTx
