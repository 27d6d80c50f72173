import AmbientTx.Proofs.Marks
import AmbientTx.Proofs.Sessions

/-! # Tracing changes nothing

Whether propagated work is traced is asked when a carrier is made, and all that comes of it are the
records of the carrier's span. Two worlds that differ in nothing but spans (`World.SameButSpans`)
stay so whatever the library does in both, with carriers that have a span in one and none in the
other. A client that does not ask for the configuration cannot tell whether it is traced.
-/

namespace AmbientTx

variable {ρ κ α ε : Type} {w : Worker} {s t u : World ρ}

open World AmbientTx.Action

namespace World

/-- The history without the records of spans. -/
def unspanned (s : World ρ) : List Record :=
  s.history.filter fun r =>
    match r.happening with
    | .span _ _ => false
    | .event _ | .call _ => true

/-- The worlds differ in nothing but spans: whether the configuration asks for them, how many were
created, and what the history tells of them. -/
structure SameButSpans (s t : World ρ) : Prop where
  slots : t.slots = s.slots
  config : t.config = { s.config with traceSpans := t.config.traceSpans }
  installed : t.installed = s.installed
  managers : t.managers = s.managers
  history : t.unspanned = s.unspanned
  rest : t.rest = s.rest

namespace SameButSpans

theorem refl (s : World ρ) : SameButSpans s s :=
  ⟨rfl, rfl, rfl, rfl, rfl, rfl⟩

theorem symm (h : SameButSpans s t) : SameButSpans t s := by
  obtain ⟨slots, config, installed, managers, history, rest⟩ := h
  refine ⟨slots.symm, ?_, installed.symm, managers.symm, history.symm, rest.symm⟩
  rw [config]

theorem trans (h : SameButSpans s t) (k : SameButSpans t u) : SameButSpans s u := by
  obtain ⟨slots, config, installed, managers, history, rest⟩ := h
  refine ⟨k.slots.trans slots, ?_, k.installed.trans installed, k.managers.trans managers,
    k.history.trans history, k.rest.trans rest⟩
  rw [k.config, config]

theorem slot (h : SameButSpans s t) (w : Worker) : t.slot w = s.slot w := by
  rw [World.slot, h.slots, World.slot]

theorem bound (h : SameButSpans s t) (w : Worker) : t.bound w = s.bound w := by
  rw [World.bound, h.slot, World.bound]

/-- In particular the same calls were made to the same managers, in the same order. -/
theorem calls (h : SameButSpans s t) : t.calls = s.calls := by
  have told (s : World ρ) : { s with history := s.unspanned }.calls = s.calls := by
    unfold World.calls unspanned
    simp only [List.filterMap_filter]
    congr 1
    funext r
    cases r.happening <;> rfl
  calc t.calls = { t with history := t.unspanned }.calls := (told t).symm
    _ = { s with history := s.unspanned }.calls := by rw [h.history]; rfl
    _ = s.calls := told s

theorem record (h : SameButSpans s t) (w : Worker) (e : Happening) :
    SameButSpans (s.record w e) (t.record w e) := by
  refine ⟨h.slots, h.config, h.installed, h.managers, ?_, h.rest⟩
  have same : t.unspanned = s.unspanned := h.history
  unfold unspanned at same ⊢
  rw [history_record, history_record, List.filter_append, List.filter_append, same]

theorem mapSlot (h : SameButSpans s t) (w : Worker) (f : Slot → Slot) :
    SameButSpans (s.mapSlot w f) (t.mapSlot w f) := by
  unfold World.mapSlot
  split
  · exact ⟨by simp only [h.slots], h.config, h.installed, h.managers, h.history, h.rest⟩
  · exact h

theorem records (w : Worker) (s : World ρ) (phase : SpanPhase) (span : Option Span) (n : Nat) :
    SameButSpans s { s with history := s.history ++ Span.records w phase span, spans := n } := by
  refine ⟨rfl, rfl, rfl, rfl, ?_, rfl⟩
  unfold unspanned
  rw [List.filter_append]
  cases span <;> exact List.append_nil _

theorem repeats : Repeats (fun _ : Worker => SameButSpans (ρ := ρ)) where
  refl _ s := refl s
  trans h k := h.trans k

/-- Two pieces of code that do nothing but record spans can be run side by side. -/
theorem coupled {x y : Action ρ α} (hx : Calm (fun _ => SameButSpans) x)
    (hy : Calm (fun _ => SameButSpans) y) : Coupled w SameButSpans (fun _ _ => True) x y := by
  intro s t worlds
  obtain ⟨a, s', ran, left⟩ := hx w s
  obtain ⟨b, t', ran', right⟩ := hy w t
  rw [ran, ran']
  exact .returned trivial (left.symm.trans (worlds.trans right))

theorem create (captured : Option Xid) :
    Calm (fun _ => SameButSpans) (Span.create? captured : Action ρ (Option Span)) := by
  intro w s
  exact ⟨_, _, Span.create_eq captured w s, records w s .created _ _⟩

theorem mark (phase : SpanPhase) (span : Option Span) :
    Calm (fun _ => SameButSpans) (Span.mark phase span : Action ρ Unit) := by
  intro w s
  exact ⟨(), _, Span.mark_eq phase span w s, records w s phase span s.spans⟩

/-- Worlds that differ in nothing but spans are kept so by all that the library does. -/
theorem mirrors (w : Worker) : Mirrors w (SameButSpans (ρ := ρ)) fun _ _ => True where
  bound h := h.bound w
  defaultMode h := by rw [h.config]
  defaultTimeout h := by rw [h.config]
  installed h := h.installed
  managers h := h.managers
  event e _ _ h := h.record w (.event e)
  call call _ _ h := h.record w (.call call)
  setManager m v _ _ h :=
    ⟨h.slots, h.config, h.installed, by simp only [setManager, h.managers], h.history, h.rest⟩
  install m _ _ h := ⟨h.slots, h.config, rfl, h.managers, h.history, h.rest⟩
  write f _ _ _ h := h.mapSlot w f
  create captured := coupled (create captured) (create captured)
  mark phase a b _ := (coupled (mark phase a) (mark phase b)).mono fun _ _ _ => rfl

end SameButSpans
end World

namespace System

/-- The same system, with spans on or off from now on. -/
def tracing (c : System ρ κ) (on : Bool) : System ρ κ :=
  { c with world := { c.world with config := { c.world.config with traceSpans := on } } }

/-- Whether work is traced changes nothing but spans, for a client that does not ask for the
configuration: after every turn it was told the same, the slots of all workers and the managers are
the same, and so is the history without the records of spans. -/
theorem tracing_changes_nothing (c : System ρ κ) (on : Bool) (client : Client κ ε α)
    (unasked : client.Along (fun _ _ command => command.asksConfig = false) c) :
    (c.serve client).Like SameButSpans (fun _ _ => True) ((c.tracing on).serve client) := by
  apply serve_like SameButSpans.mirrors
  · exact Like.of_world (fun _ => trivial) ⟨rfl, rfl, rfl, rfl, rfl, rfl⟩
  · refine unasked.mono fun c w command unasked => ⟨fun _ s t h => h.slot w, ?_⟩
    intro asks
    rw [unasked] at asks
    cases asks

/-- A task that carries a transaction has a span in one of the runs and none in the other; its
future panics, and the client goes on to poll the task again. -/
theorem tracing_changes_nothing_of_carried :
    ∃ (c : System Unit Unit) (client : Client Unit Unit Unit),
      client.Along (fun _ _ command => command.asksConfig = false) c ∧
      (c.serve client).turns.length = 4 ∧ (c.serve client).last.world.history.length = 10 ∧
      ((c.tracing false).serve client).last.world.history.length = 6 ∧
      (c.serve client).Like SameButSpans (fun _ _ => True) ((c.tracing false).serve client) := by
  let c : System Unit Unit := { world := { rest := () }, tasks := [.plain ()] }
  let client : Client Unit Unit Unit :=
    .ask .main (.carry 0 (.carrying (some Manager.firstXid))) fun _ =>
      .ask .main (.poll 0) fun _ =>
        .ask .main (.finish () (.unwound ⟨"gone"⟩)) fun _ =>
          .ask (.fresh 0) (.poll 0) fun _ => .stop
  have unasked : client.Along (fun _ _ command => command.asksConfig = false) c :=
    ⟨rfl, fun _ _ _ => ⟨rfl, fun _ _ _ => ⟨rfl, fun _ _ _ => ⟨rfl, fun _ _ _ => trivial⟩⟩⟩⟩
  exact ⟨c, client, unasked, rfl, rfl, rfl, tracing_changes_nothing c false client unasked⟩

end System
end AmbientTx
