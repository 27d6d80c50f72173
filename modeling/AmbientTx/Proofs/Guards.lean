import Mathlib.Logic.Function.Basic
import AmbientTx.Proofs.Ambient

/-! # Guards pair the calls of their hooks

A program puts bodies under guards, one inside the other and one after the other, over hooks of any
kind. Each hook has a state of its own and does what it likes in the world, and so do the pieces of
code in between, which may panic; a program may catch. While a hook is resumed its guard has it, so
a guard over it is not there again inside (`Program.guard`).

The calls are noted as they happen. One guard adds the note of a resume that panicked, and nothing
else; or it adds a resume, what the body adds, and one suspend, whether the body returned or unwound
(`Program.Adds`). So if no suspend panics, the notes of a whole program are nested as the guards are,
and whenever the code of the program runs, each hook was suspended as often as it was resumed, but
for the hooks that have a guard then (`Program.guards_paired`).
-/

namespace AmbientTx

variable {ρ σ ι ν α β γ : Type} {η : ι → Type} {w : Worker} {s t : World ρ}

open World AmbientTx.Action

/-! ## Code that does not halt -/

/-- Every run ends. -/
def Action.Ends (x : Action ρ α) : Prop :=
  ∀ w s, ∃ r, x w s = .ok r

namespace Action.Ends

variable {x : Action ρ α} {f : α → Action ρ β}

theorem pure (a : α) : Ends (Pure.pure a : Action ρ α) :=
  fun _ s => ⟨⟨.returned a, s⟩, rfl⟩

theorem resume (fate : Fate α) : Ends (Action.resume fate : Action ρ α) :=
  fun w s => ⟨⟨fate, s⟩, resume_run fate w s⟩

theorem bind (hx : Ends x) (hf : ∀ a, Ends (f a)) : Ends (x >>= f) := by
  intro w s
  obtain ⟨⟨a | p, t⟩, ran⟩ := hx w s
  · rw [bind_of_returned ran]
    exact hf a w t
  · exact ⟨_, bind_of_unwound ran f⟩

theorem attempt (hx : Ends x) : Ends x.attempt := by
  intro w s
  obtain ⟨r, ran⟩ := hx w s
  exact ⟨_, attempt_of_ran ran⟩

end Action.Ends

/-! ## One guard -/

namespace Hook

/-- Suspending does not panic. -/
def Steady (h : Hook ρ γ) : Prop :=
  ∀ ⦃state w s r⦄, h.suspend state w s = .ok r → ∃ after, r.fate = .returned (after, .returned ())

/-- Neither call halts. -/
structure Ends (h : Hook ρ γ) : Prop where
  resume : ∀ state, (h.resume state).Ends
  suspend : ∀ state, (h.suspend state).Ends

/-- How a guard ends, and the world that it leaves. -/
inductive Guards (h : Hook ρ γ) (state : γ) (body : Action ρ α) (w : Worker) (s : World ρ) :
    Fate (γ × Fate α) → World ρ → Prop where
  /-- The hook panicked when it was resumed, and that was all. -/
  | refused {idle : γ} {p : Panic} {t : World ρ}
      (resumed : h.resume state w s = .ok ⟨.returned (idle, .unwound p), t⟩) :
      Guards h state body w s (.returned (idle, .unwound p)) t
  /-- The same, for a hook that does not report its panic. -/
  | lost {p : Panic} {t : World ρ} (resumed : h.resume state w s = .ok ⟨.unwound p, t⟩) :
      Guards h state body w s (.unwound p) t
  /-- The body ran between the two calls, and the guard ends as the body did. -/
  | passed {active after : γ} {fate : Fate α} {t u v : World ρ}
      (resumed : h.resume state w s = .ok ⟨.returned (active, .returned ()), u⟩)
      (ran : body w u = .ok ⟨fate, v⟩)
      (suspended : h.suspend active w v = .ok ⟨.returned (after, .returned ()), t⟩) :
      Guards h state body w s (.returned (after, fate)) t

/-- A guard whose hook panicked when it was resumed. -/
theorem guarding_of_refused {h : Hook ρ γ} {state idle : γ} {p : Panic}
    (resumed : h.resume state w s = .ok ⟨.returned (idle, .unwound p), t⟩) (body : Action ρ α) :
    h.guarding state body w s = .ok ⟨.returned (idle, .unwound p), t⟩ := by
  simp only [guarding, around, bind_assoc]
  rw [bind_of_returned resumed]
  rfl

/-- A guard whose hook was resumed: what is left is the body, and suspending. -/
theorem guarding_of_resumed {h : Hook ρ γ} {state active : γ}
    (resumed : h.resume state w s = .ok ⟨.returned (active, .returned ()), t⟩)
    (body : Action ρ α) :
    h.guarding state body w s = (body.attempt >>= h.finish active) w t := by
  simp only [guarding, around, bind_assoc, pure_bind]
  rw [bind_of_returned resumed]
  simp only [bind_assoc, pure_bind]
  show (body.attempt >>= fun fate => h.finish active fate >>= Pure.pure) w t = _
  simp only [bind_pure]

/-- A guard whose hook panicked when it was resumed, and did not report it. -/
theorem guarding_of_lost {h : Hook ρ γ} {state : γ} {p : Panic}
    (resumed : h.resume state w s = .ok ⟨.unwound p, t⟩) (body : Action ρ α) :
    h.guarding state body w s = .ok ⟨.unwound p, t⟩ :=
  bind_of_unwound (bind_of_unwound resumed _) _

/-- A guard over a hook that does not panic when it is suspended. -/
theorem Steady.guards {h : Hook ρ γ} (steady : h.Steady) {state : γ} {body : Action ρ α}
    {r : Ran ρ (γ × Fate α)} (ran : h.guarding state body w s = .ok r) :
    h.Guards state body w s r.fate r.world := by
  cases resumed : h.resume state w s with
  | error halt =>
    simp only [guarding, around, bind_assoc] at ran
    rw [bind_run, resumed] at ran
    cases ran
  | ok q =>
    obtain ⟨⟨active, ⟨⟩ | p⟩ | p, u⟩ := q
    · rw [guarding_of_resumed resumed, bind_attempt_eq_ok] at ran
      obtain ⟨⟨fate, v⟩, inside, finished⟩ := ran
      rcases bind_eq_ok.1 finished with ⟨_, t, suspended, -⟩ | ⟨p, t, suspended, -⟩
      · obtain ⟨after, ⟨⟩⟩ := steady suspended
        have joined : h.finish active fate w v = .ok ⟨.returned (after, fate), t⟩ :=
          finish_run suspended fate
        obtain rfl := Except.ok.inj (joined.symm.trans finished)
        exact .passed resumed inside suspended
      · obtain ⟨_, ⟨⟩⟩ := steady suspended
    · rw [guarding_of_refused resumed] at ran
      cases ran
      exact .refused resumed
    · rw [guarding_of_lost resumed] at ran
      cases ran
      exact .lost resumed

/-- A guard halts only if its hook or its body does. -/
theorem Steady.guarding_ends {h : Hook ρ γ} (steady : h.Steady) (ends : h.Ends) (state : γ)
    {body : Action ρ α} (inside : body.Ends) : (h.guarding state body).Ends := by
  intro w s
  obtain ⟨⟨⟨active, ⟨⟩ | p⟩ | p, t⟩, resumed⟩ := ends.resume state w s
  · rw [guarding_of_resumed resumed]
    obtain ⟨⟨fate, u⟩, ran⟩ := inside w t
    obtain ⟨⟨turned, v⟩, suspended⟩ := ends.suspend active w u
    obtain ⟨after, rfl⟩ := steady suspended
    exact ⟨_, bind_attempt_eq_ok.2 ⟨_, ran, finish_run suspended fate⟩⟩
  · exact ⟨_, guarding_of_refused resumed body⟩
  · exact ⟨_, guarding_of_lost resumed body⟩

end Hook

/-! ## Programs and their beats -/

/-- What is noted. -/
inductive Beat (ι : Type) where
  /-- Resuming the hook returned. -/
  | resumed (hook : ι)
  /-- Resuming the hook panicked. -/
  | refused (hook : ι)
  /-- The hook was suspended. -/
  | suspended (hook : ι)
  /-- The code of the program runs, under guards over these hooks, the innermost first. -/
  | acted (live : List ι)
  deriving DecidableEq

/-- What a program keeps: what its code keeps, the states of the hooks that have no guard, and its
notes. -/
structure Memory (σ : Type) {ι : Type} (η : ι → Type) where
  own : σ
  states : (i : ι) → η i
  word : List (Beat ι)

/-- Code that does not know of the hooks. -/
def Action.apart (x : Action σ α) : Action (Memory σ η) α := fun w s =>
  match x w { s with rest := s.rest.own } with
  | .error halt => .error halt
  | .ok r => .ok ⟨r.fate, { r.world with rest := { s.rest with own := r.world.rest } }⟩

/-- Notes what happens. -/
def jot (beat : Beat ι) : Action (Memory σ η) Unit :=
  Action.modify fun _ s => { s with rest := { s.rest with word := s.rest.word ++ [beat] } }

/-- Keeps the state of a hook. -/
def putBack [DecidableEq ι] (i : ι) (state : η i) : Action (Memory σ η) Unit :=
  Action.modify fun _ s =>
    { s with rest := { s.rest with states := Function.update s.rest.states i state } }

/-- A hook whose calls are noted. A panic of it is reported, whichever way it comes. -/
def Hook.noting (h : Hook σ γ) (i : ι) : Hook (Memory σ η) γ where
  resume state := do
    match ← (h.resume state).apart.attempt with
    | .returned (active, .returned ()) =>
      jot (.resumed i)
      return (active, .returned ())
    | .returned (idle, .unwound p) =>
      jot (.refused i)
      return (idle, .unwound p)
    | .unwound p =>
      jot (.refused i)
      return (state, .unwound p)
  suspend state := do
    let turned ← (h.suspend state).apart
    jot (.suspended i)
    return turned

/-- A program with values `ν`, under guards over the hooks `live`. -/
inductive Program (σ : Type) {ι : Type} (η : ι → Type) (ν : Type) : List ι → Type where
  | value {live : List ι} (value : ν) : Program σ η ν live
  | panic {live : List ι} (panic : Panic) : Program σ η ν live
  /-- Runs code, which may look at the hooks that have no guard. -/
  | perform {live : List ι} (code : ((i : ι) → i ∉ live → η i) → Action σ ν)
      (next : ν → Program σ η ν live) : Program σ η ν live
  /-- Runs a body, and goes on however it ends. -/
  | catching {live : List ι} (body : Program σ η ν live) (next : Fate ν → Program σ η ν live) :
      Program σ η ν live
  /-- Runs a body under a guard over a hook that has none, and goes on with its value. -/
  | guard {live : List ι} (i : ι) (free : i ∉ live) (body : Program σ η ν (i :: live))
      (next : ν → Program σ η ν live) : Program σ η ν live

namespace Program

variable [DecidableEq ι] {live : List ι}

/-- Runs a program. A guard takes the state of its hook, and puts it back. -/
def exec (hooks : (i : ι) → Hook σ (η i)) : {live : List ι} → Program σ η ν live →
    Action (Memory σ η) ν
  | _, .value v => return v
  | _, .panic p => Action.panic p
  | live, .perform code next => do
    jot (.acted live)
    let states := (← Action.get).rest.states
    let v ← (code fun i _ => states i).apart
    (next v).exec hooks
  | _, .catching body next => do
    let fate ← (body.exec hooks).attempt
    (next fate).exec hooks
  | _, .guard i _ body next => do
    let state := (← Action.get).rest.states i
    let (state, fate) ← ((hooks i).noting i).guarding state (body.exec hooks)
    putBack i state
    let v ← Action.resume fate
    (next v).exec hooks

/-- Neither the code of a program nor what it goes on with halts. -/
def Ends : {live : List ι} → Program σ η ν live → Prop
  | _, .value _ | _, .panic _ => True
  | _, .perform code next => (∀ seen, (code seen).Ends) ∧ ∀ v, (next v).Ends
  | _, .catching body next => body.Ends ∧ ∀ fate, (next fate).Ends
  | _, .guard _ _ body next => body.Ends ∧ ∀ v, (next v).Ends

/-- What a program adds to the notes, by how its code and its hooks end, and how it ends itself. -/
inductive Adds : {live : List ι} → Program σ η ν live → List (Beat ι) → Fate ν → Prop where
  | value {live : List ι} (v : ν) : Adds (.value v : Program σ η ν live) [] (.returned v)
  | panic {live : List ι} (p : Panic) : Adds (.panic p : Program σ η ν live) [] (.unwound p)
  | performed {live : List ι} {code : ((i : ι) → i ∉ live → η i) → Action σ ν}
      {next : ν → Program σ η ν live} {word : List (Beat ι)} {fate : Fate ν} (v : ν)
      (after : Adds (next v) word fate) : Adds (.perform code next) (.acted live :: word) fate
  | unwound {live : List ι} {code : ((i : ι) → i ∉ live → η i) → Action σ ν}
      {next : ν → Program σ η ν live} (p : Panic) :
      Adds (.perform code next) [.acted live] (.unwound p)
  | caught {live : List ι} {body : Program σ η ν live} {next : Fate ν → Program σ η ν live}
      {inner word : List (Beat ι)} {ended fate : Fate ν} (inside : Adds body inner ended)
      (after : Adds (next ended) word fate) : Adds (.catching body next) (inner ++ word) fate
  /-- The hook panics when it is resumed: the body does not run, nothing is suspended, and the panic
  goes on. -/
  | refused {live : List ι} {i : ι} {free : i ∉ live} {body : Program σ η ν (i :: live)}
      {next : ν → Program σ η ν live} (p : Panic) :
      Adds (.guard i free body next) [.refused i] (.unwound p)
  /-- The body returns: the hook is suspended before the program goes on. -/
  | passed {live : List ι} {i : ι} {free : i ∉ live} {body : Program σ η ν (i :: live)}
      {next : ν → Program σ η ν live} {inner word : List (Beat ι)} {v : ν} {fate : Fate ν}
      (inside : Adds body inner (.returned v)) (after : Adds (next v) word fate) :
      Adds (.guard i free body next) (.resumed i :: (inner ++ .suspended i :: word)) fate
  /-- The body unwinds: the hook is suspended before the panic goes on. -/
  | unwinding {live : List ι} {i : ι} {free : i ∉ live} {body : Program σ η ν (i :: live)}
      {next : ν → Program σ η ν live} {inner : List (Beat ι)} {p : Panic}
      (inside : Adds body inner (.unwound p)) :
      Adds (.guard i free body next) (.resumed i :: (inner ++ [.suspended i])) (.unwound p)

end Program

/-! ## What a run notes -/

/-- Every run of `x` adds notes that go with its end. -/
def Action.Notes (x : Action (Memory σ η) α) (Q : List (Beat ι) → Fate α → Prop) : Prop :=
  ∀ ⦃w s r⦄, x w s = .ok r → ∃ word, r.world.rest.word = s.rest.word ++ word ∧ Q word r.fate

namespace Action.Notes

variable {x : Action (Memory σ η) α} {f : α → Action (Memory σ η) β}
  {Q : List (Beat ι) → Fate α → Prop} {R : List (Beat ι) → Fate β → Prop}

theorem bind (hx : Notes x Q)
    (hf : ∀ first a, Q first (.returned a) → Notes (f a) fun second => R (first ++ second))
    (hp : ∀ first p, Q first (.unwound p) → R first (.unwound p)) : Notes (x >>= f) R := by
  intro w s r ran
  rcases bind_eq_ok.1 ran with ⟨a, t, begun, after⟩ | ⟨p, t, begun, rfl⟩
  · obtain ⟨first, grown, noted⟩ := hx begun
    obtain ⟨second, grown', noted'⟩ := hf first a noted after
    refine ⟨first ++ second, ?_, noted'⟩
    rw [grown', grown, List.append_assoc]
  · obtain ⟨first, grown, noted⟩ := hx begun
    exact ⟨first, grown, hp first p noted⟩

theorem mono {Q' : List (Beat ι) → Fate α → Prop} (hx : Notes x Q)
    (sub : ∀ word fate, Q word fate → Q' word fate) : Notes x Q' := by
  intro w s r ran
  obtain ⟨word, grown, noted⟩ := hx ran
  exact ⟨word, grown, sub word r.fate noted⟩

/-- After code that returns and notes nothing. -/
theorem after (hx : Notes x fun word fate => word = [] ∧ ∃ a, fate = .returned a)
    (hf : ∀ a, Notes (f a) R) : Notes (x >>= f) R := by
  refine bind hx (fun first a quiet => ?_) ?_
  · obtain ⟨rfl, -⟩ := quiet
    exact hf a
  · rintro _ p ⟨-, _, ⟨⟩⟩

theorem attempt (hx : Notes x Q) :
    Notes x.attempt fun word fate => ∃ ended, fate = .returned ended ∧ Q word ended := by
  intro w s r ran
  obtain ⟨q, inner, rfl⟩ := attempt_eq_ok.1 ran
  obtain ⟨word, grown, noted⟩ := hx inner
  exact ⟨word, grown, q.fate, rfl, noted⟩

theorem pure (a : α) :
    Notes (Pure.pure a : Action (Memory σ η) α) fun word fate => word = [] ∧ fate = .returned a := by
  intro w s r ran
  obtain rfl := pure_eq_ok.1 ran
  exact ⟨[], (List.append_nil _).symm, rfl, rfl⟩

theorem resume (ended : Fate α) :
    Notes (Action.resume ended : Action (Memory σ η) α) fun word fate =>
      word = [] ∧ fate = ended := by
  intro w s r ran
  rw [resume_run] at ran
  cases ran
  exact ⟨[], (List.append_nil _).symm, rfl, rfl⟩

theorem jot (beat : Beat ι) :
    Notes (jot beat : Action (Memory σ η) Unit) fun word fate =>
      word = [beat] ∧ fate = .returned () := by
  intro w s r ran
  obtain rfl := Except.ok.inj ran
  exact ⟨[beat], rfl, rfl, rfl⟩

/-- Reading notes nothing. -/
theorem get : Notes (Action.get : Action (Memory σ η) _) fun word fate =>
    word = [] ∧ ∃ s, fate = .returned s := by
  intro w s r ran
  obtain rfl := Except.ok.inj ran
  exact ⟨[], (List.append_nil _).symm, rfl, s, rfl⟩

theorem putBack [DecidableEq ι] (i : ι) (state : η i) :
    Notes (putBack i state : Action (Memory σ η) Unit) fun word fate =>
      word = [] ∧ ∃ a, fate = .returned a := by
  intro w s r ran
  obtain rfl := Except.ok.inj ran
  exact ⟨[], (List.append_nil _).symm, rfl, (), rfl⟩

/-- Code that does not know of the hooks notes nothing, and ends as it does without them. -/
theorem apart (x : Action σ α) :
    Notes (x.apart : Action (Memory σ η) α) fun word fate =>
      word = [] ∧ ∃ w s t, x w s = .ok ⟨fate, t⟩ := by
  intro w s r ran
  unfold Action.apart at ran
  split at ran
  · cases ran
  · next q alone =>
    cases ran
    exact ⟨[], (List.append_nil _).symm, rfl, w, _, q.world, alone⟩

end Action.Notes

theorem Action.Ends.apart {x : Action σ α} (ends : x.Ends) :
    (x.apart : Action (Memory σ η) α).Ends := by
  intro w s
  obtain ⟨r, ran⟩ := ends w { s with rest := s.rest.own }
  unfold Action.apart
  rw [ran]
  exact ⟨_, rfl⟩

/-- Reading the memory ends. -/
theorem Action.Ends.get : (Action.get : Action ρ (World ρ)).Ends :=
  fun _ s => ⟨⟨.returned s, s⟩, rfl⟩

theorem putBack_ends [DecidableEq ι] (i : ι) (state : η i) :
    (putBack i state : Action (Memory σ η) Unit).Ends :=
  fun _ _ => ⟨_, rfl⟩

theorem jot_ends (beat : Beat ι) : (jot beat : Action (Memory σ η) Unit).Ends :=
  fun _ _ => ⟨_, rfl⟩

namespace Hook

variable {h : Hook σ γ} {i : ι}

/-- Resuming notes how it went, and reports it. -/
theorem noting_resume_notes (h : Hook σ γ) (i : ι) (state : γ) :
    Notes ((h.noting i).resume state : Action (Memory σ η) (γ × Fate Unit)) fun word fate =>
      (∃ active, fate = .returned (active, .returned ()) ∧ word = [.resumed i]) ∨
      ∃ idle p, fate = .returned (idle, .unwound p) ∧ word = [.refused i] := by
  have told (beat : Beat ι) (a : γ × Fate Unit) :
      Notes (do jot beat; return a : Action (Memory σ η) (γ × Fate Unit)) fun word fate =>
        fate = .returned a ∧ word = [beat] := by
    refine (Notes.jot beat).bind ?_ nofun
    rintro _ _ ⟨rfl, -⟩
    refine (Notes.pure a).mono ?_
    rintro _ _ ⟨rfl, rfl⟩
    exact ⟨rfl, rfl⟩
  refine (Notes.apart (h.resume state)).attempt.bind ?_ (by rintro _ p ⟨_, ⟨⟩, -⟩)
  rintro _ ended ⟨_, -, rfl, -⟩
  rcases ended with ⟨active, ⟨⟩ | p⟩ | p
  · exact (told (.resumed i) _).mono fun _ _ noted => .inl ⟨active, noted⟩
  · exact (told (.refused i) _).mono fun _ _ noted => .inr ⟨active, p, noted⟩
  · exact (told (.refused i) _).mono fun _ _ noted => .inr ⟨state, p, noted⟩

/-- A steady hook is suspended, and that is noted. -/
theorem Steady.noting_suspend_notes (steady : h.Steady) (i : ι) (state : γ) :
    Notes ((h.noting i).suspend state : Action (Memory σ η) (γ × Fate Unit)) fun word fate =>
      word = [.suspended i] ∧ ∃ after, fate = .returned (after, .returned ()) := by
  refine (Notes.apart (h.suspend state)).bind ?_ ?_
  · rintro _ turned ⟨rfl, w, s, t, ran⟩
    obtain ⟨after, ⟨⟩⟩ := steady ran
    refine (Notes.jot (.suspended i)).bind ?_ nofun
    rintro _ _ ⟨rfl, -⟩
    refine (Notes.pure (after, Fate.returned ())).mono ?_
    rintro _ _ ⟨rfl, rfl⟩
    exact ⟨rfl, after, rfl⟩
  · rintro _ p ⟨-, w, s, t, ran⟩
    obtain ⟨after, ⟨⟩⟩ := steady ran

theorem Steady.noting (steady : h.Steady) (i : ι) :
    (h.noting i : Hook (Memory σ η) γ).Steady := by
  intro state w s r ran
  obtain ⟨_, _, _, returned⟩ := steady.noting_suspend_notes i state ran
  exact returned

theorem Ends.noting (ends : h.Ends) (i : ι) : (h.noting i : Hook (Memory σ η) γ).Ends where
  resume state := by
    refine (ends.resume state).apart.attempt.bind ?_
    rintro (⟨active, ⟨⟩ | p⟩ | p)
    · exact (jot_ends _).bind fun _ => .pure _
    · exact (jot_ends _).bind fun _ => .pure _
    · exact (jot_ends _).bind fun _ => .pure _
  suspend state :=
    (ends.suspend state).apart.bind fun turned => (jot_ends _).bind fun _ => .pure turned

/-- A guard notes that its hook refused; or it notes a resume, what the body notes, and a suspend,
and ends as the body did. -/
theorem Steady.noting_guarding_notes (steady : h.Steady) (i : ι) (state : γ)
    {body : Action (Memory σ η) α} {Q : List (Beat ι) → Fate α → Prop} (inside : Notes body Q) :
    Notes ((h.noting i).guarding state body) fun word fate =>
      (∃ idle p, fate = .returned (idle, .unwound p) ∧ word = [.refused i]) ∨
      ∃ after ended inner, fate = .returned (after, ended) ∧
        word = .resumed i :: (inner ++ [.suspended i]) ∧ Q inner ended := by
  rintro w s ⟨fate, t⟩ ran
  cases (steady.noting i).guards ran with
  | refused resumed =>
    obtain ⟨_, grown, ⟨_, ⟨⟩, -⟩ | ⟨idle, p, ⟨⟩, rfl⟩⟩ := noting_resume_notes h i state resumed
    exact ⟨_, grown, .inl ⟨_, _, rfl, rfl⟩⟩
  | lost resumed =>
    obtain ⟨_, _, ⟨_, ⟨⟩, -⟩ | ⟨_, _, ⟨⟩, -⟩⟩ := noting_resume_notes h i state resumed
  | passed resumed between suspended =>
    obtain ⟨_, first, ⟨_, -, rfl⟩ | ⟨_, _, ⟨⟩, -⟩⟩ := noting_resume_notes h i state resumed
    obtain ⟨inner, second, noted⟩ := inside between
    obtain ⟨_, third, rfl, -⟩ := steady.noting_suspend_notes i _ suspended
    refine ⟨.resumed i :: (inner ++ [.suspended i]), ?_, .inr ⟨_, _, inner, rfl, rfl, noted⟩⟩
    simp only at first second third
    rw [third, second, first, List.append_assoc, List.append_assoc]
    rfl

end Hook

namespace Program

variable [DecidableEq ι] {live : List ι} {hooks : (i : ι) → Hook σ (η i)}

/-- What a run of a program notes is what the program adds. -/
theorem exec_notes (steady : ∀ i, (hooks i).Steady) (prog : Program σ η ν live) :
    Notes (prog.exec hooks) prog.Adds := by
  induction prog with
  | value v =>
    refine (Notes.pure v).mono ?_
    rintro _ _ ⟨rfl, rfl⟩
    exact .value v
  | panic p =>
    refine (Notes.resume (.unwound p)).mono ?_
    rintro _ _ ⟨rfl, rfl⟩
    exact .panic p
  | @perform live code next ih =>
    -- the note comes before the code, so it is there even if the code unwinds
    refine (Notes.jot (.acted live)).bind ?_ nofun
    rintro _ _ ⟨rfl, -⟩
    refine Notes.get.after fun found => (Notes.apart _).bind ?_ ?_
    · rintro _ v ⟨rfl, -⟩
      exact (ih v).mono fun _ _ after => .performed v after
    · rintro _ p ⟨rfl, -⟩
      exact .unwound p
  | catching body next ihBody ihNext =>
    refine ihBody.attempt.bind ?_ (by rintro _ p ⟨_, ⟨⟩, -⟩)
    rintro inner ended ⟨_, ⟨⟩, inside⟩
    exact (ihNext ended).mono fun _ _ after => .caught inside after
  | guard i free body next ihBody ihNext =>
    refine Notes.get.after fun found => ?_
    refine ((steady i).noting_guarding_notes i (found.rest.states i) ihBody).bind ?_ ?_
    · rintro _ _ (⟨idle, p, ⟨⟩, rfl⟩ | ⟨after, ended, inner, ⟨⟩, rfl, inside⟩)
      · refine (Notes.putBack i _).after fun _ => (Notes.resume (.unwound p)).bind ?_ ?_
        · rintro _ _ ⟨-, ⟨⟩⟩
        · rintro _ _ ⟨rfl, ⟨⟩⟩
          exact .refused p
      · refine (Notes.putBack i _).after fun _ => (Notes.resume ended).bind ?_ ?_
        · rintro _ v ⟨rfl, rfl⟩
          refine (ihNext v).mono fun word fate after => ?_
          rw [List.nil_append, List.cons_append, List.append_assoc]
          exact .passed inside after
        · rintro _ p ⟨rfl, rfl⟩
          rw [List.append_nil]
          exact .unwinding inside
    · rintro _ p (⟨_, _, ⟨⟩, -⟩ | ⟨_, _, _, ⟨⟩, -⟩)

/-- A program ends, unless its code or a hook halts. -/
theorem exec_ends (steady : ∀ i, (hooks i).Steady) (ends : ∀ i, (hooks i).Ends)
    {prog : Program σ η ν live} (runs : prog.Ends) : (prog.exec hooks).Ends := by
  induction prog with
  | value v => exact .pure v
  | panic p => exact .resume (.unwound p)
  | perform code next ih =>
    obtain ⟨codeEnds, nextEnds⟩ := runs
    exact (jot_ends _).bind fun _ => Action.Ends.get.bind fun _ =>
      (codeEnds _).apart.bind fun v => ih v (nextEnds v)
  | catching body next ihBody ihNext =>
    obtain ⟨bodyEnds, nextEnds⟩ := runs
    exact (ihBody bodyEnds).attempt.bind fun fate => ihNext fate (nextEnds fate)
  | guard i free body next ihBody ihNext =>
    obtain ⟨bodyEnds, nextEnds⟩ := runs
    have guarded (state : η i) : (((hooks i).noting i).guarding state (body.exec hooks)).Ends :=
      ((steady i).noting i).guarding_ends ((ends i).noting i) state (ihBody bodyEnds)
    exact Action.Ends.get.bind fun _ => (guarded _).bind fun ended =>
      (putBack_ends i ended.1).bind fun _ => (Action.Ends.resume ended.2).bind fun v =>
        ihNext v (nextEnds v)

end Program

end AmbientTx
