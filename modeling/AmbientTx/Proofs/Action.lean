import AmbientTx.World.Action

/-! # Reasoning about runs

What can be said about every run of an action, and how it follows for actions that are built from
others.

* `Action.Keeps R x`: however a run of `x` ends, `R` relates the world before it to the world after.
* `Action.Calm R x`: every run of `x` returns, and `R` relates the two worlds. Nothing that a worker
  does to its own slot panics or halts, so most of the library is calm.
* `Action.Triple w P x Q`: if `P` holds before a run of `x` on `w`, then `Q` holds of its end and of
  the world after it.

`R` also sees the worker of the run. The first two predicates compose for a relation that is closed
under repetition (`Repeats R`).
-/

namespace AmbientTx

variable {ρ α β : Type}

/-- A relation between the worlds before and after some code of a worker. -/
abbrev Effect (ρ : Type) := Worker → World ρ → World ρ → Prop

/-- An effect that may happen any number of times. -/
structure Repeats (R : Effect ρ) : Prop where
  refl : ∀ w s, R w s s
  trans : ∀ {w s t u}, R w s t → R w t u → R w s u

namespace Action

variable {R : Effect ρ} {x : Action ρ α} {f : α → Action ρ β} {w : Worker} {s : World ρ}

/-! ## How combinators run -/

theorem pure_eq_ok {a : α} {r : Ran ρ α} :
    (Pure.pure a : Action ρ α) w s = .ok r ↔ r = ⟨.returned a, s⟩ := by
  rw [pure_run]
  constructor
  · intro h
    exact (Except.ok.inj h).symm
  · rintro rfl
    rfl

theorem resume_run (fate : Fate α) (w : Worker) (s : World ρ) :
    Action.resume fate w s = .ok ⟨fate, s⟩ := by
  cases fate <;> rfl

/-- A run of one action after another: the first returned, or it unwound and the second did not
run. -/
theorem bind_eq_ok {r : Ran ρ β} :
    (x >>= f) w s = .ok r ↔
      (∃ a t, x w s = .ok ⟨.returned a, t⟩ ∧ f a w t = .ok r) ∨
      (∃ p t, x w s = .ok ⟨.unwound p, t⟩ ∧ r = ⟨.unwound p, t⟩) := by
  rw [bind_run]
  rcases x w s with h | ⟨a | p, t⟩
  · simp
  · constructor
    · intro h
      exact .inl ⟨a, t, rfl, h⟩
    · rintro (⟨a', t', ht, h⟩ | ⟨p', t', ht, -⟩)
      · cases ht
        exact h
      · cases ht
  · constructor
    · intro h
      exact .inr ⟨p, t, rfl, (Except.ok.inj h).symm⟩
    · rintro (⟨a', t', ht, -⟩ | ⟨p', t', ht, rfl⟩)
      · cases ht
      · cases ht
        rfl

/-- Only the run of the first action counts. -/
theorem bind_congr_left {y : Action ρ α} (same : x w s = y w s) (f : α → Action ρ β) :
    (x >>= f) w s = (y >>= f) w s := by
  rw [bind_run, bind_run, same]

/-- Only if the first action returns does the second. -/
theorem bind_eq_returned {b : β} {t : World ρ} :
    (x >>= f) w s = .ok ⟨.returned b, t⟩ ↔
      ∃ a u, x w s = .ok ⟨.returned a, u⟩ ∧ f a w u = .ok ⟨.returned b, t⟩ := by
  rw [bind_eq_ok]
  constructor
  · rintro (⟨a, u, first, second⟩ | ⟨p, u, -, stopped⟩)
    · exact ⟨a, u, first, second⟩
    · cases stopped
  · rintro ⟨a, u, first, second⟩
    exact .inl ⟨a, u, first, second⟩

/-- A run of an action whose value is mapped. -/
theorem map_eq_ok {g : α → β} {r : Ran ρ β} :
    (x >>= fun a => Pure.pure (g a)) w s = .ok r ↔
      ∃ q, x w s = .ok q ∧ r = ⟨q.fate.map g, q.world⟩ := by
  rw [bind_run]
  rcases x w s with h | ⟨a | p, t⟩
  · simp
  · simp [Fate.map, eq_comm, pure_run]
  · simp [Fate.map, eq_comm]

theorem attempt_congr {y : Action ρ α} (same : x w s = y w s) :
    x.attempt w s = y.attempt w s := by
  unfold attempt
  rw [same]

theorem attempt_eq_ok {r : Ran ρ (Fate α)} :
    x.attempt w s = .ok r ↔ ∃ q, x w s = .ok q ∧ r = ⟨.returned q.fate, q.world⟩ := by
  unfold attempt
  rcases x w s with h | q
  · simp
  · simp [eq_comm]

/-- Code that goes on with the end of what ran before it. -/
theorem bind_attempt_eq_ok {g : Fate α → Action ρ β} {r : Ran ρ β} :
    (x.attempt >>= g) w s = .ok r ↔ ∃ q, x w s = .ok q ∧ g q.fate w q.world = .ok r := by
  rw [bind_run]
  unfold attempt
  rcases x w s with h | q
  · simp
  · simp

/-- Clean-up that returns leaves the end of the code as it is. -/
theorem ensuring_of_returned {cleanup : Action ρ Unit} {fate : Fate α} {t u : World ρ}
    (ran : x w s = .ok ⟨fate, t⟩) (cleaned : cleanup w t = .ok ⟨.returned (), u⟩) :
    x.ensuring cleanup w s = .ok ⟨fate, u⟩ := by
  rw [Action.ensuring, bind_of_returned (attempt_of_ran ran),
    bind_of_returned (attempt_of_ran cleaned)]
  cases fate <;> rfl

/-- Code with clean-up ends in the world that the clean-up leaves, or aborts. -/
theorem ensuring_ends {cleanup : Action ρ Unit} {fate : Fate α} {after : Fate Unit}
    {t u : World ρ} (ran : x w s = .ok ⟨fate, t⟩) (cleaned : cleanup w t = .ok ⟨after, u⟩) :
    (∃ fate', x.ensuring cleanup w s = .ok ⟨fate', u⟩) ∨
      x.ensuring cleanup w s = .error .aborted := by
  rw [Action.ensuring, bind_of_returned (attempt_of_ran ran),
    bind_of_returned (attempt_of_ran cleaned)]
  cases after with
  | returned _ => cases fate <;> exact .inl ⟨_, rfl⟩
  | unwound q =>
    cases fate with
    | returned a => exact .inl ⟨_, rfl⟩
    | unwound p => exact .inr rfl

/-- Joining two ends leaves the world alone, and never panics. -/
theorem settle_eq_ok {fate : Fate α} {after : Fate Unit} {r : Ran ρ (Fate α)}
    (h : (settle fate after : Action ρ (Fate α)) w s = .ok r) :
    r.world = s ∧
      ((after = .returned () ∧ r.fate = .returned fate) ∨
        ∃ a p, fate = .returned a ∧ after = .unwound p ∧ r.fate = .returned (.unwound p)) := by
  rcases after with ⟨⟩ | p
  · obtain rfl := pure_eq_ok.1 h
    exact ⟨rfl, .inl ⟨rfl, rfl⟩⟩
  · rcases fate with a | q
    · obtain rfl := pure_eq_ok.1 h
      exact ⟨rfl, .inr ⟨a, p, rfl, rfl, rfl⟩⟩
    · cases h

/-! ## What every run keeps -/

/-- However a run ends, `R` relates the worlds before and after it. -/
def Keeps (R : Effect ρ) (x : Action ρ α) : Prop :=
  ∀ ⦃w s r⦄, x w s = .ok r → R w s r.world

namespace Keeps

theorem mono {R' : Effect ρ} (sub : ∀ {w s t}, R w s t → R' w s t) (h : Keeps R x) :
    Keeps R' x :=
  fun _ _ _ ran => sub (h ran)

theorem pure (rep : Repeats R) (a : α) : Keeps R (Pure.pure a) := by
  intro w s r ran
  obtain rfl := pure_eq_ok.1 ran
  exact rep.refl w s

theorem panic (rep : Repeats R) (p : Panic) : Keeps R (Action.panic p : Action ρ α) := by
  intro w s r ran
  obtain rfl := Except.ok.inj ran
  exact rep.refl w s

theorem bind (rep : Repeats R) (hx : Keeps R x) (hf : ∀ a, Keeps R (f a)) :
    Keeps R (x >>= f) := by
  intro w s r ran
  rcases bind_eq_ok.1 ran with ⟨a, t, hxt, hft⟩ | ⟨p, t, hxt, rfl⟩
  · exact rep.trans (hx hxt) (hf a hft)
  · exact hx hxt

theorem attempt (hx : Keeps R x) : Keeps R x.attempt := by
  intro w s r ran
  obtain ⟨q, hq, rfl⟩ := attempt_eq_ok.1 ran
  exact hx hq

theorem resume (rep : Repeats R) (fate : Fate α) : Keeps R (Action.resume fate) := by
  cases fate with
  | returned a => exact pure rep a
  | unwound p => exact panic rep p

theorem settle (rep : Repeats R) (fate : Fate α) (after : Fate Unit) :
    Keeps R (Action.settle fate after) := by
  intro w s r ran
  rw [(settle_eq_ok ran).1]
  exact rep.refl w s

theorem ensuring (rep : Repeats R) (hx : Keeps R x) {cleanup : Action ρ Unit}
    (hc : Keeps R cleanup) : Keeps R (x.ensuring cleanup) :=
  bind rep (attempt hx) fun fate => bind rep (attempt hc) fun after =>
    bind rep (settle rep fate after) fun joined => resume rep joined

end Keeps

/-! ## Actions that always return -/

/-- Every run returns, and `R` relates the worlds before and after it. -/
def Calm (R : Effect ρ) (x : Action ρ α) : Prop :=
  ∀ w s, ∃ a t, x w s = .ok ⟨.returned a, t⟩ ∧ R w s t

namespace Calm

theorem keeps (h : Calm R x) : Keeps R x := by
  intro w s r ran
  obtain ⟨a, t, hx, hR⟩ := h w s
  obtain rfl := Except.ok.inj (hx.symm.trans ran)
  exact hR

theorem mono {R' : Effect ρ} (sub : ∀ {w s t}, R w s t → R' w s t) (h : Calm R x) :
    Calm R' x := by
  intro w s
  obtain ⟨a, t, hx, hR⟩ := h w s
  exact ⟨a, t, hx, sub hR⟩

theorem pure (rep : Repeats R) (a : α) : Calm R (Pure.pure a) :=
  fun w s => ⟨a, s, rfl, rep.refl w s⟩

/-- An action that only reads leaves the world as it is. -/
theorem read (rep : Repeats R) (g : Worker → World ρ → α)
    (hx : ∀ w s, x w s = .ok ⟨.returned (g w s), s⟩) : Calm R x :=
  fun w s => ⟨g w s, s, hx w s, rep.refl w s⟩

theorem modify {g : Worker → World ρ → World ρ} (hg : ∀ w s, R w s (g w s)) :
    Calm R (Action.modify g) :=
  fun w s => ⟨(), g w s, rfl, hg w s⟩

theorem bind (rep : Repeats R) (hx : Calm R x) (hf : ∀ a, Calm R (f a)) : Calm R (x >>= f) := by
  intro w s
  obtain ⟨a, t, hxt, hR⟩ := hx w s
  obtain ⟨b, u, hfu, hR'⟩ := hf a w t
  exact ⟨b, u, by rw [bind_of_returned hxt, hfu], rep.trans hR hR'⟩

end Calm

/-! ## Before and after -/

/-- If `P` holds before a run of `x` on `w`, then `Q` holds of its end and of the world after it. -/
def Triple (w : Worker) (P : World ρ → Prop) (x : Action ρ α) (Q : Fate α → World ρ → Prop) :
    Prop :=
  ∀ ⦃s r⦄, P s → x w s = .ok r → Q r.fate r.world

namespace Triple

variable {P : World ρ → Prop} {Q : Fate α → World ρ → Prop} {M : World ρ → Prop}

theorem of_imp {P' : World ρ → Prop} (sub : ∀ s, P' s → P s) (h : Triple w P x Q) :
    Triple w P' x Q :=
  fun _ _ hP ran => h (sub _ hP) ran

theorem pure {a : α} (h : ∀ s, P s → Q (.returned a) s) :
    Triple w P (Pure.pure a : Action ρ α) Q := by
  intro s r hP ran
  obtain rfl := pure_eq_ok.1 ran
  exact h s hP

theorem panic {p : Panic} (h : ∀ s, P s → Q (.unwound p) s) :
    Triple w P (Action.panic p : Action ρ α) Q := by
  intro s r hP ran
  obtain rfl := Except.ok.inj ran
  exact h s hP

theorem bind {N : Fate α → World ρ → Prop} {Q : Fate β → World ρ → Prop}
    (hx : Triple w P x N) (hf : ∀ a, Triple w (N (.returned a)) (f a) Q)
    (hp : ∀ p s, N (.unwound p) s → Q (.unwound p) s) : Triple w P (x >>= f) Q := by
  intro s r hP ran
  rcases bind_eq_ok.1 ran with ⟨a, t, hxt, hft⟩ | ⟨p, t, hxt, rfl⟩
  · exact hf a (hx hP hxt) hft
  · exact hp p t (hx hP hxt)

theorem resume {fate : Fate α} (h : ∀ s, P s → Q fate s) :
    Triple w P (Action.resume fate : Action ρ α) Q := by
  cases fate with
  | returned a => exact pure h
  | unwound p => exact panic h

/-- Joining two ends gives the first of them, or a panic. -/
theorem settle {fate : Fate α} {after : Fate Unit} {Q : Fate (Fate α) → World ρ → Prop}
    (h : ∀ s, P s → Q (.returned fate) s) (hp : ∀ p s, P s → Q (.returned (.unwound p)) s) :
    Triple w P (Action.settle fate after) Q := by
  intro s r hP ran
  obtain ⟨hworld, ⟨-, hfate⟩ | ⟨a, p, -, -, hfate⟩⟩ := settle_eq_ok ran
  · rw [hworld, hfate]
    exact h s hP
  · rw [hworld, hfate]
    exact hp p s hP

/-- Catching an end: what held of it holds of the world that it left. -/
theorem bind_attempt {g : Fate α → Action ρ β} {Q : Fate β → World ρ → Prop}
    {N : Fate α → World ρ → Prop} (hx : Triple w P x N)
    (hg : ∀ fate, Triple w (N fate) (g fate) Q) : Triple w P (x.attempt >>= g) Q := by
  intro s r hP ran
  obtain ⟨q, hq, hgq⟩ := bind_attempt_eq_ok.1 ran
  exact hg _ (hx hP hq) hgq

/-- A clean-up that leads from `M` to `N` does so however the code ended. -/
theorem ensuring {cleanup : Action ρ Unit} {N : World ρ → Prop}
    (hx : Triple w P x fun _ => M) (hc : Triple w M cleanup fun _ => N) :
    Triple w P (x.ensuring cleanup) fun _ => N := by
  have joined (fate : Fate α) (after : Fate Unit) :
      Triple w N (Action.settle fate after) fun _ => N :=
    settle (fun _ h => h) fun _ _ h => h
  have raised (fate : Fate α) : Triple w N (Action.resume fate) fun _ => N :=
    resume fun _ h => h
  exact bind_attempt hx fun fate => bind_attempt hc fun after =>
    bind (joined fate after) raised fun _ _ h => h

/-- A calm action that keeps the precondition can be skipped. -/
theorem bind_calm {Q : Fate β → World ρ → Prop} (hx : Calm R x)
    (keep : ∀ {w s t}, R w s t → P s → P t) (hf : ∀ a, Triple w P (f a) Q) :
    Triple w P (x >>= f) Q := by
  intro s r hP ran
  obtain ⟨a, t, hxt, hR⟩ := hx w s
  rw [bind_of_returned hxt] at ran
  exact hf a (keep hR hP) ran

/-- What is kept by an effect holds afterwards if it held before. -/
theorem of_keeps (h : Keeps R x) (keep : ∀ {w s t}, R w s t → P s → P t) :
    Triple w P x fun _ => P :=
  fun _ _ hP ran => keep (h ran) hP

end Triple

end Action
end AmbientTx
