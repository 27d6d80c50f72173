import AmbientTx.Proofs.Action

/-! # Two runs side by side

Two pieces of code are coupled if, run on the same worker in worlds that are related, they halt for
the same reason or end the same way: what they return is related again, and so are the worlds that
they leave (`Action.Coupled`). Coupling goes through all combinators. Where the code that follows is
coupled only after what really ran, `Action.Paired` speaks about two given runs.
-/

namespace AmbientTx

variable {ρ α α' β β' : Type} {w : Worker} {s t : World ρ}

/-- The same way to end, with values that are related. -/
inductive Fate.Like (B : α → α' → Prop) : Fate α → Fate α' → Prop where
  | returned {a : α} {a' : α'} (values : B a a') : Like B (.returned a) (.returned a')
  | unwound (p : Panic) : Like B (.unwound p) (.unwound p)

namespace Fate.Like

theorem refl (fate : Fate α) : Like Eq fate fate := by
  cases fate with
  | returned a => exact .returned rfl
  | unwound p => exact .unwound p

theorem eq {fate fate' : Fate α} (h : Like Eq fate fate') : fate' = fate := by
  cases h with
  | returned same => rw [same]
  | unwound p => rfl

theorem mono {B B' : α → α' → Prop} {fate : Fate α} {fate' : Fate α'} (h : Like B fate fate')
    (sub : ∀ a a', B a a' → B' a a') : Like B' fate fate' := by
  cases h with
  | returned values => exact .returned (sub _ _ values)
  | unwound p => exact .unwound p

end Fate.Like

namespace Action

/-- Two runs halt for the same reason, or end the same way: `B` relates what they return, and `A`
the worlds that they leave. -/
inductive Paired (A : World ρ → World ρ → Prop) (B : α → α' → Prop) :
    Except Halt (Ran ρ α) → Except Halt (Ran ρ α') → Prop where
  | halted (h : Halt) : Paired A B (.error h) (.error h)
  | ended {fate : Fate α} {fate' : Fate α'} {s t : World ρ} (fates : Fate.Like B fate fate')
      (worlds : A s t) : Paired A B (.ok ⟨fate, s⟩) (.ok ⟨fate', t⟩)

/-- Runs on `w` from worlds that `A` relates end so that `B` relates what they return, and `A` the
worlds again. -/
def Coupled (w : Worker) (A : World ρ → World ρ → Prop) (B : α → α' → Prop) (x : Action ρ α)
    (y : Action ρ α') : Prop :=
  ∀ ⦃s t⦄, A s t → Paired A B (x w s) (y w t)

variable {A : World ρ → World ρ → Prop} {B : α → α' → Prop} {C : β → β' → Prop}
  {x : Action ρ α} {y : Action ρ α'} {f : α → Action ρ β} {g : α' → Action ρ β'}

namespace Paired

theorem returned {a : α} {a' : α'} (values : B a a') (worlds : A s t) :
    Paired A B (.ok ⟨.returned a, s⟩) (.ok ⟨.returned a', t⟩) :=
  .ended (.returned values) worlds

theorem mono {B' : α → α' → Prop} {r : Except Halt (Ran ρ α)} {q : Except Halt (Ran ρ α')}
    (h : Paired A B r q) (sub : ∀ a a', B a a' → B' a a') : Paired A B' r q := by
  cases h with
  | halted h => exact .halted h
  | ended fates worlds => exact .ended (fates.mono sub) worlds

/-- What goes on after two runs may rely on how the first of them ran. -/
theorem bind (first : Paired A B (x w s) (y w t))
    (next : ∀ a a' s' t', x w s = .ok ⟨.returned a, s'⟩ → B a a' → A s' t' →
      Paired A C (f a w s') (g a' w t')) :
    Paired A C ((x >>= f) w s) ((y >>= g) w t) := by
  rw [bind_run, bind_run]
  generalize ranx : x w s = r at first
  generalize y w t = q at first
  cases first with
  | halted h => exact .halted h
  | ended fates worlds =>
    cases fates with
    | returned values => exact next _ _ _ _ ranx values worlds
    | unwound p => exact .ended (.unwound p) worlds

theorem attempt (ends : Paired A B (x w s) (y w t)) :
    Paired A (Fate.Like B) (x.attempt w s) (y.attempt w t) := by
  unfold Action.attempt
  generalize x w s = r at ends
  generalize y w t = q at ends
  cases ends with
  | halted h => exact .halted h
  | ended fates worlds => exact .returned fates worlds

end Paired

namespace Coupled

theorem mono {B' : α → α' → Prop} (h : Coupled w A B x y) (sub : ∀ a a', B a a' → B' a a') :
    Coupled w A B' x y :=
  fun _ _ worlds => (h worlds).mono sub

theorem pure {a : α} {a' : α'} (values : B a a') :
    Coupled w A B (Pure.pure a) (Pure.pure a') :=
  fun _ _ worlds => .returned values worlds

theorem panic (p : Panic) : Coupled w A B (Action.panic p) (Action.panic p) :=
  fun _ _ worlds => .ended (.unwound p) worlds

theorem bind (hx : Coupled w A B x y) (hf : ∀ a a', B a a' → Coupled w A C (f a) (g a')) :
    Coupled w A C (x >>= f) (y >>= g) :=
  fun _ _ worlds => (hx worlds).bind fun a a' _ _ _ values worlds => hf a a' values worlds

/-- The code that goes on gets the same value in both runs. -/
theorem bind_eq {x y : Action ρ α} {f : α → Action ρ β} {g : α → Action ρ β'}
    (hx : Coupled w A Eq x y) (hf : ∀ a, Coupled w A C (f a) (g a)) :
    Coupled w A C (x >>= f) (y >>= g) := by
  refine hx.bind ?_
  rintro a _ rfl
  exact hf a

theorem attempt (hx : Coupled w A B x y) :
    Coupled w A (Fate.Like B) x.attempt y.attempt :=
  fun _ _ worlds => (hx worlds).attempt

theorem resume {fate : Fate α} {fate' : Fate α'} (fates : Fate.Like B fate fate') :
    Coupled w A B (Action.resume fate) (Action.resume fate') := by
  cases fates with
  | returned values => exact pure values
  | unwound p => exact panic p

theorem settle {fate : Fate α} {fate' : Fate α'} (fates : Fate.Like B fate fate')
    (after : Fate Unit) :
    Coupled w A (Fate.Like B) (Action.settle fate after) (Action.settle fate' after) := by
  cases after with
  | returned u => exact pure fates
  | unwound p =>
    cases fates with
    | returned values => exact pure (.unwound p)
    | unwound q => exact fun _ _ _ => .halted .aborted

theorem ensuring {cleanup cleanup' : Action ρ Unit} (hx : Coupled w A B x y)
    (hc : Coupled w A Eq cleanup cleanup') :
    Coupled w A B (x.ensuring cleanup) (y.ensuring cleanup') := by
  refine hx.attempt.bind fun fate fate' fates => hc.attempt.bind fun after after' same => ?_
  obtain rfl := same.eq
  exact (settle fates after').bind fun _ _ joined => resume joined

end Coupled
end Action
end AmbientTx
