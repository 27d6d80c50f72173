import AmbientTx.Task

/-! # Stays

While a worker runs the code of a client, it is in the middle of a stay: a guard holds a scope
active, a call runs its business, or a task is polled. What the library does when a stay begins and
when it ends is told apart here for polls: on the way in a poll resumes the carriers of the task one
after the other until it reaches the future inside, and on the way out it suspends them in reverse.
`Task.poll_eq` says that a poll is just that.
-/

namespace AmbientTx

/-- A layer of a task that is being polled: an active carrier, and the call whose business it
carries, if it carries one. -/
structure Layer where
  carrier : Carrier
  part : Option Part
  deriving DecidableEq

/-- How far a poll came on the way in. -/
inductive Reached (κ α : Type) where
  /-- The future inside is polled next. -/
  | inside (future : κ)
  /-- The poll of what is inside ended already. -/
  | ended (polled : Polled κ α)

/-- What a worker is in the middle of. -/
inductive Stay where
  /-- A body under a guard over this scope. -/
  | guarded (scope : Scope)
  /-- The business of a call. -/
  | call (part : Part)
  /-- The future inside a task with these layers, the outermost first. -/
  | poll (layers : List Layer)
  deriving DecidableEq

namespace Task

variable {ρ κ α : Type}

/-- What becomes of a carried task after a poll, once its carrier is suspended. -/
def settleUnder (part : Option Part) (carrier : Carrier) (polled : Polled κ α) :
    Action ρ (Polled κ α) :=
  match part with
  | none => return (.carried carrier polled.1, polled.2)
  | some part => afterBusiness part carrier polled

/-- Resumes a carrier on the way in, given how to go on with what is inside. -/
def reachUnder (part : Option Part) (carrier : Carrier) (inner : Task κ)
    (reach : Action ρ (List Layer × Reached κ α)) : Action ρ (List Layer × Reached κ α) := do
  match ← Carrier.hook.resume carrier with
  | (carrier, .unwound p) => return ([], .ended (← settleUnder part carrier (inner, .unwound p)))
  | (carrier, .returned ()) =>
    let (layers, reached) ← reach
    return (⟨carrier, part⟩ :: layers, reached)

/-- The way in of a poll. -/
def reach : Task κ → Action ρ (List Layer × Reached κ α)
  | .plain future => return ([], .inside future)
  | .carried carrier inner => reachUnder none carrier inner inner.reach
  | .fresh t info business => do
    match ← (t.start info).attempt with
    | .unwound p => return ([], .ended (← endWith (.unwound p) business.drop))
    | .returned (.error e) =>
      return ([], .ended (← endWith (.returned (.ready (.error (.call e)))) business.drop))
    | .returned (.ok part) =>
      let carrier ← Carrier.create (Scope.carrying (some part.xid))
      reachUnder (some part) carrier business business.reach
  | .called part carrier business => reachUnder (some part) carrier business business.reach
  | .ended => return ([], .ended (.ended, .unwound ⟨"task polled after it ended"⟩))

end Task

namespace Layer

variable {ρ κ α : Type}

/-- Suspends the carrier of a layer after the poll of what is inside. -/
def close (layer : Layer) (polled : Polled κ α) : Action ρ (Polled κ α) := do
  let (carrier, fate) ← Carrier.hook.finish layer.carrier polled.2
  Task.settleUnder layer.part carrier (polled.1, fate)

/-- The way out of a poll, from the inside. -/
def closeAll : List Layer → Polled κ α → Action ρ (Polled κ α)
  | [], polled => return polled
  | layer :: rest, polled => do layer.close (← closeAll rest polled)

end Layer

namespace Task

variable {ρ κ α : Type}

/-- Polls the future inside, if the way in led to it. -/
def pollReached (run : κ → Action ρ (κ × Fate (Progress α))) :
    Reached κ α → Action ρ (Polled κ α)
  | .inside future => do
    let (future, fate) ← run future
    return (.plain future, fate)
  | .ended polled => return polled

/-- Going in, polling what was reached, and coming out. -/
def pollThrough (run : κ → Action ρ (κ × Fate (Progress α)))
    (reach : Action ρ (List Layer × Reached κ α)) : Action ρ (Polled κ α) := do
  let (layers, reached) ← reach
  Layer.closeAll layers (← pollReached run reached)

theorem pollThrough_reachUnder (run : κ → Action ρ (κ × Fate (Progress α)))
    (part : Option Part) (carrier : Carrier) (inner : Task κ)
    (reach : Action ρ (List Layer × Reached κ α)) :
    pollThrough run (reachUnder part carrier inner reach) = (do
      let (carrier, polled) ← Carrier.hook.around carrier inner (pollThrough run reach)
      settleUnder part carrier polled) := by
  simp only [pollThrough, reachUnder, Hook.around, bind_assoc]
  congr 1
  funext ⟨carrier, turned⟩
  cases turned with
  | unwound p => simp [pollReached, Layer.closeAll]
  | returned u => simp [Layer.closeAll, Layer.close]

/-- A poll goes in, polls the future inside if it gets there, and comes out. -/
theorem poll_eq (run : κ → Action ρ (κ × Fate (Progress α))) (t : Task κ) :
    t.poll run = pollThrough run t.reach := by
  induction t with
  | plain future => simp [poll, pollThrough, reach, pollReached, Layer.closeAll]
  | carried carrier inner ih =>
    rw [reach, pollThrough_reachUnder, ← ih]
    rfl
  | fresh t info business ih =>
    rw [poll, pollFresh, reach]
    simp only [pollThrough, bind_assoc]
    congr 1
    funext outcome
    rcases outcome with (e | part) | p
    · simp [pollReached, Layer.closeAll]
    · show (Carrier.create _ >>= fun carrier => _) = _
      simp only [bind_assoc]
      congr 1
      funext carrier
      rw [ih, pollCalled]
      exact (pollThrough_reachUnder run (some part) carrier business business.reach).symm
    · simp [pollReached, Layer.closeAll]
  | called part carrier business ih =>
    rw [reach, pollThrough_reachUnder, ← ih]
    rfl
  | ended => simp [poll, pollThrough, reach, pollReached, Layer.closeAll]

end Task
end AmbientTx
