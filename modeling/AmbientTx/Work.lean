import AmbientTx.Failure.CallError
import AmbientTx.World.Action

/-! # Work

Work runs in stays: each poll runs the next piece of its code, and after the last piece the work
ends. It is the future that a script polls; a task may be built over any other.
-/

namespace AmbientTx

/-- What a poll reports. -/
inductive Progress (α : Type) where
  | waiting
  | ready (outcome : Except TaskFailure α)

/-- How work ends after its last piece. -/
inductive Finish (α : Type) where
  | succeed (value : α)
  | fail (message : String)
  | panic (panic : Panic)
  /-- It waits without end. -/
  | never

/-- How a poll ends once no pieces are left. -/
def Finish.poll : Finish α → Fate (Progress α)
  | .succeed a => .returned (.ready (.ok a))
  | .fail message => .returned (.ready (.error (.text message)))
  | .panic p => .unwound p
  | .never => .returned .waiting

/-- Pieces of code `κ`, one per poll, and how the work ends after the last of them. -/
structure Work (κ α : Type) where
  pieces : List κ
  finish : Finish α

namespace Work

variable {ρ κ α : Type}

/-- Polls work: runs the next piece, and ends after the last one. A piece that unwinds is gone. -/
def poll (run : κ → Action ρ Unit) (work : Work κ α) : Action ρ (Work κ α × Fate (Progress α)) :=
  match work.pieces with
  | [] => return (work, work.finish.poll)
  | piece :: rest => do
    let left : Work κ α := { work with pieces := rest }
    match ← (run piece).attempt with
    | .unwound p => return (left, .unwound p)
    | .returned () => return (left, if rest.isEmpty then work.finish.poll else .returned .waiting)

/-- How often work is polled before it waits for good: once per piece, and at least once. -/
def stays (work : Work κ α) : Nat :=
  max 1 work.pieces.length

end Work
end AmbientTx
