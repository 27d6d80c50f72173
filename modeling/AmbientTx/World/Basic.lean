import AmbientTx.Context.Slot
import AmbientTx.History.Event
import AmbientTx.Manager.Call

/-! # The world of a run

Everything that code on any worker can see or change: the slots of the workers, the installed
configuration and transaction manager, the answers that the managers still have, and the history
of what happened. `World ρ` also holds a `ρ`, which is whatever else the program at hand keeps;
the operations of the library leave it alone.
-/

namespace AmbientTx

/-- A thread of execution with a slot of its own. -/
inductive Worker where
  /-- The worker that a program starts on. -/
  | main
  /-- A worker that lives as long as the program. -/
  | named (name : String)
  /-- A worker that was started for one piece of work. -/
  | fresh (id : Nat)
  /-- The same worker while it ends and the last of its code runs, after code that `used` its slot
  or did not. -/
  | ending (id : Nat) (used : Bool)
  deriving DecidableEq, Repr

/-- Whether a worker has a slot. A slot is made when it is used for the first time, and one that was
made is gone when its worker ends: only then there is none. A worker without a slot reads an empty
one, and its writes are dropped. -/
def Worker.hasSlot : Worker → Bool
  | .ending _ used => !used
  | .main | .named _ | .fresh _ => true

/-- Something that happened. -/
inductive Happening where
  /-- An event was logged. -/
  | event (event : Event)
  /-- A span was created, entered or exited. -/
  | span (phase : SpanPhase) (span : Span)
  /-- A transaction manager was called. -/
  | call (call : Call)
  deriving DecidableEq

/-- Something that happened, and the worker that it happened on. -/
structure Record where
  worker : Worker
  happening : Happening
  deriving DecidableEq

/-- The state of a run. -/
structure World (ρ : Type) where
  /-- The slot of every worker that has one. A worker that has not run yet has an empty one. -/
  slots : Worker → Slot := fun _ => {}
  /-- The installed configuration. -/
  config : ContextConfig := {}
  /-- The installed transaction manager. -/
  installed : Option ManagerName := none
  /-- The managers, with the answers that they still have. -/
  managers : ManagerName → Manager := fun _ => .willing
  /-- What happened, in order. -/
  history : List Record := []
  /-- How many spans were created. -/
  spans : Nat := 0
  /-- What the program at hand keeps. -/
  rest : ρ

namespace World

/-- What a worker reads as its slot. -/
def slot (s : World ρ) (w : Worker) : Slot :=
  if w.hasSlot then s.slots w else {}

/-- Changes the slot of a worker. -/
def mapSlot (s : World ρ) (w : Worker) (f : Slot → Slot) : World ρ :=
  if w.hasSlot then { s with slots := fun w' => if w' = w then f (s.slots w') else s.slots w' }
  else s

/-- Changes one manager. -/
def setManager (s : World ρ) (m : ManagerName) (v : Manager) : World ρ :=
  { s with managers := fun m' => if m' = m then v else s.managers m' }

/-- Adds to the history. -/
def record (s : World ρ) (w : Worker) (h : Happening) : World ρ :=
  { s with history := s.history ++ [⟨w, h⟩] }

/-- The manager calls of the history, in order. -/
def calls (s : World ρ) : List Call :=
  s.history.filterMap fun r =>
    match r.happening with
    | .call c => some c
    | _ => none

/-! ## Reading back -/

/-- Its own writes are read back by a worker that has a slot. -/
theorem slot_mapSlot_self (s : World ρ) {w : Worker} (h : w.hasSlot) (f : Slot → Slot) :
    (s.mapSlot w f).slot w = f (s.slot w) := by
  simp [slot, mapSlot, h]

/-- No other worker reads a worker's writes. -/
theorem slot_mapSlot_of_ne (s : World ρ) {w v : Worker} (h : v ≠ w) (f : Slot → Slot) :
    (s.mapSlot w f).slot v = s.slot v := by
  by_cases hw : w.hasSlot
  · simp [slot, mapSlot, hw, h]
  · simp [slot, mapSlot, hw]

/-- Recording leaves the slots alone. -/
@[simp] theorem slot_record (s : World ρ) (w v : Worker) (h : Happening) :
    (s.record w h).slot v = s.slot v := rfl

/-- What is recorded comes last in the history. -/
@[simp] theorem history_record (s : World ρ) (w : Worker) (h : Happening) :
    (s.record w h).history = s.history ++ [⟨w, h⟩] := rfl

/-- Writing to a slot leaves the history alone. -/
@[simp] theorem history_mapSlot (s : World ρ) (w : Worker) (f : Slot → Slot) :
    (s.mapSlot w f).history = s.history := by
  unfold mapSlot
  split <;> rfl

end World
end AmbientTx
