import AmbientTx.Failure.ModelError
import AmbientTx.Json.Fields

/-! # Branch modes

How a branch of a global transaction takes part in it. A mode has a code and a name, and both are
shared with the coordinator.
-/

namespace AmbientTx

/-- The mode of a branch. -/
inductive BranchMode where
  /-- Undo logs are kept and applied automatically (`AT`). -/
  | automatic
  /-- Try, then confirm or cancel (`TCC`). -/
  | tryConfirmCancel
  /-- A long-running saga with compensations (`SAGA`). -/
  | saga
  /-- Two phases of an `XA` resource. -/
  | xa
  deriving DecidableEq, Repr

namespace BranchMode

/-- Every mode, in the order of the codes. -/
def all : List BranchMode :=
  [.automatic, .tryConfirmCancel, .saga, .xa]

/-- The code of a mode. -/
def code : BranchMode → UInt8
  | .automatic => 0
  | .tryConfirmCancel => 1
  | .saga => 2
  | .xa => 3

/-- The name of a mode. -/
def name : BranchMode → String
  | .automatic => "AT"
  | .tryConfirmCancel => "TCC"
  | .saga => "SAGA"
  | .xa => "XA"

/-- The mode with that code; any other code is an error. -/
def ofCode (n : UInt8) : Except ModelError BranchMode :=
  match all.find? fun m => m.code = n with
  | some m => .ok m
  | none => .error (.unknownModeCode n)

/-- The mode with that name. -/
def ofName? (s : String) : Option BranchMode :=
  all.find? fun m => m.name = s

/-- The mode with that name, spelled exactly; any other name is an error. -/
def ofName (s : String) : Except ModelError BranchMode :=
  match ofName? s with
  | some m => .ok m
  | none => .error (.unknownModeName s)

/-- Whether a mode may be the configured default. -/
def mayBeDefault : BranchMode → Bool
  | .automatic | .xa => true
  | .tryConfirmCancel | .saga => false

/-- The JSON value of a mode is its name. -/
def toJson (m : BranchMode) : Json :=
  .string m.name

/-- Reads a mode from its name. -/
def ofJson? (j : Json) : Option BranchMode := do
  ofName? (← j.caseName?)

end BranchMode
end AmbientTx
