import AmbientTx.Json.Fields

/-! # Roles in a global transaction

Who begins a transaction launches it and has to complete it. Who finds one bound joins it and
leaves it to the launcher.
-/

namespace AmbientTx

/-- The role of a caller. -/
inductive Role where
  /-- Began the transaction. -/
  | launcher
  /-- Joined a transaction that was bound already. -/
  | participant
  deriving DecidableEq, Repr

namespace Role

/-- Every role. -/
def all : List Role :=
  [.launcher, .participant]

/-- The name of a role. -/
def name : Role → String
  | .launcher => "Launcher"
  | .participant => "Participant"

/-- The JSON value of a role is its name. -/
def toJson (r : Role) : Json :=
  .string r.name

/-- Reads a role from its name. -/
def ofJson? (j : Json) : Option Role := do
  let s ← j.caseName?
  all.find? fun r => r.name = s

end Role
end AmbientTx
