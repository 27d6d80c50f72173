import AmbientTx.Failure.Manager
import AmbientTx.GlobalStatus
import AmbientTx.Xid

/-! # Calls to a transaction manager

A transaction manager is known by its name and by its answers. It begins, commits and rolls back
transactions; to each call it grants the request, refuses it, or panics. The answers to the calls
of one kind come in order, and the last of them is repeated.
-/

namespace AmbientTx

/-- The name of a transaction manager. -/
abbrev ManagerName := String

/-- The message of a panic. -/
structure Panic where
  message : String
  deriving DecidableEq, Repr

/-- An answer to a call. -/
inductive Answer (α : Type) where
  /-- The request is granted. -/
  | granted (value : α)
  /-- The request is refused. -/
  | refused (failure : ManagerFailure)
  /-- The call does not return. -/
  | panicked (panic : Panic)
  deriving DecidableEq

/-- Answers in order: the next one and those after it. -/
structure Answers (α : Type) where
  next : Answer α
  later : List (Answer α) := []
  deriving DecidableEq

/-- What is left when the next answer has been given. -/
def Answers.advance (a : Answers α) : Answers α :=
  match a.later with
  | [] => a
  | b :: bs => ⟨b, bs⟩

/-- What begins with this list, or with `default` when it is empty. -/
def Answers.ofList (default : Answer α) : List (Answer α) → Answers α
  | [] => ⟨default, []⟩
  | a :: as => ⟨a, as⟩

/-- A transaction manager: its answers to the calls of each kind. -/
structure Manager where
  begins : Answers Xid
  commits : Answers GlobalStatus
  rollbacks : Answers GlobalStatus
  deriving DecidableEq

namespace Manager

/-- The id that a manager without answers of its own begins with. -/
def firstXid : Xid :=
  ⟨"tx-1", by decide⟩

/-- A manager that grants every request. -/
def willing : Manager where
  begins := ⟨.granted firstXid, []⟩
  commits := ⟨.granted .committed, []⟩
  rollbacks := ⟨.granted .rolledBack, []⟩

end Manager

/-- What a manager is told when a transaction begins. -/
structure BeginRequest where
  application : String
  group : String
  name : String
  /-- The timeout in milliseconds. -/
  timeout : UInt64
  deriving DecidableEq, Repr

/-- A call with its answer. -/
inductive Exchange where
  | launch (request : BeginRequest) (answer : Answer Xid)
  | commit (xid : Xid) (answer : Answer GlobalStatus)
  | rollback (xid : Xid) (answer : Answer GlobalStatus)
  deriving DecidableEq

/-- A call to a manager: which manager, what was bound on the calling worker, and the exchange. -/
structure Call where
  manager : ManagerName
  bound : Option Xid
  exchange : Exchange
  deriving DecidableEq

end AmbientTx
