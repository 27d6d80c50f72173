import AmbientTx.BranchMode
import AmbientTx.Xid

/-! # Slots

Every worker owns one slot with the transaction context of the code that it runs: the bound
transaction, the bound branch mode, whether local transactions take the global lock, and a timeout
of its own. Only the transaction ever travels with a unit of work.
-/

namespace AmbientTx

/-- The context of one worker. -/
structure Slot where
  /-- The bound transaction. -/
  xid : Option Xid := none
  /-- The bound branch mode. -/
  mode : Option BranchMode := none
  /-- Whether local transactions take the global lock. -/
  globalLock : Bool := false
  /-- The timeout of this worker, in milliseconds. -/
  timeout : Option UInt64 := none
  deriving DecidableEq

namespace Slot

/-- Whether nothing is bound. -/
def isEmpty (s : Slot) : Bool :=
  s.xid.isNone && s.mode.isNone && !s.globalLock && s.timeout.isNone

/-- The names of the entries, in order. -/
def fieldNames : List String :=
  ["TX_XID", "TX_BRANCH_TYPE", "TX_LOCK", "TX_TIMEOUT"]

/-- The JSON object of a slot; an entry that is not bound is left out. -/
def toJson (s : Slot) : Json :=
  .object
    (Json.memberOf "TX_XID" Xid.toJson s.xid ++
     Json.memberOf "TX_BRANCH_TYPE" BranchMode.toJson s.mode ++
     (if s.globalLock then [("TX_LOCK", .bool true)] else []) ++
     Json.memberOf "TX_TIMEOUT" Json.ofUInt64 s.timeout)

/-- Reads a slot. -/
def ofJson? (j : Json) : Option Slot := do
  match ← j.fields? false fieldNames with
  | [xid, mode, globalLock, timeout] =>
    let xid ← Json.optional Xid.ofJson? xid
    let mode ← Json.optional BranchMode.ofJson? mode
    let globalLock ← Json.orDefault false Json.bool? globalLock
    let timeout ← Json.optional Json.uint64? timeout
    return { xid, mode, globalLock, timeout }
  | _ => none

end Slot
end AmbientTx
