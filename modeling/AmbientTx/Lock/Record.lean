import AmbientTx.Json.Fields

/-! # Records of global locks

One row lock that a branch of a global transaction holds. Its two times are whole milliseconds
since the epoch, within the years that the calendar of the console reaches.
-/

namespace AmbientTx

/-- A time in milliseconds since the epoch, within the range of the calendar. -/
structure Timestamp where
  /-- Milliseconds since the epoch; negative before it. -/
  millis : Int
  in_range : -8334601228800000 ≤ millis ∧ millis ≤ 8210266876799999
  deriving DecidableEq

namespace Timestamp

/-- The JSON value of a time is its number of milliseconds. -/
def toJson (t : Timestamp) : Json :=
  .number t.millis

/-- Reads a time from a number of milliseconds within the range. -/
def ofJson? : Json → Option Timestamp
  | .number n =>
    if h : -8334601228800000 ≤ n ∧ n ≤ 8210266876799999 then some ⟨n, h⟩ else none
  | _ => none

end Timestamp

/-- A row lock held by a branch. -/
structure LockRecord where
  xid : String
  transactionId : String
  branchId : String
  resourceId : String
  tableName : String
  pk : String
  rowKey : String
  created : Timestamp
  modified : Timestamp
  deriving DecidableEq

namespace LockRecord

/-- The names of the fields, in order. -/
def fieldNames : List String :=
  ["xid", "transactionId", "branchId", "resourceId", "tableName", "pk", "rowKey", "gmtCreate",
   "gmtModified"]

/-- The JSON object of a record. -/
def toJson (r : LockRecord) : Json :=
  .object
    [("xid", .string r.xid), ("transactionId", .string r.transactionId),
     ("branchId", .string r.branchId), ("resourceId", .string r.resourceId),
     ("tableName", .string r.tableName), ("pk", .string r.pk), ("rowKey", .string r.rowKey),
     ("gmtCreate", r.created.toJson), ("gmtModified", r.modified.toJson)]

/-- Reads a record. Every field has to be given. -/
def ofJson? (j : Json) : Option LockRecord := do
  match ← j.fields? false fieldNames with
  | [xid, transactionId, branchId, resourceId, tableName, pk, rowKey, created, modified] =>
    let xid ← Json.required Json.text? xid
    let transactionId ← Json.required Json.text? transactionId
    let branchId ← Json.required Json.text? branchId
    let resourceId ← Json.required Json.text? resourceId
    let tableName ← Json.required Json.text? tableName
    let pk ← Json.required Json.text? pk
    let rowKey ← Json.required Json.text? rowKey
    let created ← Json.required Timestamp.ofJson? created
    let modified ← Json.required Timestamp.ofJson? modified
    return { xid, transactionId, branchId, resourceId, tableName, pk, rowKey, created, modified }
  | _ => none

end LockRecord
end AmbientTx
