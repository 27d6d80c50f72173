import AmbientTx.Failure.ModelError
import AmbientTx.Json.Fields

/-! # Queries for global locks

The console asks for lock records by filters and by page. Every filter may be absent, and times
are milliseconds since the epoch. A query is valid when its page exists, its page size is between
one and `LockQuery.maxPageSize`, and its time window does not end before it starts.
-/

namespace AmbientTx

/-- The filters and the page of a query. -/
structure LockQuery where
  xid : Option String := none
  tableName : Option String := none
  transactionId : Option String := none
  branchId : Option String := none
  cellNamespace : Option String := none
  cluster : Option String := none
  vgroup : Option String := none
  timeStart : Option Int64 := none
  timeEnd : Option Int64 := none
  pageNum : UInt32 := 1
  pageSize : UInt32 := 10
  deriving DecidableEq

namespace LockQuery

/-- The largest page a query may ask for. -/
def maxPageSize : UInt32 := 100

/-- A rule that a query breaks. -/
inductive Defect where
  | pageNum
  | pageSize
  | window (first last : Int64)
  deriving DecidableEq

/-- The wording of a defect. -/
def Defect.message : Defect → String
  | .pageNum => "pageNum must be >= 1"
  | .pageSize => "pageSize must be between 1 and " ++ toString maxPageSize.toNat
  | .window first last =>
    "timeStart " ++ toString first.toInt ++ " is after timeEnd " ++ toString last.toInt

/-- The defect of a time window: both ends are given and the first comes after the last. -/
def windowDefect? : Option Int64 → Option Int64 → Option Defect
  | some first, some last => if last < first then some (.window first last) else none
  | _, _ => none

/-- The first rule that a query breaks. -/
def defect? (q : LockQuery) : Option Defect :=
  if q.pageNum < 1 then some .pageNum
  else if q.pageSize < 1 || maxPageSize < q.pageSize then some .pageSize
  else windowDefect? q.timeStart q.timeEnd

/-- Accepts a query that breaks no rule. -/
def validate (q : LockQuery) : Except ModelError Unit :=
  match q.defect? with
  | none => .ok ()
  | some d => .error (.invalidQuery d.message)

/-- How many records come before the page, in 64-bit words. Page zero counts as the first page. -/
def offset (q : LockQuery) : UInt64 :=
  (if q.pageNum = 0 then 0 else q.pageNum - 1).toUInt64 * q.pageSize.toUInt64

/-- The same query within a time window. -/
def within (q : LockQuery) (first last : Option Int64) : LockQuery :=
  { q with timeStart := first, timeEnd := last }

/-- The same query for a page. -/
def onPage (q : LockQuery) (num size : UInt32) : LockQuery :=
  { q with pageNum := num, pageSize := size }

/-- The names of the fields, in order. -/
def fieldNames : List String :=
  ["xid", "tableName", "transactionId", "branchId", "namespace", "cluster", "vgroup",
   "timeStart", "timeEnd", "pageNum", "pageSize"]

/-- The JSON object of a query; absent filters are left out. -/
def toJson (q : LockQuery) : Json :=
  .object
    (Json.memberOf "xid" .string q.xid ++ Json.memberOf "tableName" .string q.tableName ++
     Json.memberOf "transactionId" .string q.transactionId ++
     Json.memberOf "branchId" .string q.branchId ++
     Json.memberOf "namespace" .string q.cellNamespace ++
     Json.memberOf "cluster" .string q.cluster ++ Json.memberOf "vgroup" .string q.vgroup ++
     Json.memberOf "timeStart" Json.ofInt64 q.timeStart ++
     Json.memberOf "timeEnd" Json.ofInt64 q.timeEnd ++
     [("pageNum", Json.ofUInt32 q.pageNum), ("pageSize", Json.ofUInt32 q.pageSize)])

/-- Reads a query. The page has to be given. -/
def ofJson? (j : Json) : Option LockQuery := do
  match ← j.fields? false fieldNames with
  | [xid, tableName, transactionId, branchId, cell, cluster, vgroup, timeStart, timeEnd, pageNum,
      pageSize] =>
    let xid ← Json.optional Json.text? xid
    let tableName ← Json.optional Json.text? tableName
    let transactionId ← Json.optional Json.text? transactionId
    let branchId ← Json.optional Json.text? branchId
    let cellNamespace ← Json.optional Json.text? cell
    let cluster ← Json.optional Json.text? cluster
    let vgroup ← Json.optional Json.text? vgroup
    let timeStart ← Json.optional Json.int64? timeStart
    let timeEnd ← Json.optional Json.int64? timeEnd
    let pageNum ← Json.required Json.uint32? pageNum
    let pageSize ← Json.required Json.uint32? pageSize
    return { xid, tableName, transactionId, branchId, cellNamespace, cluster, vgroup, timeStart,
             timeEnd, pageNum, pageSize }
  | _ => none

end LockQuery
end AmbientTx
