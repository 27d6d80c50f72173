import AmbientTx.Lock.Query

/-! # Pages of query results

A page holds the records of one page of an answer and the number of records of the whole answer.
-/

namespace AmbientTx

/-- One page of an answer. -/
structure Page (α : Type) where
  records : List α
  /-- How many records the whole answer has. -/
  total : UInt64
  pageNum : UInt32
  pageSize : UInt32
  deriving DecidableEq

namespace Page

/-- The page that answers a query. -/
def answering (q : LockQuery) (records : List α) (total : UInt64) : Page α :=
  ⟨records, total, q.pageNum, q.pageSize⟩

/-- How many pages hold all records, in 64-bit words; no page when a page holds nothing. -/
def pages (p : Page α) : UInt64 :=
  if p.pageSize = 0 then 0
  else p.total / p.pageSize.toUInt64 + if p.total % p.pageSize.toUInt64 = 0 then 0 else 1

/-- The names of the fields, in order. -/
def fieldNames : List String :=
  ["records", "total", "pageNum", "pageSize"]

/-- The JSON object of a page, given the JSON value of a record. -/
def toJson (f : α → Json) (p : Page α) : Json :=
  .object
    [("records", .array (p.records.map f)), ("total", Json.ofUInt64 p.total),
     ("pageNum", Json.ofUInt32 p.pageNum), ("pageSize", Json.ofUInt32 p.pageSize)]

/-- Reads a page, given the reader of a record. Every field has to be given. -/
def ofJson? (read : Json → Option α) (j : Json) : Option (Page α) := do
  match ← j.fields? false fieldNames with
  | [records, total, pageNum, pageSize] =>
    let records ← Json.required (Json.list? read) records
    let total ← Json.required Json.uint64? total
    let pageNum ← Json.required Json.uint32? pageNum
    let pageSize ← Json.required Json.uint32? pageSize
    return { records, total, pageNum, pageSize }
  | _ => none

end Page
end AmbientTx
