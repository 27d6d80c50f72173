/-! # Settings documents: values and tables

A settings document is a TOML document. It is a table of values by key, and a table can come about
in four ways that decide how later lines may extend it: by a header of its own, by the header of a
table inside it, by a dotted key, or as a value between braces. Settings are texts, whole numbers
and truth values, so a document with a number that has a fraction, or with a time, is no settings
document.
-/

namespace AmbientTx.Toml

/-- How a table came about. -/
inductive Origin where
  /-- Its own header, or the document itself. -/
  | header
  /-- The header of a table inside it. -/
  | inner
  /-- A dotted key. -/
  | dotted
  /-- Braces; such a table is complete. -/
  | braces
  deriving DecidableEq, Repr

/-- A value of a document. A whole number is between `-2^63` and `2^63 - 1`. -/
inductive Value where
  | text (value : String)
  | word (value : Int)
  | bool (value : Bool)
  | array (items : List Value)
  | table (origin : Origin) (entries : List (String × Value))
  deriving Inhabited

/-- The entries of a table, in the order of their first keys. -/
abbrev Table := List (String × Value)

namespace Table

/-- Gives the entry of that key a new value, or adds one. -/
def put (key : String) (v : Value) : Table → Table
  | [] => [(key, v)]
  | (k, w) :: t => if k = key then (k, v) :: t else (k, w) :: put key v t

/-- Adds a value under a dotted key, the last part of which is `key`. Tables on the way are made as
needed. One with a header of its own or in braces may not be extended so, one that a header inside
it made may only be passed, and no key is given twice. -/
def insert : List String → String → Value → Table → Option Table
  | [], key, v, t =>
    match List.lookup key t with
    | none => some (put key v t)
    | some _ => none
  | part :: path, key, v, t => do
    let (origin, inside) ← match List.lookup part t with
      | none => some (Origin.dotted, [])
      | some (.table .dotted inside) => some (Origin.dotted, inside)
      | some (.table .inner inside) => if path.isEmpty then none else some (Origin.inner, inside)
      | some _ => none
    let inside ← insert path key v inside
    return put part (.table origin inside) t

/-- Changes the table at a path of headers. Tables on the way are made as needed. -/
def atPath (change : Origin → Table → Option (Origin × Table)) :
    List String → Table → Option Table
  | [], _ => none
  | [key], t => do
    let (origin, inside) ← match List.lookup key t with
      | none => change .inner []
      | some (.table .braces _) => none
      | some (.table origin inside) => change origin inside
      | some _ => none
    return put key (.table origin inside) t
  | part :: path, t => do
    let (origin, inside) ← match List.lookup part t with
      | none => some (Origin.inner, [])
      | some (.table .braces _) => none
      | some (.table origin inside) => some (origin, inside)
      | some _ => none
    let inside ← atPath change path inside
    return put part (.table origin inside) t

/-- Opens the table of a header. A table has one header, and none if a dotted key made it. -/
def openAt (path : List String) (t : Table) : Option Table :=
  atPath (fun origin inside => if origin = .inner then some (.header, inside) else none) path t

/-- Adds a value under a dotted key below a header. -/
def addUnder (path parts : List String) (key : String) (v : Value) (t : Table) : Option Table :=
  if path.isEmpty then insert parts key v t
  else atPath (fun origin inside => (insert parts key v inside).map (origin, ·)) path t

end Table
end AmbientTx.Toml
