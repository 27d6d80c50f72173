import AmbientTx.Json.Basic
import AmbientTx.Text.Quoted

/-! # Compact JSON text

No spaces, members in the order of the value. In a string the quote, the backslash and the
characters below U+0020 are escaped and all others stand for themselves.
-/

namespace AmbientTx.Json

/-- One character of a string. Five control characters have a letter, the others four digits. -/
def escape (c : Char) : String :=
  match c with
  | '"' => "\\\""
  | '\\' => "\\\\"
  | '\n' => "\\n"
  | '\r' => "\\r"
  | '\t' => "\\t"
  | c =>
    if c.toNat = 0x08 then "\\b"
    else if c.toNat = 0x0C then "\\f"
    else if c.toNat < 0x10 then "\\u000" ++ Text.hex c.toNat
    else if c.toNat < 0x20 then "\\u00" ++ Text.hex c.toNat
    else c.toString

/-- A string between quotes. -/
def quote (s : String) : String :=
  "\"" ++ String.join (s.toList.map escape) ++ "\""

mutual

/-- The compact text of a value. -/
def render : Json → String
  | .null => "null"
  | .bool true => "true"
  | .bool false => "false"
  | .number n => toString n
  | .decimal literal => literal
  | .string s => quote s
  | .array js => "[" ++ ",".intercalate (renderItems js) ++ "]"
  | .object ms => "\x7b" ++ ",".intercalate (renderMembers ms) ++ "\x7d"

/-- The texts of the items of an array. -/
def renderItems : List Json → List String
  | [] => []
  | j :: js => render j :: renderItems js

/-- The texts of the members of an object. -/
def renderMembers : List (String × Json) → List String
  | [] => []
  | (name, j) :: ms => (quote name ++ ":" ++ render j) :: renderMembers ms

end

example : render (.object [("a", .array [.number (-1), .null]), ("b", .string "x\n")]) =
    "\x7b\"a\":[-1,null],\"b\":\"x\\n\"\x7d" := by decide +kernel

end AmbientTx.Json
