import AmbientTx.Text.Hidden

/-! # Quoted text and shown records

How a log field shows a value: a text between double quotes with escapes, an optional value as
`None` or `Some(…)`, and a record as its name with the named fields in braces.
-/

namespace AmbientTx.Text

/-- The lower-case hexadecimal digits of a number, without leading zeros. -/
def hex (n : Nat) : String :=
  String.ofList (Nat.toDigits 16 n)

/-- One character between double quotes: the quote and the backslash get a backslash, four
control characters have letters, and a character without a glyph is spelled by its number. -/
def escape (c : Char) : String :=
  match c with
  | '"' => "\\\""
  | '\\' => "\\\\"
  | '\n' => "\\n"
  | '\r' => "\\r"
  | '\t' => "\\t"
  | c =>
    if c.toNat = 0 then "\\0"
    else if isHidden c then "\\u\x7b" ++ hex c.toNat ++ "\x7d"
    else c.toString

/-- A text between double quotes. -/
def quote (s : String) : String :=
  "\"" ++ String.join (s.toList.map escape) ++ "\""

/-- An optional value, shown. -/
def showOption (f : α → String) : Option α → String
  | none => "None"
  | some a => "Some(" ++ f a ++ ")"

/-- A truth value, shown. -/
def showBool : Bool → String
  | true => "true"
  | false => "false"

/-- A record, shown: its name and its fields in order. -/
def showRecord (name : String) (fields : List (String × String)) : String :=
  name ++ " \x7b " ++ ", ".intercalate (fields.map fun f => f.1 ++ ": " ++ f.2) ++ " \x7d"

example : quote "back\\slash\"\n" = "\"back\\\\slash\\\"\\n\"" := by decide +kernel

end AmbientTx.Text
