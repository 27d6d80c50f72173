import AmbientTx.Json.Reader
import AmbientTx.Toml.Value

/-! # Reading settings documents

A reader of characters, line by line: blank lines and comments, headers, and keys with their
values. Each function takes the characters that are left and returns what it read with the rest,
or nothing when the text is no settings document.
-/

namespace AmbientTx.Toml

/-- White space within a line. -/
def isGap (c : Char) : Bool :=
  c = ' ' || c = '\t'

/-- Drops white space within a line. -/
def skipGap (cs : List Char) : List Char :=
  cs.dropWhile isGap

/-- Characters that a comment or a text may hold: the tab and everything that is not a control
character. -/
def isPlain (c : Char) : Bool :=
  c = '\t' || (0x20 ≤ c.toNat && c.toNat ≠ 0x7F)

/-- A newline: a line feed, or a carriage return with a line feed. -/
def newline? : List Char → Option (List Char)
  | '\n' :: rest => some rest
  | '\r' :: '\n' :: rest => some rest
  | _ => none

/-- Drops a comment, if one starts here. -/
def skipComment : List Char → List Char
  | '#' :: rest => rest.dropWhile isPlain
  | cs => cs

/-- The end of a line: white space, a comment, and a newline or the end of the document. -/
def endOfLine? (cs : List Char) : Option (List Char) :=
  match skipComment (skipGap cs) with
  | [] => some []
  | rest => newline? rest

/-- Drops white space, comments and newlines. -/
def skipLines : Nat → List Char → List Char
  | 0, cs => cs
  | fuel + 1, cs =>
    let rest := skipComment (skipGap cs)
    match newline? rest with
    | some rest => skipLines fuel rest
    | none => rest

/-- The number that hexadecimal digits write, all of them. -/
def hexValue? (ds : List Char) : Option Nat :=
  ds.foldl (fun n d => do return (← n) * 16 + (← Json.hexDigit? d)) (some 0)

/-- The character that an escape after the backslash means. -/
def readEscape : List Char → Option (Char × List Char)
  | 'b' :: rest => some ('\x08', rest)
  | 't' :: rest => some ('\t', rest)
  | 'n' :: rest => some ('\n', rest)
  | 'f' :: rest => some ('\x0c', rest)
  | 'r' :: rest => some ('\r', rest)
  | '"' :: rest => some ('"', rest)
  | '\\' :: rest => some ('\\', rest)
  | 'u' :: rest => scalar 4 rest
  | 'U' :: rest => scalar 8 rest
  | _ => none
where
  /-- A character by its number, in that many digits. -/
  scalar (width : Nat) (cs : List Char) : Option (Char × List Char) := do
    let ds := cs.take width
    if ds.length < width then none
    else
      let n ← hexValue? ds
      if n.isValidChar then return (Char.ofNat n, cs.drop width) else none

/-- The rest of a text between double quotes on one line. -/
def readBasic : Nat → List Char → List Char → Option (String × List Char)
  | 0, _, _ => none
  | fuel + 1, done, cs =>
    match cs with
    | '"' :: rest => some (String.ofList done.reverse, rest)
    | '\\' :: rest => do
      let (c, rest) ← readEscape rest
      readBasic fuel (c :: done) rest
    | c :: rest => if isPlain c then readBasic fuel (c :: done) rest else none
    | [] => none

/-- The rest of a text between single quotes on one line. -/
def readLiteral (cs : List Char) : Option (String × List Char) :=
  match cs.dropWhile fun c => isPlain c && c ≠ '\'' with
  | '\'' :: rest => some (String.ofList (cs.takeWhile fun c => isPlain c && c ≠ '\''), rest)
  | _ => none

/-- What a run of quotes means in a text over several lines that ends with three of them: up to two
are part of the text, and the last three of three to five end it. -/
def closing? (quote : Char) (cs : List Char) : Option (List Char × Bool × List Char) :=
  let run := cs.takeWhile (· = quote)
  let rest := cs.dropWhile (· = quote)
  if run.length < 3 then some (run, false, rest)
  else if run.length ≤ 5 then some (run.drop 3, true, rest)
  else none

/-- Drops the rest of a line that a backslash ends, and all white space and newlines after it. -/
def skipFolded : Nat → List Char → List Char
  | 0, cs => cs
  | fuel + 1, cs =>
    match cs with
    | ' ' :: rest | '\t' :: rest => skipFolded fuel rest
    | _ =>
      match newline? cs with
      | some rest => skipFolded fuel rest
      | none => cs

/-- The rest of a text over several lines, between quotes of the kind `quote`. Backslashes mean
something between double quotes only. -/
def readBlock (quote : Char) : Nat → List Char → List Char → Option (String × List Char)
  | 0, _, _ => none
  | fuel + 1, done, cs =>
    match newline? cs with
    | some rest => readBlock quote fuel ('\n' :: done) rest
    | none =>
      match cs with
      | [] => none
      | c :: rest =>
        if c = quote then
          match closing? quote cs with
          | none => none
          | some (run, true, rest) => some (String.ofList (run ++ done).reverse, rest)
          | some (run, false, rest) => readBlock quote fuel (run ++ done) rest
        else if c = '\\' && quote = '"' then
          match newline? (skipGap rest) with
          | some after => readBlock quote fuel done (skipFolded (after.length + 1) after)
          | none => do
            let (c, rest) ← readEscape rest
            readBlock quote fuel (c :: done) rest
        else if isPlain c then readBlock quote fuel (c :: done) rest
        else none

/-- A newline right after the opening quotes is not part of the text. -/
def dropFirstNewline (cs : List Char) : List Char :=
  (newline? cs).getD cs

/-- A text in one of the four ways to write one. -/
def readText (cs : List Char) : Option (String × List Char) :=
  let fuel := cs.length + 1
  match cs with
  | '"' :: '"' :: '"' :: rest => readBlock '"' fuel [] (dropFirstNewline rest)
  | '\'' :: '\'' :: '\'' :: rest => readBlock '\'' fuel [] (dropFirstNewline rest)
  | '"' :: rest => readBasic fuel [] rest
  | '\'' :: rest => readLiteral rest
  | _ => none

/-- Whether a character may stand in a key without quotes. -/
def isBareKey (c : Char) : Bool :=
  c.isAlphanum || c = '_' || c = '-'

/-- One part of a key. -/
def readKeyPart (cs : List Char) : Option (String × List Char) :=
  match cs with
  | '"' :: rest => readBasic (cs.length + 1) [] rest
  | '\'' :: rest => readLiteral rest
  | _ =>
    match cs.takeWhile isBareKey with
    | [] => none
    | part => some (String.ofList part, cs.dropWhile isBareKey)

/-- A key: its parts with dots between them. -/
def readKey : Nat → List Char → Option (List String × List Char)
  | 0, _ => none
  | fuel + 1, cs => do
    let (part, rest) ← readKeyPart (skipGap cs)
    match skipGap rest with
    | '.' :: rest =>
      let (parts, rest) ← readKey fuel rest
      return (part :: parts, rest)
    | rest => return ([part], rest)

/-- The digits of a number: each underscore stands between two digits. -/
def readDigits (isDigit : Char → Bool) (cs : List Char) : Option (List Char × List Char) :=
  let run := cs.takeWhile fun c => isDigit c || c = '_'
  let apart := run.zip (run.drop 1) |>.all fun (a, b) => a ≠ '_' || b ≠ '_'
  if run.isEmpty || run.head? = some '_' || run.getLast? = some '_' || !apart then none
  else some (run.filter (· ≠ '_'), cs.drop run.length)

/-- The value of digits to a base. -/
def digitsValue (base : Nat) (ds : List Char) : Nat :=
  ds.foldl (fun n d => n * base + (Json.hexDigit? d).getD 0) 0

/-- A whole number in the range of 64-bit words with sign. -/
def ofRange? (n : Int) (rest : List Char) : Option (Value × List Char) :=
  if Int64.minValue.toInt ≤ n ∧ n ≤ Int64.maxValue.toInt then some (.word n, rest) else none

/-- Digits to a base, after the two characters that name it. -/
def readBased (base : Nat) (isDigit : Char → Bool) (cs : List Char) :
    Option (Value × List Char) := do
  let (ds, rest) ← readDigits isDigit cs
  ofRange? (digitsValue base ds) rest

/-- Decimal digits. A leading zero stands alone. -/
def readDecimal (negative : Bool) (cs : List Char) : Option (Value × List Char) := do
  let (ds, rest) ← readDigits Char.isDigit cs
  if ds.head? = some '0' && ds.length ≠ 1 then none
  else
    let n : Int := digitsValue 10 ds
    ofRange? (if negative then -n else n) rest

/-- A whole number. -/
def readWord (cs : List Char) : Option (Value × List Char) :=
  match cs with
  | '0' :: 'x' :: rest => readBased 16 (fun c => (Json.hexDigit? c).isSome) rest
  | '0' :: 'o' :: rest => readBased 8 (fun c => '0' ≤ c && c ≤ '7') rest
  | '0' :: 'b' :: rest => readBased 2 (fun c => c = '0' || c = '1') rest
  | '+' :: rest => readDecimal false rest
  | '-' :: rest => readDecimal true rest
  | _ => readDecimal false cs

mutual

/-- A value. -/
def readValue : Nat → List Char → Option (Value × List Char)
  | 0, _ => none
  | fuel + 1, cs =>
    match cs with
    | 't' :: 'r' :: 'u' :: 'e' :: rest => some (.bool true, rest)
    | 'f' :: 'a' :: 'l' :: 's' :: 'e' :: rest => some (.bool false, rest)
    | '"' :: _ | '\'' :: _ => (readText cs).map fun (s, rest) => (.text s, rest)
    | '[' :: rest => readItems fuel [] rest
    | '\x7b' :: rest =>
      match skipGap rest with
      | '\x7d' :: rest => some (.table .braces [], rest)
      | rest => readEntries fuel [] rest
    | _ => readWord cs

/-- The items of an array up to its closing bracket, over any number of lines. -/
def readItems : Nat → List Value → List Char → Option (Value × List Char)
  | 0, _, _ => none
  | fuel + 1, done, cs =>
    match skipLines (cs.length + 1) cs with
    | ']' :: rest => some (.array done.reverse, rest)
    | cs => do
      let (v, rest) ← readValue fuel cs
      match skipLines (rest.length + 1) rest with
      | ',' :: rest => readItems fuel (v :: done) rest
      | ']' :: rest => return (.array (v :: done).reverse, rest)
      | _ => none

/-- The entries between braces up to the closing one, on one line. -/
def readEntries : Nat → Table → List Char → Option (Value × List Char)
  | 0, _, _ => none
  | fuel + 1, done, cs => do
    let (key, rest) ← readKey (cs.length + 1) cs
    match rest with
    | '=' :: rest =>
      let (v, rest) ← readValue fuel (skipGap rest)
      let done ← Table.insert key.dropLast (key.getLast?.getD "") v done
      match skipGap rest with
      | ',' :: rest => readEntries fuel done rest
      | '\x7d' :: rest => return (.table .braces done, rest)
      | _ => none
    | _ => none

end

/-- The lines of a document, below the header `path`. -/
def readLines : Nat → List String → Table → List Char → Option Table
  | 0, _, _, _ => none
  | fuel + 1, path, t, cs =>
    match skipLines (cs.length + 1) cs with
    | [] => some t
    | '[' :: rest => do
      let (path, rest) ← readKey (rest.length + 1) rest
      match rest with
      | ']' :: rest =>
        let t ← t.openAt path
        readLines fuel path t (← endOfLine? rest)
      | _ => none
    | cs => do
      let (key, rest) ← readKey (cs.length + 1) cs
      match rest with
      | '=' :: rest =>
        let (v, rest) ← readValue (rest.length + 1) (skipGap rest)
        let t ← t.addUnder path key.dropLast (key.getLast?.getD "") v
        readLines fuel path t (← endOfLine? rest)
      | _ => none

/-- The table of a whole document. A byte order mark may come first. -/
def parse (source : String) : Option Table :=
  let cs := source.toList
  let cs := match cs with
    | '\uFEFF' :: rest => rest
    | _ => cs
  readLines (cs.length + 1) [] [] cs

end AmbientTx.Toml
