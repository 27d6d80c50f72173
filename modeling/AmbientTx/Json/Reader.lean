import AmbientTx.Json.Basic

/-! # Reading JSON text

A reader of characters. Each function takes the characters that are left and returns what it read
with the rest, or nothing when the text is no JSON. The members of an object are kept sorted by
name, and of two members of one name the later one counts.
-/

namespace AmbientTx.Json

/-- White space between tokens: space, tab and the two newline characters. -/
def isGap (c : Char) : Bool :=
  c = ' ' || c = '\t' || c = '\n' || c = '\r'

/-- Drops white space between tokens. -/
def skipGap (cs : List Char) : List Char :=
  cs.dropWhile isGap

/-- The value of a hexadecimal digit. -/
def hexDigit? (c : Char) : Option Nat :=
  if '0' ≤ c && c ≤ '9' then some (c.toNat - '0'.toNat)
  else if 'a' ≤ c && c ≤ 'f' then some (c.toNat - 'a'.toNat + 10)
  else if 'A' ≤ c && c ≤ 'F' then some (c.toNat - 'A'.toNat + 10)
  else none

/-- Four hexadecimal digits. -/
def readUnit : List Char → Option (Nat × List Char)
  | a :: b :: c :: d :: rest => do
    let a ← hexDigit? a
    let b ← hexDigit? b
    let c ← hexDigit? c
    let d ← hexDigit? d
    return (a * 0x1000 + b * 0x100 + c * 0x10 + d, rest)
  | _ => none

/-- The character after `\u`: one unit, or two units of a surrogate pair. -/
def readUnits (cs : List Char) : Option (Char × List Char) := do
  let (hi, rest) ← readUnit cs
  if 0xD800 ≤ hi && hi < 0xDC00 then
    match rest with
    | '\\' :: 'u' :: rest =>
      let (lo, rest) ← readUnit rest
      if 0xDC00 ≤ lo && lo < 0xE000 then
        return (Char.ofNat (0x10000 + (hi - 0xD800) * 0x400 + (lo - 0xDC00)), rest)
      else none
    | _ => none
  else if 0xDC00 ≤ hi && hi < 0xE000 then none
  else return (Char.ofNat hi, rest)

/-- The rest of a string after its opening quote; `done` holds the characters read, last first. -/
def readString : Nat → List Char → List Char → Option (String × List Char)
  | 0, _, _ => none
  | fuel + 1, done, cs =>
    match cs with
    | '"' :: rest => some (String.ofList done.reverse, rest)
    | '\\' :: 'u' :: rest => do
      let (c, rest) ← readUnits rest
      readString fuel (c :: done) rest
    | '\\' :: c :: rest =>
      match c with
      | '"' | '\\' | '/' => readString fuel (c :: done) rest
      | 'b' => readString fuel ('\x08' :: done) rest
      | 'f' => readString fuel ('\x0c' :: done) rest
      | 'n' => readString fuel ('\n' :: done) rest
      | 'r' => readString fuel ('\r' :: done) rest
      | 't' => readString fuel ('\t' :: done) rest
      | _ => none
    | c :: rest => if c.toNat < 0x20 then none else readString fuel (c :: done) rest
    | [] => none

/-- The value of a row of decimal digits. -/
def digitsValue (ds : List Char) : Nat :=
  ds.foldl (fun n d => n * 10 + (d.toNat - '0'.toNat)) 0

/-- Digits at the front, at least one. -/
def readDigits (cs : List Char) : Option (List Char × List Char) :=
  match cs.takeWhile Char.isDigit with
  | [] => none
  | ds => some (ds, cs.dropWhile Char.isDigit)

/-- The fraction and the exponent that may follow the whole part of a number. -/
def readTail (cs : List Char) : Option (List Char × List Char) := do
  let (fraction, cs) ← match cs with
    | '.' :: rest => (readDigits rest).map fun (ds, rest) => ('.' :: ds, rest)
    | _ => some ([], cs)
  match cs with
  | e :: rest =>
    if e = 'e' || e = 'E' then
      let (sign, rest) := match rest with
        | '+' :: rest => (['+'], rest)
        | '-' :: rest => (['-'], rest)
        | _ => ([], rest)
      let (ds, rest) ← readDigits rest
      return (fraction ++ e :: sign ++ ds, rest)
    else return (fraction, cs)
  | [] => return (fraction, cs)

/-- The number that a literal means: whole numbers in the range of 64-bit words are numbers, and
minus zero and everything else are decimals. -/
def ofLiteral (negative : Bool) (whole tail : List Char) : Json :=
  let literal := String.ofList ((if negative then ['-'] else []) ++ whole ++ tail)
  let size := digitsValue whole
  if !tail.isEmpty then .decimal literal
  else if negative then
    let n := -(size : Int)
    if size = 0 || n < Int64.minValue.toInt then .decimal literal else .number n
  else if size < UInt64.size then .number size
  else .decimal literal

/-- A number. A leading zero stands alone. -/
def readNumber (cs : List Char) : Option (Json × List Char) := do
  let (negative, cs) := match cs with
    | '-' :: rest => (true, rest)
    | _ => (false, cs)
  let (whole, cs) ← match cs with
    | '0' :: rest => some (['0'], rest)
    | _ => readDigits cs
  let (tail, cs) ← readTail cs
  return (ofLiteral negative whole tail, cs)

/-- Puts a member in its place by name, over an earlier one of that name. -/
def insertMember (name : String) (j : Json) : List (String × Json) → List (String × Json)
  | [] => [(name, j)]
  | (n, k) :: ms =>
    if name < n then (name, j) :: (n, k) :: ms
    else if name = n then (name, j) :: ms
    else (n, k) :: insertMember name j ms

mutual

/-- A value, with the white space before it. -/
def readValue : Nat → List Char → Option (Json × List Char)
  | 0, _ => none
  | fuel + 1, cs =>
    match skipGap cs with
    | 'n' :: 'u' :: 'l' :: 'l' :: rest => some (.null, rest)
    | 't' :: 'r' :: 'u' :: 'e' :: rest => some (.bool true, rest)
    | 'f' :: 'a' :: 'l' :: 's' :: 'e' :: rest => some (.bool false, rest)
    | '"' :: rest => (readString (rest.length + 1) [] rest).map fun (s, rest) => (.string s, rest)
    | '[' :: rest =>
      match skipGap rest with
      | ']' :: rest => some (.array [], rest)
      | rest => readItems fuel [] rest
    | '\x7b' :: rest =>
      match skipGap rest with
      | '\x7d' :: rest => some (.object [], rest)
      | rest => readMembers fuel [] rest
    | rest => readNumber rest

/-- The items of an array that is not empty, up to its closing bracket. -/
def readItems : Nat → List Json → List Char → Option (Json × List Char)
  | 0, _, _ => none
  | fuel + 1, done, cs => do
    let (j, rest) ← readValue fuel cs
    match skipGap rest with
    | ',' :: rest => readItems fuel (j :: done) rest
    | ']' :: rest => return (.array (j :: done).reverse, rest)
    | _ => none

/-- The members of an object that is not empty, up to its closing brace. -/
def readMembers : Nat → List (String × Json) → List Char → Option (Json × List Char)
  | 0, _, _ => none
  | fuel + 1, done, cs =>
    match skipGap cs with
    | '"' :: rest => do
      let (name, rest) ← readString (rest.length + 1) [] rest
      match skipGap rest with
      | ':' :: rest =>
        let (j, rest) ← readValue fuel rest
        let done := insertMember name j done
        match skipGap rest with
        | ',' :: rest => readMembers fuel done rest
        | '\x7d' :: rest => return (.object done, rest)
        | _ => none
      | _ => none
    | _ => none

end

/-- The value that a whole text writes. Every character read uses up one step at most, so the
length of the text bounds the reading. -/
def parse (s : String) : Option Json := do
  let cs := s.toList
  let (j, rest) ← readValue (2 * cs.length + 2) cs
  if (skipGap rest).isEmpty then return j else none

end AmbientTx.Json
