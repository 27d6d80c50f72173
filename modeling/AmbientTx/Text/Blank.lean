/-! # Blank text

A text is *blank* when trimming leaves nothing of it. White space is the Unicode property
`White_Space`, so a no-break space or an ideographic space is white and a zero-width space
is not.
-/

namespace AmbientTx.Text

/-- The ranges of code points with the property `White_Space`, in ascending order. -/
def whiteRanges : List (Nat × Nat) :=
  [(0x0009, 0x000D), (0x0020, 0x0020), (0x0085, 0x0085), (0x00A0, 0x00A0), (0x1680, 0x1680),
   (0x2000, 0x200A), (0x2028, 0x2029), (0x202F, 0x202F), (0x205F, 0x205F), (0x3000, 0x3000)]

/-- Whether a character has the property `White_Space`. -/
def isWhite (c : Char) : Bool :=
  whiteRanges.any fun r => r.1 ≤ c.toNat && c.toNat ≤ r.2

/-- Drops white space from both ends. -/
def trim (cs : List Char) : List Char :=
  ((cs.dropWhile isWhite).reverse.dropWhile isWhite).reverse

/-- Whether trimming leaves nothing. -/
def isBlank (s : String) : Bool :=
  (trim s.toList).isEmpty

example : isBlank "" = true := by decide
example : isBlank " \t\n" = true := by decide
example : isBlank " a " = false := by decide

end AmbientTx.Text
