/-!
# Blank characters

The characters that separate words: the white space of Unicode and the four
separators among the control characters.
-/

namespace CodeGraph

/-- The ranges of blank characters, by first and last code. -/
def blankRanges : List (Nat × Nat) :=
  [(0x09, 0x0D), (0x1C, 0x20), (0x85, 0x85), (0xA0, 0xA0), (0x1680, 0x1680), (0x2000, 0x200A),
    (0x2028, 0x2029), (0x202F, 0x202F), (0x205F, 0x205F), (0x3000, 0x3000)]

/-- A code point is blank when it lies in one of the ranges. -/
def isBlankCode (code : Nat) : Bool :=
  blankRanges.any fun (first, last) => first ≤ code && code ≤ last

/-- A character is blank when its code is. -/
def isBlank (character : Char) : Bool :=
  isBlankCode character.toNat

/-- The text between the blanks at its start and at its end. -/
def stripBlanks (text : List Char) : List Char :=
  ((text.dropWhile isBlank).reverse.dropWhile isBlank).reverse

end CodeGraph
