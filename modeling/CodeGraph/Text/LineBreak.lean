/-!
# Line breaks

A line ends at a line feed, at a carriage return alone or together with the
line feed behind it, at a vertical tab or form feed, at one of the upper three
separators among the control characters, and at the next line, line separator
and paragraph separator of Unicode.
-/

namespace CodeGraph

/-- The codes of the characters that end a line. -/
def lineBreakCodes : List Nat :=
  [0x0A, 0x0B, 0x0C, 0x0D, 0x1C, 0x1D, 0x1E, 0x85, 0x2028, 0x2029]

/-- A character that ends a line. -/
def isLineBreak (character : Char) : Bool :=
  lineBreakCodes.contains character.toNat

/-- Puts a character in front of the first of the lines. -/
def extendFirst (character : Char) : List (List Char) → List (List Char)
  | [] => [[character]]
  | first :: rest => (character :: first) :: rest

/-- The lines of a text without their breaks.  A break at the end opens no
further line. -/
def brokenLines : List Char → List (List Char)
  | [] => []
  | '\r' :: '\n' :: rest => [] :: brokenLines rest
  | character :: rest =>
      if isLineBreak character then [] :: brokenLines rest
      else extendFirst character (brokenLines rest)

end CodeGraph
