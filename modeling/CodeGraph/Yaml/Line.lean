/-!
# Characters and lines of YAML text

A line ends at a break.  Breaks are kept as they are, but the one for the next
line stands for a line feed.  Where lines are folded a single break becomes a
blank, and further ones are kept.
-/

namespace CodeGraph.Yaml

/-- The ranges of characters that a document may hold, by first and last code. -/
def printableRanges : List (Nat × Nat) :=
  [(0x09, 0x0A), (0x0D, 0x0D), (0x20, 0x7E), (0x85, 0x85), (0xA0, 0xD7FF), (0xE000, 0xFFFD),
    (0x10000, 0x10FFFF)]

/-- A document may hold the character. -/
def isPrintable (character : Char) : Bool :=
  printableRanges.any fun (first, last) => first ≤ character.toNat && character.toNat ≤ last

/-- Carriage returns, alone or before a line feed, become line feeds. -/
def normalizeReturns : List Char → List Char
  | [] => []
  | '\r' :: '\n' :: rest => '\n' :: normalizeReturns rest
  | character :: rest => (if character = '\r' then '\n' else character) :: normalizeReturns rest

/-- The character ends a line. -/
def isBreak (character : Char) : Bool :=
  ['\n', '\x85', '\u2028', '\u2029'].contains character

/-- The character is a blank inside of a line. -/
def isSpace (character : Char) : Bool :=
  character == ' ' || character == '\t'

/-- The character is a blank or ends a line. -/
def isWhite (character : Char) : Bool :=
  isSpace character || isBreak character

/-- The character that a break stands for. -/
def breakText (character : Char) : Char :=
  if character = '\x85' then '\n' else character

/-- The text is over, or goes on with a character of the kind. -/
def endsAt (kind : Char → Bool) (text : List Char) : Bool :=
  text.head?.all kind

/-- The text starts with the mark of the start or the end of a document. -/
def startsMark (text : List Char) : Bool :=
  (text.take 3 == ['-', '-', '-'] || text.take 3 == ['.', '.', '.']) && endsAt isWhite (text.drop 3)

/-- The breaks in a piece of text. -/
def breaksOf (text : List Char) : List Char :=
  (text.filter isBreak).map breakText

/-- What white text between words stands for. -/
def foldWhite (white : List Char) : List Char :=
  match breaksOf white with
  | [] => white
  | ['\n'] => [' ']
  | '\n' :: more => more
  | breaks => breaks

/-- White text ends at the start of a line that marks a document. -/
def runsIntoMark (white rest : List Char) : Bool :=
  white.getLast?.any isBreak && startsMark rest

/-- A line with the break that ends it; the last line of a text has none. -/
structure Line where
  content : List Char
  ending : Option Char := none
  deriving DecidableEq, Repr, Inhabited

namespace Line

/-- The number of characters, the break among them. -/
def length (line : Line) : Nat :=
  line.content.length + line.ending.toList.length

/-- The number of blanks that the line starts with. -/
def indent (line : Line) : Nat :=
  (line.content.takeWhile (· == ' ')).length

/-- The line holds blanks only and is ended. -/
def isEmpty (line : Line) : Bool :=
  line.content.all (· == ' ') && line.ending.isSome

end Line

/-- The lines of a text.  A text that ends with a break has an empty last line. -/
def linesOf : List Char → List Line
  | [] => [{ content := [] }]
  | character :: rest =>
      if isBreak character then { content := [], ending := some character } :: linesOf rest
      else
        match linesOf rest with
        | [] => [{ content := [character] }]
        | first :: more => { first with content := character :: first.content } :: more

/-- A place in a text. -/
structure Cursor where
  rest : List Char
  /-- The number of characters before the place. -/
  index : Nat := 0
  line : Nat := 0
  column : Nat := 0
  deriving DecidableEq, Repr, Inhabited

namespace Cursor

/-- The place behind the next character.  The mark of the byte order has no
width. -/
def next (cursor : Cursor) : Cursor :=
  match cursor.rest with
  | [] => cursor
  | character :: rest =>
      if isBreak character then ⟨rest, cursor.index + 1, cursor.line + 1, 0⟩
      else
        let width := if character = '\ufeff' then 0 else 1
        ⟨rest, cursor.index + 1, cursor.line, cursor.column + width⟩

/-- The place a number of characters further on. -/
def skip (cursor : Cursor) : Nat → Cursor
  | 0 => cursor
  | count + 1 => cursor.next.skip count

/-- The place where only `rest` is left of the text. -/
def moveTo (cursor : Cursor) (rest : List Char) : Cursor :=
  cursor.skip (cursor.rest.length - rest.length)

end Cursor

end CodeGraph.Yaml
