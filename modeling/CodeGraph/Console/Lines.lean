import CodeGraph.Console.Glyph
import CodeGraph.Console.Tags
import CodeGraph.Text.Blank

/-!
# Lines on a console

Text is broken between words where a line is full.  A word that is longer than a
line is broken inside.
-/

namespace CodeGraph.Console

/-- The control characters that would move the place of writing. -/
def movesPlace (character : Char) : Bool :=
  ['\x07', '\x08', '\x0b', '\x0c', '\x0d'].contains character

/-- The text of a console without tags and moves. -/
def plainText (text : String) : Except TagError (List Glyph) := do
  return (← renderTags text).filter (!movesPlace ·.character)

def Glyph.isBlank (glyph : Glyph) : Bool :=
  CodeGraph.isBlank glyph.character

/-- The distance of tab stops. -/
def tabSize : Nat := 8

/-- A line with blanks in place of tabs.  `column` cells and the glyphs of `part`,
the last one first, stand before it. -/
def expandTabs (column : Nat) (part : List Glyph) : List Glyph → List Glyph
  | [] => part.reverse
  | glyph :: rest =>
      if glyph.character = '\t' then
        let part := (part.reverse ++ glyph.blanks 1)
        let reached := column + cells part
        let more := (tabSize - reached % tabSize) % tabSize
        part ++ glyph.blanks more ++ expandTabs (reached + more) [] rest
      else expandTabs column (glyph :: part) rest

/-- Takes a text apart at line feeds. -/
def splitLines : List Glyph → List (List Glyph)
  | [] => [[]]
  | glyph :: rest =>
      match splitLines rest with
      | [] => [[glyph]]
      | line :: lines =>
          if glyph.character = '\n' then [] :: line :: lines else (glyph :: line) :: lines

/-- The words of a line, each with the blanks behind it; blanks at the start
belong to the first word. -/
def words (started : Bool) : List Glyph → List (List Glyph)
  | [] => []
  | glyph :: rest =>
      match words (started || !glyph.isBlank) rest with
      | [] => [[glyph]]
      | word :: more =>
          let starts := started && glyph.isBlank && word.head?.any (!·.isBlank)
          if starts then [glyph] :: word :: more else (glyph :: word) :: more

/-- The text without the blanks at its end. -/
def trimEnd (text : List Glyph) : List Glyph :=
  (text.reverse.dropWhile Glyph.isBlank).reverse

/-- Clusters in parts that fit a line.  `used` cells of the first are taken. -/
def chop (limit used : Nat) : List Cluster → List (List Glyph)
  | [] => [[]]
  | first :: rest =>
      let full : Bool := limit < used + first.width
      match chop limit (if full then first.width else used + first.width) rest with
      | [] => [first.glyphs]
      | part :: parts =>
          if full then [] :: (first.glyphs ++ part) :: parts else (first.glyphs ++ part) :: parts

/-- Lines under way: the finished ones, and the last with its width. -/
structure Filling where
  finished : List (List Glyph) := []
  last : List Glyph := []
  used : Nat := 0
  deriving DecidableEq, Repr

/-- The lines with a word more. -/
def Filling.add (limit : Nat) (filling : Filling) (word : List Glyph) : Filling :=
  let needed := cells (trimEnd word)
  let isFirst := filling.finished.isEmpty && filling.last.isEmpty
  if filling.used + needed ≤ limit then
    { filling with last := filling.last ++ word, used := filling.used + cells word }
  else if limit < needed then
    let parts := chop limit 0 (clusters word)
    let before := if isFirst then [] else [filling.last]
    { finished := filling.finished ++ before ++ parts.dropLast
      last := parts.getLast?.getD []
      used := cells (parts.getLast?.getD []) }
  else
    { finished := filling.finished ++ [filling.last], last := word, used := cells word }

/-- A line without the blanks at its end that do not fit. -/
def trimBeyond (limit : Nat) (line : List Glyph) : List Glyph :=
  let blanks := line.length - (trimEnd line).length
  line.take (line.length - min blanks (line.length - limit))

/-- The lines of a text, none of them wider than the limit. -/
def wrap (limit : Nat) (text : List Glyph) : List (List Glyph) :=
  (splitLines text).flatMap fun line =>
    let expanded := if (letters line).contains '\t' then expandTabs 0 [] line else line
    let filled := (words false expanded).foldl (Filling.add limit) {}
    (filled.finished ++ [filled.last]).map fun line => crop limit (trimBeyond limit line)

/-- A line in the middle of a width. -/
def center (limit : Nat) (line : List Glyph) : List Glyph :=
  let bare := trimEnd line
  padRight limit (({ character := ' ' } : Glyph).blanks ((limit - cells bare) / 2) ++ bare)

def consoleWidth : Nat := 1000

/-- The text that a message shows. -/
def printed (message : String) : Except TagError String := do
  let lines := wrap consoleWidth (← plainText message)
  return String.ofList (lines.flatMap fun line =>
    letters (boundPieces consoleWidth (pieces line)).flatten ++ ['\n'])

end CodeGraph.Console
