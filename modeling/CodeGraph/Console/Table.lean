import CodeGraph.Console.Lines

/-!
# Tables of fields

A table has a title over it, and a row for each field with its name and value.
The columns are as wide as what they hold, as far as the console is.
-/

namespace CodeGraph.Console

/-- What stands for a value that is absent. -/
def absentMark : String := "-"

/-- The breaks that are looked at where the width of a text is measured. -/
def isMeasureBreak (character : Char) : Bool :=
  ['\n', '\x1c', '\x1d', '\x1e', '\x85', '\u2028', '\u2029'].contains character

/-- Takes a text apart at breaks. -/
def measureLines : List Char → List (List Char)
  | [] => [[]]
  | character :: rest =>
      match measureLines rest with
      | [] => [[character]]
      | line :: lines =>
          if isMeasureBreak character then [] :: line :: lines else (character :: line) :: lines

/-- The width of the widest line. -/
def measure (text : List Glyph) : Nat :=
  ((measureLines (letters text)).map width).foldl max 0

/-- A column's cells have a blank on both sides. -/
def cellPadding : Nat := 2

/-- The widths of the columns of names and values, with padding.  Three bars
stand beside and between them. -/
def columnWidths (names values : List (List Glyph)) : Nat × Nat :=
  let widest (texts : List (List Glyph)) : Nat := (texts.map measure).foldl max 0
  let first := widest names + cellPadding
  (first, min (widest values + cellPadding) (consoleWidth - 3 - first))

/-- A line from one corner to another, with a mark between the columns. -/
def rule (widths : Nat × Nat) (left middle right : Char) : List Char :=
  left :: List.replicate widths.1 '─' ++ middle :: List.replicate widths.2 '─' ++ [right]

/-- A cell's line between blanks. -/
def cellLine (limit : Nat) (line : List Glyph) : List Char :=
  let room := limit - cellPadding
  let blank : List Glyph := [{ character := ' ' }]
  let inner := fitPieces room (pieces (padRight room line))
  letters (fitPieces limit ([blank] ++ inner ++ [blank])).flatten

def rowLines (widths : Nat × Nat) (name value : List Glyph) : List (List Char) :=
  let names := wrap (widths.1 - cellPadding) name
  let values := wrap (widths.2 - cellPadding) value
  (List.range (max names.length values.length)).map fun position =>
    '│' :: cellLine widths.1 (names.getD position []) ++
      '│' :: cellLine widths.2 (values.getD position []) ++ ['│']

/-- The text of a table. -/
def table (title : String) (fields : List (String × Option String)) :
    Except TagError String := do
  let title ← plainText title
  let names ← fields.mapM fun (name, _) => plainText name
  let values ← fields.mapM fun (_, value) => plainText (value.getD absentMark)
  let widths := columnWidths names values
  let total := widths.1 + widths.2 + 3
  let rows := (names.zip values).flatMap fun (name, value) => rowLines widths name value
  let lines :=
    (wrap total title).map (letters <| center total ·) ++ [rule widths '┌' '┬' '┐'] ++ rows ++
      [rule widths '└' '┴' '┘']
  return String.ofList (lines.flatMap (· ++ ['\n']))

end CodeGraph.Console
