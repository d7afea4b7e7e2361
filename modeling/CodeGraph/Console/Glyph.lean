import CodeGraph.Console.Width

/-!
# Glyphs and clusters

Text on a console is a row of glyphs, each of which knows the piece of text that
it stands in: tags and the blanks that fill a line divide a text into pieces.
Glyphs that are shown as one form a cluster, and a line is broken only between
clusters.
-/

namespace CodeGraph.Console

/-- A character in its piece of a text. -/
structure Glyph where
  character : Char
  /-- The number of the piece. -/
  piece : Nat := 0
  /-- A tag is open around the piece. -/
  styled : Bool := false
  deriving DecidableEq, Repr

/-- The characters of glyphs. -/
def letters (glyphs : List Glyph) : List Char :=
  glyphs.map (·.character)

/-- The number of cells that glyphs take as one text. -/
def cells (glyphs : List Glyph) : Nat :=
  width (letters glyphs)

/-- Blanks that stand where a glyph stands. -/
def Glyph.blanks (glyph : Glyph) (count : Nat) : List Glyph :=
  List.replicate count { glyph with character := ' ' }

/-- Blanks behind a line.  They belong to its last piece unless that is styled. -/
def blanksBehind (line : List Glyph) (count : Nat) : List Glyph :=
  match line.getLast? with
  | none => ({ character := ' ' } : Glyph).blanks count
  | some last =>
      if last.styled then ({ character := ' ', piece := last.piece + 1 } : Glyph).blanks count
      else last.blanks count

def pieces (line : List Glyph) : List (List Glyph) :=
  line.splitBy fun left right => left.piece == right.piece

/-- Glyphs that are shown as one, with the cells that they take. -/
structure Cluster where
  glyphs : List Glyph
  width : Nat
  deriving DecidableEq, Repr

/-- The clusters of a text under way, the last one first. -/
structure Clustering where
  found : List Cluster := []
  /-- The last character that took cells. -/
  last : Option Char := none
  /-- A joiner stands before the next glyph. -/
  joined : Bool := false
  deriving DecidableEq, Repr

namespace Clustering

/-- Adds a glyph to the last cluster and makes that wider. -/
def extend (state : Clustering) (glyph : Glyph) (more : Nat) : Clustering :=
  match state.found with
  | [] => { state with found := [⟨[glyph], more⟩] }
  | current :: before =>
      { state with found := ⟨current.glyphs ++ [glyph], current.width + more⟩ :: before }

/-- Adds the next glyph. -/
def add (state : Clustering) (glyph : Glyph) : Clustering :=
  let character := glyph.character
  if state.joined then { state.extend glyph 0 with joined := false }
  else if character = joiner then { state.extend glyph 0 with joined := !state.found.isEmpty }
  else if character = selector then
    let more := if state.found.isEmpty then 0 else selectedWidth state.last
    { state.extend glyph more with last := if more = 0 then state.last else none }
  else
    let taken := characterWidth character
    if taken = 0 then state.extend glyph 0
    else { state with found := ⟨[glyph], taken⟩ :: state.found, last := some character }

end Clustering

def clusters (text : List Glyph) : List Cluster :=
  (text.foldl Clustering.add {}).found.reverse

/-- The clusters at the start that fit; half of a wide one becomes a blank. -/
def fitting (limit : Nat) : List Cluster → List Glyph
  | [] => []
  | first :: rest =>
      if limit = 0 then []
      else if first.width ≤ limit then first.glyphs ++ fitting (limit - first.width) rest
      else (first.glyphs.head?.toList.flatMap fun glyph => glyph.blanks 1)

/-- As much of a text as fits. -/
def crop (limit : Nat) (text : List Glyph) : List Glyph :=
  if cells text ≤ limit then text else fitting limit (clusters text)

/-- A line with blanks up to a width. -/
def padRight (limit : Nat) (line : List Glyph) : List Glyph :=
  line ++ blanksBehind line (limit - cells line)

/-- The pieces of a line up to a width. -/
def cropPieces (limit : Nat) : List (List Glyph) → List (List Glyph)
  | [] => []
  | first :: rest =>
      if cells first < limit then first :: cropPieces (limit - cells first) rest
      else [crop limit first]

/-- The cells of a line where each piece is counted on its own. -/
def piecesWidth (line : List (List Glyph)) : Nat :=
  line.foldr (fun piece sum => cells piece + sum) 0

/-- The pieces of a line, cropped where they take more than a width. -/
def boundPieces (limit : Nat) (line : List (List Glyph)) : List (List Glyph) :=
  if limit < piecesWidth line then cropPieces limit line else line

/-- The pieces of a line, cropped or padded to a width. -/
def fitPieces (limit : Nat) (line : List (List Glyph)) : List (List Glyph) :=
  boundPieces limit line ++ [({ character := ' ' } : Glyph).blanks (limit - piecesWidth line)]

end CodeGraph.Console
