import CodeGraph.Console.Constant
import CodeGraph.Console.Glyph
import CodeGraph.Console.Picture
import CodeGraph.Console.Style

/-!
# Style tags

Text for a console may hold tags such as `[bold]` and `[/bold]`.  They set the
style of what stands between them and are not shown.  A backslash in front of a
tag makes it plain text.
-/

namespace CodeGraph.Console

/-- Why tags cannot be applied. -/
inductive TagError
  /-- A closing tag without an opening one. -/
  | unopened (name : String)
  /-- The parameters of an event are no constant. -/
  | parameters (text : String)
  /-- A color has a part without digits, or with too many. -/
  | colorPart (fault : Numeral.IntegerFault)
  deriving DecidableEq, Repr

/-- The character that can start the name of a tag. -/
def startsTag (character : Char) : Bool :=
  ('a' ≤ character && character ≤ 'z') || ['#', '/', '@'].contains character

/-- A tag with the backslashes in front of it. -/
structure Tag where
  backslashes : Nat
  content : List Char
  deriving DecidableEq, Repr

/-- What is left of a text after at least one character. -/
abbrev Shorter (text : List Char) := { rest : List Char // rest.length < text.length }

/-- The tag at the start of a text. -/
def tagAt? (text : List Char) : Option (Tag × Shorter text) :=
  let backslashes := (text.takeWhile (· == '\x5c')).length
  match _after : text.drop backslashes with
  | '[' :: first :: more =>
      let inner := more.takeWhile fun character => character != '[' && character != ']'
      match _close : more.drop inner.length with
      | ']' :: rest =>
          if startsTag first then
            some ({ backslashes, content := first :: inner }, ⟨rest, by
              have outside := congrArg List.length _after
              have inside := congrArg List.length _close
              simp only [List.length_drop, List.length_cons] at outside inside
              omega⟩)
          else none
      | _ => none
  | _ => none

/-- A tag that is open: the canonical name of its style and its parameters. -/
structure OpenTag where
  name : String
  parameters : List Char := []
  deriving DecidableEq, Repr

/-- The name of a style in a tag. -/
def tagName (text : List Char) : Except TagError String :=
  (styleName text).mapError .colorPart

/-- The innermost open tag of a name, or of any where none is given, and the
others. -/
def closeTag (name : Option String) : List OpenTag → Except TagError (OpenTag × List OpenTag)
  | [] => .error (.unopened (name.getD ""))
  | innermost :: rest =>
      if name.all (· == innermost.name) then .ok (innermost, rest)
      else do
        let (closed, rest) ← closeTag name rest
        return (closed, innermost :: rest)

/-- The open tags after a closing one.  An event has constant parameters. -/
def OpenTag.afterClosing (name : List Char) (tags : List OpenTag) :
    Except TagError (List OpenTag) := do
  let name ← if name.all isBlank then pure none else some <$> tagName name
  let (closed, rest) ← closeTag name tags
  let parameters := stripBlanks closed.parameters
  if closed.name.startsWith "@" && !areParameters parameters then
    throw (.parameters (String.ofList closed.parameters))
  return rest

/-- A piece of text between tags. -/
structure Piece where
  number : Nat
  /-- A tag is open around it. -/
  styled : Bool
  text : List Char
  deriving DecidableEq, Repr

/-- Puts a character in front of the first piece. -/
def prependCharacter (character : Char) : List Piece → List Piece
  | [] => []
  | first :: rest => { first with text := character :: first.text } :: rest

/-- The pieces of text between tags, the first with the given number.  `tags` are
open at the start, innermost first.  A backslash in front of a bracket is
dropped. -/
def piecesFrom (number : Nat) (tags : List OpenTag) (text : List Char) :
    Except TagError (List Piece) :=
  let piece (text : List Char) : Piece := { number, styled := !tags.isEmpty, text }
  match text with
  | [] => .ok [piece []]
  | character :: rest =>
      match tagAt? (character :: rest) with
      | some (tag, after) =>
          let shown := piece (List.replicate (tag.backslashes / 2) '\x5c')
          if tag.backslashes % 2 = 1 then do
            let plain := piece ('[' :: tag.content ++ [']'])
            return piece [] :: shown :: plain :: (← piecesFrom number tags after)
          else
            match tag.content.takeWhile (· != '=') with
            | '/' :: closed => do
                let tags ← OpenTag.afterClosing closed tags
                return piece [] :: shown :: (← piecesFrom (number + 1) tags after)
            | opened => do
                let parameters := tag.content.drop (opened.length + 1)
                let tag : OpenTag := { name := ← tagName opened, parameters }
                return piece [] :: shown :: (← piecesFrom (number + 1) (tag :: tags) after)
      | none => do
          let pieces ← piecesFrom number tags rest
          if character = '\x5c' ∧ rest.head? = some '[' then return pieces
          else return prependCharacter character pieces
termination_by text.length
decreasing_by
  · exact after.property
  · exact after.property
  · exact after.property
  · simp

/-- The glyphs of pieces, with pictures in place of their names. -/
def glyphsOf (pieces : List Piece) : List Glyph :=
  pieces.flatMap fun piece =>
    (drawPictures piece.text).map fun character =>
      { character, piece := piece.number, styled := piece.styled }

/-- The glyphs of a text that ends with the piece of a number.  A tag behind the last
glyph keeps what fills its line from that glyph's piece, unless the text has
several lines. -/
def closeLast (number : Nat) (glyphs : List Glyph) : List Glyph :=
  match glyphs.getLast? with
  | none => glyphs
  | some last =>
      if last.piece = number ∨ (letters glyphs).contains '\n' then glyphs
      else glyphs.dropLast ++ [{ last with styled := true }]

/-- The text without its tags, with pictures in place of their names. -/
def renderTags (text : String) : Except TagError (List Glyph) := do
  let pieces ← piecesFrom 0 [] text.toList
  let number := (pieces.getLast?.map (·.number)).getD 0
  return closeLast number (glyphsOf pieces)

end CodeGraph.Console
