import CodeGraph.Yaml.Token

/-!
# From text to tokens

Outside of brackets indentation shows where a collection starts and ends.  That
a scalar is a key is known only from the colon behind it: until then it is kept
in mind as a possible key, at most one at each depth of brackets.
-/

namespace CodeGraph.Yaml

/-- A place where a key may have started. -/
structure PossibleKey where
  /-- The number of brackets that were open. -/
  depth : Nat
  /-- The number of tokens before. -/
  tokens : Nat
  /-- What starts here can only be a key. -/
  required : Bool
  place : Cursor
  deriving DecidableEq, Repr

/-- The tokens of the text up to a place, and what is open there. -/
structure Layout where
  place : Cursor
  tokens : List Token := []
  /-- The columns of open collections, innermost first. -/
  columns : List Nat := []
  /-- The number of open brackets. -/
  depth : Nat := 0
  /-- A key may start here. -/
  keyAllowed : Bool := true
  keys : List PossibleKey := []
  deriving DecidableEq, Repr

namespace Layout

/-- The layout with a token more. -/
def emit (layout : Layout) (token : Token) : Layout :=
  { layout with tokens := layout.tokens ++ [token] }

/-- The layout with tokens put in at an earlier place. -/
def insert (layout : Layout) (position : Nat) (tokens : List Token) : Layout :=
  { layout with
    tokens := layout.tokens.take position ++ tokens ++ layout.tokens.drop position }

/-- The least column that a further line may have. -/
def margin (layout : Layout) : Nat :=
  match layout.columns with
  | [] => 0
  | column :: _ => column + 1

/-- The longest text of a key that is only known as such behind it. -/
def keyLimit : Nat := 1024

/-- Forgets possible keys of other lines or too far back. -/
def dropStaleKeys (layout : Layout) : Except Error Layout :=
  let stale (key : PossibleKey) : Bool :=
    key.place.line != layout.place.line || keyLimit < layout.place.index - key.place.index
  if layout.keys.any fun key => stale key && key.required then .error .lostKey
  else .ok { layout with keys := layout.keys.filter (!stale ·) }

/-- Forgets the possible key at the present depth. -/
def dropKey (layout : Layout) : Except Error Layout :=
  if layout.keys.any fun key => key.depth == layout.depth && key.required then .error .lostKey
  else .ok { layout with keys := layout.keys.filter (·.depth != layout.depth) }

/-- Keeps the present place in mind as a possible key. -/
def saveKey (layout : Layout) : Except Error Layout := do
  if !layout.keyAllowed then return layout
  let layout ← layout.dropKey
  let required := layout.depth == 0 && layout.columns.head? == some layout.place.column
  let key : PossibleKey :=
    { depth := layout.depth, tokens := layout.tokens.length, required, place := layout.place }
  return { layout with keys := key :: layout.keys }

/-- Ends the collections that are indented further than a column. -/
def closeBeyond (fits : Nat → Bool) (layout : Layout) : Layout :=
  if layout.depth ≠ 0 then layout
  else
    let closed := layout.columns.takeWhile (!fits ·)
    { layout with
      tokens := layout.tokens ++ closed.map fun _ => Token.blockEnd
      columns := layout.columns.dropWhile (!fits ·) }

/-- Ends all collections that are shown by indentation. -/
def closeAll (layout : Layout) : Layout :=
  layout.closeBeyond fun _ => false

/-- A collection starts at a column when the column is a new one. -/
def startsAt (layout : Layout) (column : Nat) : Bool :=
  layout.depth == 0 && layout.columns.head?.all (· < column)

/-- Skips blanks, comments and empty lines. -/
def skipBlank (comment : Bool) : List Char → List Char
  | [] => []
  | character :: rest =>
      if isBreak character then skipBlank false rest
      else if comment || character == '#' then skipBlank true rest
      else if character = ' ' then skipBlank false rest
      else character :: rest

/-- Moves on to the next token.  A key may start on a new line. -/
def toToken (layout : Layout) : Layout :=
  let place := layout.place.moveTo (skipBlank false layout.place.rest)
  let keyAllowed := layout.keyAllowed || (layout.depth == 0 && place.line != layout.place.line)
  { layout with place, keyAllowed }

/-- The layout with a token of a number of characters. -/
def take (layout : Layout) (token : Token) (length : Nat) : Layout :=
  { layout.emit token with place := layout.place.skip length }

/-- The layout with a token that leaves the rest of the text. -/
def takeTo (layout : Layout) (token : Token) (rest : List Char) : Layout :=
  { layout.emit token with place := layout.place.moveTo rest }

/-- A directive or the mark of a document ends all that is open. -/
def closeDocument (layout : Layout) : Except Error Layout := do
  let layout ← layout.closeAll.dropKey
  return { layout with keyAllowed := false }

/-- A bracket opens; it may start a key. -/
def openFlow (layout : Layout) (token : Token) : Except Error Layout := do
  let layout ← layout.saveKey
  return { layout.take token 1 with depth := layout.depth + 1, keyAllowed := true }

/-- A bracket closes. -/
def closeFlow (layout : Layout) (token : Token) : Except Error Layout := do
  let layout ← layout.dropKey
  if layout.depth = 0 then throw .unbalanced
  return { layout.take token 1 with depth := layout.depth - 1, keyAllowed := false }

/-- A comma between brackets. -/
def comma (layout : Layout) : Except Error Layout := do
  let layout ← layout.dropKey
  return { layout.take .comma 1 with keyAllowed := true }

/-- A sign that may start a collection of lines at its column. -/
def openBlock (layout : Layout) (start : Token) : Except Error Layout := do
  if layout.depth ≠ 0 then return layout
  if !layout.keyAllowed then throw .misplaced
  if layout.startsAt layout.place.column then
    return { layout.emit start with columns := layout.place.column :: layout.columns }
  return layout

/-- The dash of an entry. -/
def entry (layout : Layout) : Except Error Layout := do
  let layout ← (← layout.openBlock .blockSequence).dropKey
  return { layout.take .entry 1 with keyAllowed := true }

/-- The question mark of a key. -/
def key (layout : Layout) : Except Error Layout := do
  let layout ← (← layout.openBlock .blockMapping).dropKey
  return { layout.take .key 1 with keyAllowed := layout.depth == 0 }

/-- The colon before a value.  If a possible key is before it, that is a key. -/
def value (layout : Layout) : Except Error Layout := do
  match layout.keys.find? (·.depth == layout.depth) with
  | some key =>
      let column := key.place.column
      let starts := layout.startsAt column
      let inserted := if starts then [Token.blockMapping, Token.key] else [Token.key]
      let columns := if starts then column :: layout.columns else layout.columns
      let layout := layout.insert key.tokens inserted
      let keys := layout.keys.filter (·.depth != layout.depth)
      return { layout.take .value 1 with columns, keys, keyAllowed := false }
  | none =>
      let layout ← (← layout.openBlock .blockMapping).dropKey
      return { layout.take .value 1 with keyAllowed := layout.depth == 0 }

/-- A token that may be a key or belong to one. -/
def node (layout : Layout) (token : Token) (rest : List Char) : Except Error Layout := do
  let layout ← layout.saveKey
  return { layout.takeTo token rest with keyAllowed := false }

/-- A block of lines; a key may start behind it. -/
def block (layout : Layout) (folded : Bool) (rest : List Char) : Except Error Layout := do
  let layout ← layout.dropKey
  let (text, after) ← readBlock folded (max 1 layout.margin) rest
  return { layout.takeTo (.scalar (Codes.ofChars text) false) after with keyAllowed := true }

/-- A plain scalar; a key may start behind it on a new line. -/
def plain (layout : Layout) : Except Error Layout := do
  let layout ← layout.saveKey
  let found := readPlain (layout.depth != 0) layout.margin layout.place.rest
  return { layout.takeTo (.scalar (Codes.ofChars found.text) true) found.rest with
    keyAllowed := found.endsLine }

/-- Signs that start no plain scalar. -/
def isIndicator (character : Char) : Bool :=
  isWhite character || "-?:,[]#&*!|>'\"%@".toList.contains character ||
    ['\x7b', '\x7d', '\x60'].contains character

/-- A plain scalar starts with the character. -/
def startsPlain (flow : Bool) (character : Char) (rest : List Char) : Bool :=
  !isIndicator character ||
    (!endsAt isWhite rest &&
      (character == '-' || (!flow && (character == '?' || character == ':'))))

/-- Takes the token at the present place, which starts with the character. -/
def token (layout : Layout) (character : Char) (rest : List Char) : Except Error Layout := do
  let flow := layout.depth ≠ 0
  let alone := endsAt isWhite rest
  let lineStart := layout.place.column = 0
  if character = '%' ∧ lineStart then
    let line := rest.takeWhile (!isBreak ·)
    let directive ← readDirective line
    return (← layout.closeDocument).takeTo (.directive directive) (rest.drop line.length)
  if lineStart ∧ startsMark (character :: rest) ∧ character = '-' then
    return (← layout.closeDocument).take .documentStart 3
  if lineStart ∧ startsMark (character :: rest) ∧ character = '.' then
    return (← layout.closeDocument).take .documentEnd 3
  match character with
  | '[' => layout.openFlow .openBracket
  | '\x7b' => layout.openFlow .openBrace
  | ']' => layout.closeFlow .closeBracket
  | '\x7d' => layout.closeFlow .closeBrace
  | ',' => layout.comma
  | '*' => do
      let (name, after) ← readName rest
      layout.node (.alias name) after
  | '&' => do
      let (name, after) ← readName rest
      layout.node (.anchor name) after
  | '!' => do
      let (tag, after) ← readTag rest
      layout.node tag after
  | '\x27' => do
      let (text, after) ← readSingle rest
      layout.node (.scalar (Codes.ofChars text) false) after
  | '\x22' => do
      let (text, after) ← readDouble rest
      layout.node (.scalar text false) after
  | _ =>
      if character = '-' ∧ alone then layout.entry
      else if character = '?' ∧ (flow ∨ alone) then layout.key
      else if character = ':' ∧ (flow ∨ alone) then layout.value
      else if character = '|' ∧ ¬flow then layout.block false rest
      else if character = '>' ∧ ¬flow then layout.block true rest
      else if startsPlain flow character rest then layout.plain
      else throw (.unexpectedCharacter character)

/-- The tokens that are known not to be or follow a possible key. -/
def settled (layout : Layout) : List Token :=
  layout.tokens.take ((layout.keys.map (·.tokens)).foldl min layout.tokens.length)

/-- Takes the next token, or none at the end of the text. -/
def next (layout : Layout) : Except Error (Layout × Bool) := do
  let layout ← layout.toToken.dropStaleKeys
  let layout := layout.closeBeyond (· ≤ layout.place.column)
  match layout.place.rest with
  | [] => return (← layout.closeAll.dropKey, true)
  | character :: rest => return (← layout.token character rest, false)

end Layout

/-- The tokens of a text, and what is wrong behind the last of them. -/
structure Tokens where
  known : List Token
  fault : Option Error := none
  deriving DecidableEq, Repr

/-- Takes all tokens.  Every token has a character, so the number of characters
bounds the number of steps. -/
def Layout.run : Nat → Layout → Tokens
  | 0, layout => { known := layout.tokens }
  | steps + 1, layout =>
      match layout.dropStaleKeys with
      | .error fault => { known := layout.settled, fault := some fault }
      | .ok layout =>
          match layout.next with
          | .error fault => { known := layout.settled, fault := some fault }
          | .ok (layout, true) => { known := layout.tokens }
          | .ok (layout, false) => layout.run steps

def tokensOf (text : String) : Tokens :=
  let characters := normalizeReturns text.toList
  match characters.find? (!isPrintable ·) with
  | some character => { known := [], fault := some (.unprintable character) }
  | none =>
      let start : Cursor := { rest := characters }
      let place := if characters.head? = some '\ufeff' then start.next else start
      Layout.run (characters.length + 1) { place }

end CodeGraph.Yaml
