import CodeGraph.Text.Utf8
import CodeGraph.Yaml.Scalar

/-!
# Tokens of YAML text

A token says what the text holds at a place.  Tokens without text of their own
say where a collection that is shown by indentation starts and ends.
-/

namespace CodeGraph.Yaml

/-- A line for the reader of a document. -/
inductive Directive
  | version (major : Nat)
  /-- A short form for the start of tags. -/
  | handle (name start : String)
  /-- A directive that is passed over. -/
  | other
  deriving DecidableEq, Repr

inductive Token
  | directive (directive : Directive)
  | documentStart
  | documentEnd
  | blockSequence
  | blockMapping
  | blockEnd
  | openBracket
  | closeBracket
  | openBrace
  | closeBrace
  | entry
  | comma
  | key
  | value
  | alias (name : String)
  | anchor (name : String)
  /-- A tag with the short form that it starts with. -/
  | tag (handle : Option String) (suffix : String)
  | scalar (text : Codes) (plain : Bool)
  deriving DecidableEq, Repr

/-- Letters and digits of ASCII. -/
def isAsciiAlphanumeric (character : Char) : Bool :=
  character.isAlphanum

def isNameCharacter (character : Char) : Bool :=
  isAsciiAlphanumeric character || character == '-' || character == '_'

/-- A text is over, or goes on with a blank or a break. -/
def endsWord (text : List Char) : Bool :=
  endsAt (fun character => character == ' ' || isBreak character) text

/-- The characters that may follow a name. -/
def followsName (character : Char) : Bool :=
  isWhite character || ['?', ':', ',', ']', '\x7d', '%', '@', '\x60'].contains character

/-- The name behind the sign of an anchor or alias, and what follows. -/
def readName (text : List Char) : Except Error (String × List Char) :=
  let name := text.takeWhile isNameCharacter
  let rest := text.dropWhile isNameCharacter
  if !name.isEmpty && endsAt followsName rest then .ok (String.ofList name, rest)
  else .error .name

def isTagCharacter (character : Char) : Bool :=
  isAsciiAlphanumeric character || "-;/?:@&=+$,_.!~*'()[]".toList.contains character

/-- The code units of a tag, where a percent sign and two digits stand for one,
and what follows. -/
def tagBytes : List Char → Except Error (Bytes × List Char)
  | [] => .ok ([], [])
  | '%' :: high :: low :: rest =>
      match hexValue? [high, low] with
      | some code => do
          let (bytes, after) ← tagBytes rest
          return (UInt8.ofNat code :: bytes, after)
      | none => .error .tag
  | '%' :: _ => .error .tag
  | character :: rest =>
      if isTagCharacter character then do
        let (bytes, after) ← tagBytes rest
        return (UInt8.ofNat character.toNat :: bytes, after)
      else .ok ([], character :: rest)

/-- The text of a tag, which is not empty, and what follows. -/
def readTagText (text : List Char) : Except Error (String × List Char) := do
  let (bytes, rest) ← tagBytes text
  if bytes.isEmpty then throw .tag
  match Utf8.decode bytes with
  | .ok name => return (name, rest)
  | .error _ => throw .tag

/-- The short form for the start of tags behind its first sign, and what
follows. -/
def readHandle (text : List Char) : Except Error (String × List Char) :=
  let name := text.takeWhile isNameCharacter
  match text.dropWhile isNameCharacter with
  | '!' :: rest => .ok (String.ofList ('!' :: name ++ ['!']), rest)
  | _ => .error .tag

/-- The tag behind its first sign, and what follows. -/
def readTag (text : List Char) : Except Error (Token × List Char) := do
  let (token, rest) ← match text with
    | '<' :: rest => do
        let (name, after) ← readTagText rest
        match after with
        | '>' :: final => pure (Token.tag none name, final)
        | _ => throw .tag
    | _ =>
        if endsAt isWhite text then pure (Token.tag none "!", text)
        else do
          let word := text.takeWhile fun character => !(character == ' ' || isBreak character)
          let (handle, after) ← if word.contains '!' then readHandle text else pure ("!", text)
          let (suffix, final) ← readTagText after
          pure (Token.tag (some handle) suffix, final)
  if endsWord rest then return (token, rest) else throw .tag

/-- The digits at the start of a text, and what follows. -/
def readDigits (text : List Char) : Except Error (Nat × List Char) :=
  let digits := text.takeWhile Char.isDigit
  if digits.isEmpty then .error .directive
  else
    .ok (digits.foldl (fun value digit => 10 * value + (digit.toNat - '0'.toNat)) 0,
      text.dropWhile Char.isDigit)

/-- The version that a document asks for, and what follows. -/
def readVersion (text : List Char) : Except Error (Directive × List Char) := do
  let (major, rest) ← readDigits text
  match rest with
  | '.' :: minor =>
      let (_, final) ← readDigits minor
      if endsWord final then return (.version major, final) else throw .directive
  | _ => throw .directive

/-- A short form for the start of tags, and what follows. -/
def readTagHandle (text : List Char) : Except Error (Directive × List Char) := do
  let (name, rest) ← match text with
    | '!' :: rest =>
        if rest.head? = some ' ' then pure ("!", rest) else readHandle rest
    | _ => throw .directive
  if rest.head? ≠ some ' ' then throw .directive
  let (start, final) ← readTagText (rest.dropWhile (· == ' '))
  if endsWord final then return (.handle name start, final) else throw .directive

/-- The directive behind its sign, on a line. -/
def readDirective (line : List Char) : Except Error Directive := do
  let name := line.takeWhile isNameCharacter
  let rest := line.dropWhile isNameCharacter
  if name.isEmpty || !endsWord rest then throw .directive
  let value := rest.dropWhile (· == ' ')
  let (directive, final) ←
    if name = "YAML".toList then readVersion value
    else if name = "TAG".toList then readTagHandle value
    else pure (Directive.other, [])
  if isTrailer final then return directive else throw .directive

end CodeGraph.Yaml
