import CodeGraph.Text.Hex
import CodeGraph.Yaml.Error
import CodeGraph.Yaml.Line

/-!
# Scalars of YAML text

A scalar is written in quotes, plain, or as a block of lines that are indented
further than what they belong to.
-/

namespace CodeGraph.Yaml

/-- What is left of a text. -/
abbrev Rest (text : List Char) := { rest : List Char // rest.length ≤ text.length }

/-- What is left behind the white characters at the start of a text. -/
def skipWhite (text : List Char) : Rest text :=
  ⟨text.dropWhile isWhite, (List.dropWhile_suffix isWhite).length_le⟩

/-- The characters that an escape of one letter stands for. -/
def escapes : List (Char × Char) :=
  [('0', '\x00'), ('a', '\x07'), ('b', '\x08'), ('t', '\t'), ('\t', '\t'), ('n', '\n'),
    ('v', '\x0b'), ('f', '\x0c'), ('r', '\r'), ('e', '\x1b'), (' ', ' '), ('\x22', '\x22'),
    ('\x5c', '\x5c'), ('/', '/'), ('N', '\x85'), ('_', '\xa0'), ('L', '\u2028'), ('P', '\u2029')]

/-- How many digits of a code follow a letter. -/
def codeLength? : Char → Option Nat
  | 'x' => some 2
  | 'u' => some 4
  | 'U' => some 8
  | _ => none

/-- The number that hexadecimal digits stand for. -/
def hexValue? (digits : List Char) : Option Nat :=
  digits.foldl
    (fun value digit => do return 16 * (← value) + (← Hex.digit? digit))
    (some 0)

/-- One above the greatest code point. -/
def codeBound : Nat := 0x110000

/-- One above the greatest number that an escape may stand for at all. -/
def codeSizeBound : Nat := 0x80000000

/-- The code point that an escape of digits stands for; it may be a surrogate. -/
def readCode (count : Nat) (digits : List Char) : Except Error Nat :=
  match hexValue? digits with
  | some code =>
      if digits.length ≠ count then .error .escape
      else if codeSizeBound ≤ code then .error (.value .codeSize)
      else if codeBound ≤ code then .error (.value .code)
      else .ok code
  | none => .error .escape

/-- The code points of an escape behind its backslash.  At the end of a line the
break and the blanks around it are dropped, and further breaks are kept. -/
def readEscape : (text : List Char) → Except Error (Codes × Rest text)
  | [] => .error .escape
  | letter :: rest =>
      match escapes.lookup letter, codeLength? letter with
      | some character, _ => .ok ([character.toNat], ⟨rest, by simp⟩)
      | none, some count => do
          let code ← readCode count (rest.take count)
          return ([code], ⟨rest.drop count, by simp; omega⟩)
      | none, none =>
          if isBreak letter then
            let white := (letter :: rest).takeWhile isWhite
            let after := skipWhite (letter :: rest)
            if runsIntoMark white after then .error .markInText
            else .ok (Codes.ofChars (breaksOf white).tail, after)
          else .error .escape

/-- The text in double quotes behind the first of them, and what follows the
last. -/
def readDouble (text : List Char) : Except Error (Codes × List Char) :=
  match text with
  | [] => .error .unterminated
  | '\x22' :: rest => .ok ([], rest)
  | '\x5c' :: rest => do
      let (start, after) ← readEscape rest
      let (more, final) ← readDouble after
      return (start ++ more, final)
  | character :: rest =>
      if isWhite character then do
        let white := (character :: rest).takeWhile isWhite
        let after := skipWhite rest
        if runsIntoMark white after then throw .markInText
        let (more, final) ← readDouble after
        return (Codes.ofChars (foldWhite white) ++ more, final)
      else do
        let (more, final) ← readDouble rest
        return (character.toNat :: more, final)
termination_by text.length
decreasing_by
  · have := after.property; simp only [List.length_cons]; omega
  · have := (skipWhite rest).property; simp only [List.length_cons]; omega
  · simp

/-- The text in single quotes behind the first of them, and what follows the
last.  A quote inside of the text is written twice. -/
def readSingle (text : List Char) : Except Error (List Char × List Char) :=
  match text with
  | [] => .error .unterminated
  | '\x27' :: '\x27' :: rest => do
      let (more, final) ← readSingle rest
      return ('\x27' :: more, final)
  | '\x27' :: rest => .ok ([], rest)
  | character :: rest =>
      if isWhite character then do
        let white := (character :: rest).takeWhile isWhite
        let after := skipWhite rest
        if runsIntoMark white after then throw .markInText
        let (more, final) ← readSingle after
        return (foldWhite white ++ more, final)
      else do
        let (more, final) ← readSingle rest
        return (character :: more, final)
termination_by text.length
decreasing_by
  · simp only [List.length_cons]; omega
  · have := (skipWhite rest).property; simp only [List.length_cons]; omega
  · simp

/-- The signs that end plain text between brackets. -/
def isFlowSign (character : Char) : Bool :=
  [',', '?', '[', ']', '\x7b', '\x7d'].contains character

/-- A colon before the text separates a key from its value. -/
def separates (flow : Bool) (text : List Char) : Bool :=
  endsAt (fun character =>
    isWhite character || (flow && [',', '[', ']', '\x7b', '\x7d'].contains character)) text

/-- The plain word at the start of a text, and what follows. -/
def plainWord (flow : Bool) : List Char → List Char × List Char
  | [] => ([], [])
  | character :: rest =>
      if isWhite character || (character == ':' && separates flow rest) ||
          (flow && isFlowSign character) then
        ([], character :: rest)
      else
        let (word, after) := plainWord flow rest
        (character :: word, after)

theorem length_plainWord_le (flow : Bool) (text : List Char) :
    (plainWord flow text).2.length ≤ text.length := by
  induction text with
  | nil => simp [plainWord]
  | cons character rest induction =>
      simp only [plainWord]
      split
      · exact Nat.le_refl _
      · simp only [List.length_cons]
        omega

/-- A plain scalar. -/
structure Plain where
  text : List Char
  /-- What follows the scalar and the white text behind it. -/
  rest : List Char
  /-- The white text behind the scalar ends its line. -/
  endsLine : Bool
  deriving DecidableEq, Repr

/-- A blank that can join plain words. -/
def isJoint (character : Char) : Bool :=
  character == ' ' || isBreak character

/-- How far a line is indented that white text leads to, if it leads to one. -/
def lineIndent? (white : List Char) : Option Nat :=
  if white.any isBreak then some (white.reverse.takeWhile (!isBreak ·)).length else none

/-- The plain scalar at the start of a text.  Outside of brackets its further
lines have at least the given indent. -/
def readPlain (flow : Bool) (indent : Nat) (text : List Char) : Plain :=
  let word := plainWord flow text
  let white := word.2.takeWhile isJoint
  let rest := word.2.dropWhile isJoint
  let tooNear := !flow && (lineIndent? white).any (· < indent)
  if _goesOn : white ≠ [] ∧ rest.head? ≠ some '#' ∧ !runsIntoMark white rest ∧ !tooNear ∧
      !(plainWord flow rest).1.isEmpty then
    let more := readPlain flow indent rest
    { more with text := word.1 ++ foldWhite white ++ more.text }
  else { text := word.1, rest, endsLine := white.any isBreak }
termination_by text.length
decreasing_by
  have shorter := length_plainWord_le flow text
  have whole : word.2.takeWhile isJoint ++ word.2.dropWhile isJoint = word.2 :=
    List.takeWhile_append_dropWhile
  have parts := congrArg List.length whole
  have taken : 0 < (word.2.takeWhile isJoint).length := List.length_pos_iff.mpr _goesOn.1
  simp only [List.length_append, word] at parts taken
  omega

/-- What becomes of the last break of a block. -/
inductive Chomping
  /-- It is dropped. -/
  | strip
  /-- It is kept, but none of the empty lines behind it. -/
  | clip
  /-- It is kept with all empty lines behind it. -/
  | keep
  deriving DecidableEq, Repr

/-- What the first line of a block says. -/
structure BlockHeader where
  chomping : Chomping := .clip
  /-- The indent of the block, counted from what it belongs to. -/
  indent : Option Nat := none
  deriving DecidableEq, Repr

/-- The chomping that a sign stands for. -/
def chomping? : Char → Option Chomping
  | '+' => some .keep
  | '-' => some .strip
  | _ => none

/-- The indent that a digit stands for. -/
def indent? (character : Char) : Option Nat :=
  if '1' ≤ character ∧ character ≤ '9' then some (character.toNat - '0'.toNat) else none

/-- Nothing but blanks and a comment. -/
def isTrailer (text : List Char) : Bool :=
  match text.dropWhile (· == ' ') with
  | [] => true
  | character :: _ => character == '#'

/-- Reads the first line of a block: a sign and a digit in either order, then
at most a comment. -/
def BlockHeader.read (content : List Char) : Except Error BlockHeader :=
  let (header, rest) : BlockHeader × List Char := match content with
    | [] => ({}, [])
    | first :: rest =>
        match chomping? first, indent? first with
        | some chomping, _ =>
            match rest with
            | second :: tail =>
                match indent? second with
                | some indent => ({ chomping, indent := some indent }, tail)
                | none => ({ chomping }, rest)
            | [] => ({ chomping }, [])
        | none, some indent =>
            match rest with
            | second :: tail =>
                match chomping? second with
                | some chomping => ({ chomping, indent := some indent }, tail)
                | none => ({ indent := some indent }, rest)
            | [] => ({ indent := some indent }, [])
        | none, none => ({}, content)
  if endsAt (· == ' ') rest && isTrailer rest then .ok header else .error .blockHeader

/-- A line of a block without its indent. -/
inductive BlockLine
  | empty (ending : Char)
  | filled (content : List Char) (ending : Option Char)
  deriving DecidableEq, Repr

/-- A line as part of a block with an indent. -/
def blockLine? (indent : Nat) (line : Line) : Option BlockLine :=
  match line.ending with
  | some ending =>
      if line.content.all (· == ' ') && line.content.length ≤ indent then some (.empty ending)
      else if indent ≤ line.indent then some (.filled (line.content.drop indent) ending)
      else none
  | none =>
      if indent ≤ line.indent && indent < line.content.length then
        some (.filled (line.content.drop indent) none)
      else none

/-- The lines of a block at the start of lines. -/
def blockLines (indent : Nat) : List Line → List BlockLine
  | [] => []
  | line :: rest =>
      match blockLine? indent line with
      | some part => part :: blockLines indent rest
      | none => []

/-- The indent of a block that its lines show: the first line that is not empty
sets it, but it is never less than that of an empty line before. -/
def shownIndent (least : Nat) (lines : List Line) : Nat :=
  let empty := lines.takeWhile (·.isEmpty)
  let first := (lines.dropWhile (·.isEmpty)).head?.toList
  ((empty ++ first).map (·.indent)).foldl max least

/-- A filled line with the breaks before it. -/
structure BlockPart where
  before : List Char := []
  content : List Char
  ending : List Char
  deriving DecidableEq, Repr

namespace BlockPart

/-- The line starts with a blank. -/
def isIndented (part : BlockPart) : Bool :=
  part.content.head?.any isSpace

/-- What stands between two filled lines, apart from the breaks of empty ones. -/
def joint (folded : Bool) (first second : BlockPart) : List Char :=
  if folded ∧ first.ending = ['\n'] ∧ !first.isIndented ∧ !second.isIndented then
    if second.before.isEmpty then [' '] else []
  else first.ending

/-- The text of filled lines, and the break behind the last. -/
def join (folded : Bool) : List BlockPart → List Char × List Char
  | [] => ([], [])
  | [last] => (last.before ++ last.content, last.ending)
  | first :: second :: rest =>
      let (more, ending) := join folded (second :: rest)
      (first.before ++ first.content ++ joint folded first second ++ more, ending)

end BlockPart

/-- The filled lines of a block, and the breaks behind the last. -/
def blockParts : List BlockLine → List BlockPart × List Char
  | [] => ([], [])
  | .empty ending :: rest =>
      match blockParts rest with
      | ([], final) => ([], breakText ending :: final)
      | (part :: parts, final) =>
          ({ part with before := breakText ending :: part.before } :: parts, final)
  | .filled content ending :: rest =>
      let (parts, final) := blockParts rest
      ({ content, ending := ending.toList.map breakText } :: parts, final)

def blockText (folded : Bool) (chomping : Chomping) (lines : List BlockLine) : List Char :=
  let (parts, final) := blockParts lines
  let (text, ending) := BlockPart.join folded parts
  match chomping with
  | .strip => text
  | .clip => text ++ ending
  | .keep => text ++ ending ++ final

/-- The block behind the sign that starts it, and what follows.  The block is
indented at least to `least`. -/
def readBlock (folded : Bool) (least : Nat) (text : List Char) :
    Except Error (List Char × List Char) :=
  match linesOf text with
  | [] => .error .blockHeader
  | first :: lines => do
      let header ← BlockHeader.read first.content
      let indent := match header.indent with
        | some more => least + more - 1
        | none => shownIndent least lines
      let block := blockLines indent lines
      let read := first.length + ((lines.take block.length).map (·.length)).foldr (· + ·) 0
      return (blockText folded header.chomping block, text.drop read)

end CodeGraph.Yaml
