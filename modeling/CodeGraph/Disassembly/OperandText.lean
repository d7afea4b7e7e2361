import CodeGraph.Markup
import CodeGraph.Text.Numeral

/-!
# Operand text in typed runs

Operand text is cut into tokens without losing a character, and each token gets
the kind of what it stands for.  Blanks belong to the token before them.
-/

namespace CodeGraph.Disassembly

/-- What the names and numbers in operand text can stand for. -/
structure Names where
  registers : List String := []
  jumpLabels : List Int := []
  functions : List Int := []
  deriving DecidableEq, Repr, Inhabited

namespace OperandText

/-- The signs between the parts of an address. -/
def isOperator (character : Char) : Bool := ['+', '-', '*', ':'].contains character

/-- The signs around an address. -/
def isBracket (character : Char) : Bool := ['[', ']'].contains character

/-- Signs that take the blanks on both sides with them. -/
def isSeparator (character : Char) : Bool := character == ',' || isOperator character

def isWordChar (character : Char) : Bool :=
  !isBlank character && !isSeparator character && !isBracket character

/-- The token that a text starts with, and the text after it. -/
def nextToken (text : List Char) : List Char × List Char :=
  match text.dropWhile isBlank with
  | [] => (text.takeWhile isBlank, [])
  | character :: rest =>
      if isSeparator character then
        (text.takeWhile isBlank ++ character :: rest.takeWhile isBlank, rest.dropWhile isBlank)
      else if text.takeWhile isBlank ≠ [] then (text.takeWhile isBlank, character :: rest)
      else if isBracket character then ([character], rest)
      else (character :: rest.takeWhile isWordChar, rest.dropWhile isWordChar)

/-- Nothing is lost when a token is taken off. -/
theorem nextToken_append (text : List Char) : (nextToken text).1 ++ (nextToken text).2 = text := by
  have whole : text.takeWhile isBlank ++ text.dropWhile isBlank = text :=
    List.takeWhile_append_dropWhile
  unfold nextToken
  split
  · next after => simpa [after] using whole
  · next character rest after =>
      rw [after] at whole
      split
      · simpa using whole
      · split
        · exact whole
        · next empty =>
            rw [Decidable.not_not.1 empty, List.nil_append] at whole
            split
            · exact whole
            · simpa using whole

/-- A token of a text that is not empty has a character. -/
theorem nextToken_ne_nil {text : List Char} (nonempty : text ≠ []) : (nextToken text).1 ≠ [] := by
  unfold nextToken
  split
  · next after =>
      have whole : text.takeWhile isBlank ++ text.dropWhile isBlank = text :=
        List.takeWhile_append_dropWhile
      rw [after, List.append_nil] at whole
      simpa [whole] using nonempty
  · repeat' split
    all_goals simp_all

theorem length_nextToken_lt {text : List Char} (nonempty : text ≠ []) :
    (nextToken text).2.length < text.length := by
  have whole := congrArg List.length (nextToken_append text)
  have taken := List.length_pos_iff.2 (nextToken_ne_nil nonempty)
  simp only [List.length_append] at whole
  omega

def tokens (text : List Char) : List (List Char) :=
  if _nonempty : text = [] then []
  else (nextToken text).1 :: tokens (nextToken text).2
termination_by text.length
decreasing_by exact length_nextToken_lt _nonempty

/-- The words that tell the size of an operand. -/
def sizeWords : List String :=
  ["byte", "word", "dword", "fword", "qword", "tbyte", "oword", "xmmword", "ymmword", "zmmword", "ptr"]

/-- The digits of the decimal system. -/
def isDecimalDigit (character : Char) : Bool := '0' ≤ character && character ≤ '9'

/-- The digits of the hexadecimal system in either case. -/
def isHexDigit (character : Char) : Bool := (Hex.digit? character).isSome

/-- The number that digits of a base stand for. -/
def digitsValue (base : Nat) (digits : List Char) : Nat :=
  digits.foldl (fun value digit => base * value + (Hex.digit? digit).getD 0) 0

/-- The value of a decimal number, or of a marked hexadecimal one. -/
def number? (token : List Char) : Option Nat :=
  match token with
  | '0' :: 'x' :: digits =>
      if !digits.isEmpty && digits.all isHexDigit then some (digitsValue 16 digits) else none
  | digits =>
      if !digits.isEmpty && digits.all isDecimalDigit then some (digitsValue 10 digits) else none

/-- An exponent: nothing, or a mark and digits with an optional sign. -/
def isExponent (text : List Char) : Bool :=
  match text with
  | [] => true
  | 'e' :: sign :: digits =>
      if sign = '+' ∨ sign = '-' then !digits.isEmpty && digits.all isDecimalDigit
      else (sign :: digits).all isDecimalDigit
  | _ => false

/-- A decimal fraction: digits, a point, and maybe more digits and an exponent. -/
def isFraction (token : List Char) : Bool :=
  let whole := token.takeWhile isDecimalDigit
  match token.dropWhile isDecimalDigit with
  | '.' :: rest => !whole.isEmpty && isExponent (rest.dropWhile isDecimalDigit)
  | _ => false

/-- The kind of a token without blanks around it. -/
def classify (names : Names) (token : List Char) : Markup.Kind :=
  if token = [','] then .newOperand
  else if token = ['['] ∨ token = [']'] then .dereference
  else if token = ['+'] ∨ token = ['-'] ∨ token = ['*'] ∨ token = [':'] then .operator
  else if sizeWords.contains (String.ofList (token.map Char.toLower)) then .sizeMark
  else if names.registers.contains (String.ofList token) then .register
  else
    match number? token with
    | some value =>
        if names.functions.contains value then .function
        else if names.jumpLabels.contains value then .jumpLabel
        else .immediateInt
    | none => if isFraction token then .immediateFloat else .symbol

/-- Typed pieces of text, last piece first. -/
abbrev Pieces := List (Markup.Kind × List Char)

/-- Adds text to the last piece. -/
def extend (text : List Char) : Pieces → Pieces
  | [] => []
  | (kind, last) :: rest => (kind, last ++ text) :: rest

/-- Adds a token.  Blanks are added to the last piece, and are dropped where
there is none; so are size words after a size word. -/
def addToken (names : Names) (pieces : Pieces) (token : List Char) : Pieces :=
  let bare := stripBlanks token
  if bare.isEmpty then extend token pieces
  else
    let kind := classify names bare
    match pieces with
    | (.sizeMark, _) :: _ =>
        if kind = .sizeMark then extend token pieces else (kind, token) :: pieces
    | _ => (kind, token) :: pieces

/-- The typed pieces of a text, last piece first. -/
def pieces (names : Names) (text : List Char) : Pieces :=
  (tokens text).foldl (addToken names) []

/-- A decimal number has a bounded number of digits, unless it is the name of a
register. -/
def checkNumber (registers : List String) (token : List Char) :
    Except Numeral.IntegerFault Unit :=
  if token.all isDecimalDigit && !registers.contains (String.ofList token) then
    Numeral.checkLength token
  else .ok ()

/-- All numbers of a text can be read. -/
def checkNumbers (registers : List String) (text : String) : Except Numeral.IntegerFault Unit :=
  (tokens text.toList).forM fun token => checkNumber registers (stripBlanks token)

end OperandText

/-- The typed runs of operand text. -/
def operandRuns (names : Names) (text : String) : List Markup.Run :=
  (OperandText.pieces names text.toList).reverse.map fun (kind, piece) =>
    Markup.Run.ofKind kind (String.ofList piece)

/-- The typed runs of operand text, if its numbers can be read. -/
def readOperands (names : Names) (text : String) :
    Except Numeral.IntegerFault (List Markup.Run) := do
  OperandText.checkNumbers names.registers text
  return operandRuns names text

end CodeGraph.Disassembly
