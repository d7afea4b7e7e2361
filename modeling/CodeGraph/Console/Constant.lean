import CodeGraph.Text.Numeral
import CodeGraph.Text.Word

/-!
# Constants

The parameters of an event are a constant: a number, a quoted text, one of a few
names, or a tuple, set or table of constants.
-/

namespace CodeGraph.Console

/-- What kind of constant a text spells, as far as that decides where it can
stand. -/
inductive ConstantKind
  | real
  | imaginary
  /-- Anything else that can be a key. -/
  | fixed
  /-- A number with a sign, or a real one. -/
  | signedReal
  | text
  | bytes
  /-- A set or table, which can be no key. -/
  | changeable
  deriving DecidableEq, Repr

namespace Constant

/-- A text in which a line feed alone ends each line. -/
def lineFeeds : List Char → List Char
  | '\r' :: '\n' :: rest | '\r' :: rest => '\n' :: lineFeeds rest
  | character :: rest => character :: lineFeeds rest
  | [] => []

/-- A space character.  A line may only end inside of brackets. -/
def isSpace (inside : Bool) (character : Char) : Bool :=
  [' ', '\t', '\x0c'].contains character || inside && character == '\n'

mutual

/-- A text without the space at its start.  A remark from `#` to the end of its line
is space, and so is a line end with a backslash in front of it. -/
def skipSpace (inside : Bool) : List Char → List Char
  | '\x5c' :: '\n' :: rest => skipSpace inside rest
  | '#' :: rest => skipRemark inside rest
  | character :: rest =>
      if isSpace inside character then skipSpace inside rest else character :: rest
  | [] => []

/-- A text without the remark that it starts in, and without the space after it. -/
def skipRemark (inside : Bool) : List Char → List Char
  | '\n' :: rest => if inside then skipSpace inside rest else '\n' :: rest
  | _ :: rest => skipRemark inside rest
  | [] => []

end

/-- A text without the lines at its start that hold only space. -/
def skipLines (fuel : Nat) (text : List Char) : List Char :=
  match fuel, skipSpace false text with
  | fuel + 1, '\n' :: rest => skipLines fuel rest
  | _, _ => text

/-- Digits in groups that single underscores divide. -/
def isGrouped (isDigit : Char → Bool) : List Char → Bool
  | [] => false
  | [digit] => isDigit digit
  | digit :: '_' :: rest => isDigit digit && isGrouped isDigit rest
  | digit :: rest => isDigit digit && isGrouped isDigit rest

/-- A decimal number with a point or an exponent. -/
def isFraction (text : List Char) : Bool :=
  let isPart (digits : List Char) : Bool := isGrouped Char.isDigit digits
  let number := text.takeWhile fun character => character.toLower != 'e'
  let whole := number.takeWhile (· != '.')
  let hasExponent := number.length < text.length
  let exponent := match text.drop (number.length + 1) with
    | '+' :: digits | '-' :: digits | digits => digits
  let hasPoint := whole.length < number.length
  let part := number.drop (whole.length + 1)
  (hasPoint || hasExponent) && (whole.isEmpty || isPart whole) && (part.isEmpty || isPart part) &&
    !(whole.isEmpty && part.isEmpty) && (!hasExponent || isPart exponent)

def numberKind? (text : List Char) : Option ConstantKind :=
  let isDecimal (digits : List Char) : Bool := isGrouped Char.isDigit digits
  let afterMark (base : Nat) (digits : List Char) : Bool :=
    isGrouped (Numeral.isDigitOf base) (if digits.head? = some '_' then digits.drop 1 else digits)
  let isMarked := match text with
    | '0' :: mark :: digits =>
        (mark.toLower == 'x' && afterMark 16 digits) || (mark.toLower == 'o' && afterMark 8 digits) ||
          (mark.toLower == 'b' && afterMark 2 digits)
    | _ => false
  let isWhole := isDecimal text && (text.head? != some '0' || text.all (['0', '_'].contains ·)) &&
    (text.filter Char.isDigit).length ≤ Numeral.digitLimit
  if isMarked || isWhole || isFraction text then some .real
  else if text.getLast?.any (·.toLower == 'j') &&
      (isDecimal text.dropLast || isFraction text.dropLast) then some .imaginary
  else none

/-- The characters of a number at the start of a text. -/
def numberText (text : List Char) : List Char :=
  let isPart (character : Char) : Bool :=
    character.isAlphanum || character == '_' || character == '.'
  let first := text.takeWhile isPart
  let isMarked := match first with
    | '0' :: mark :: _ => mark.toLower == 'x'
    | _ => false
  match text.drop first.length with
  | sign :: rest =>
      if (sign == '+' || sign == '-') && first.getLast?.any (·.toLower == 'e') && !isMarked then
        first ++ sign :: rest.takeWhile isPart
      else first
  | [] => first

/-- The start of a text is made of hexadecimal digits. -/
def startsWithDigits (count : Nat) (text : List Char) : Bool :=
  (text.take count).length = count && (text.take count).all (Numeral.isDigitOf 16)

/-- An escape that does not fail, without its backslash. -/
def isEscape (isBytes : Bool) : List Char → Bool
  | 'x' :: rest => startsWithDigits 2 rest
  | 'u' :: rest => isBytes || startsWithDigits 4 rest
  | 'U' :: rest =>
      isBytes || (startsWithDigits 8 rest && Numeral.ofDigits 16 (rest.take 8) ≤ 0x10FFFF)
  | 'N' :: _ => isBytes
  | _ => true

/-- What follows a quoted text that ends with `close`. -/
def afterQuoted? (close : List Char) (isRaw isBytes : Bool) : List Char → Option (List Char)
  | [] => none
  | '\x5c' :: next :: rest =>
      if !isRaw && !isEscape isBytes (next :: rest) then none
      else if isBytes && 0x80 ≤ next.toNat then none
      else afterQuoted? close isRaw isBytes rest
  | character :: rest =>
      if close.isPrefixOf (character :: rest) then some ((character :: rest).drop close.length)
      else if character == '\n' && close.length = 1 then none
      else if isBytes && 0x80 ≤ character.toNat then none
      else afterQuoted? close isRaw isBytes rest

/-- The marks in front of a quoted text: whether it is raw, and whether it is
bytes. -/
def quoteMarks : List (String × Bool × Bool) :=
  [("", false, false), ("u", false, false), ("r", true, false), ("b", false, true),
    ("br", true, true), ("rb", true, true)]

/-- A quoted text at the start of a text, and what follows it. -/
def quoted? (text : List Char) : Option (ConstantKind × List Char) := do
  let mark := (text.takeWhile Char.isAlpha).map Char.toLower
  let (isRaw, isBytes) ← quoteMarks.lookup (String.ofList mark)
  let rest := text.drop mark.length
  let quote ← rest.head?
  if quote != '\x27' && quote != '\x22' then none
  else
    let close := if (rest.take 3).all (· == quote) && 3 ≤ rest.length then [quote, quote, quote]
      else [quote]
    let after ← afterQuoted? close isRaw isBytes (rest.drop close.length)
    return (if isBytes then .bytes else .text, after)

/-- Takes as many quoted texts as follow one of the same kind. -/
def moreQuoted (inside : Bool) (kind : ConstantKind) : Nat → List Char →
    Option (ConstantKind × List Char)
  | 0, text => some (kind, text)
  | fuel + 1, text =>
      match quoted? (skipSpace inside text) with
      | none => some (kind, text)
      | some (next, rest) => if next = kind then moreQuoted inside kind fuel rest else none

/-- The kinds that can be keys. -/
def canBeKey (kind : ConstantKind) : Bool :=
  kind != .changeable

/-- A constant of one word: a quoted text, a number or a name. -/
def word? (inside : Bool) (text : List Char) : Option (ConstantKind × List Char) :=
  match quoted? text with
  | some (kind, rest) => moreQuoted inside kind rest.length rest
  | none =>
      let number := numberText text
      if (number.head?.any fun first => first.isDigit || first == '.') && number != ['.', '.', '.'] then
        (numberKind? number).map fun kind => (kind, text.drop number.length)
      else if number = ['.', '.', '.'] then some (.fixed, text.drop 3)
      else
        let name := text.takeWhile isWordCharacter
        let rest := text.drop name.length
        if ["True", "False", "None"].contains (String.ofList name) then some (.fixed, rest)
        else if name = "set".toList then
          match skipSpace inside rest with
          | '(' :: more =>
              match skipSpace true more with
              | ')' :: after => some (.changeable, after)
              | _ => none
          | _ => none
        else none

mutual

/-- A constant without a sign in front of it. -/
def primary? (fuel : Nat) (inside : Bool) (text : List Char) :
    Option (ConstantKind × List Char) :=
  match fuel with
  | 0 => none
  | fuel + 1 =>
      match text with
      | '(' :: rest => do
          let (items, comma, after) ← items? fuel ')' rest
          match items, comma with
          | [(kind, _)], false => return (kind, after)
          | _, _ => return (if items.all (canBeKey ·.1) then .fixed else .changeable, after)
      | '\x7b' :: rest => do
          let (items, _, after) ← items? fuel '\x7d' rest
          let sameForm := items.all (·.2) || items.all (!·.2)
          if sameForm && items.all (canBeKey ·.1) then return (.changeable, after) else none
      | _ => word? inside text

/-- A constant with a sign, or a real number plus an imaginary one. -/
def constant? (fuel : Nat) (inside : Bool) (text : List Char) :
    Option (ConstantKind × List Char) :=
  match fuel with
  | 0 => none
  | fuel + 1 => do
      let (first, rest) ← signed? fuel inside (skipSpace inside text)
      match skipSpace inside rest with
      | sign :: more =>
          if sign == '+' || sign == '-' then
            let (second, after) ← primary? fuel inside (skipSpace inside more)
            if (first == .real || first == .signedReal) && second == .imaginary then
              return (.fixed, after)
            else none
          else return (first, sign :: more)
      | [] => return (first, [])

/-- A constant with at most one sign, which only a number can have. -/
def signed? (fuel : Nat) (inside : Bool) (text : List Char) :
    Option (ConstantKind × List Char) :=
  match fuel with
  | 0 => none
  | fuel + 1 =>
      match text with
      | sign :: rest =>
          if sign == '+' || sign == '-' then do
            let (kind, after) ← primary? fuel inside (skipSpace inside rest)
            match kind with
            | .real => return (.signedReal, after)
            | .imaginary => return (.fixed, after)
            | _ => none
          else primary? fuel inside text
      | [] => none

/-- The constants up to a closing bracket, each with its kind and whether a value
follows it, whether a comma follows the last, and what follows the bracket. -/
def items? (fuel : Nat) (close : Char) (text : List Char) :
    Option (List (ConstantKind × Bool) × Bool × List Char) :=
  match fuel with
  | 0 => none
  | fuel + 1 =>
      match skipSpace true text with
      | [] => none
      | first :: rest =>
          if first = close then some ([], true, rest)
          else do
            let (kind, after) ← constant? fuel true (first :: rest)
            let (hasValue, after) ← match skipSpace true after with
              | ':' :: value =>
                  if close = '\x7d' then
                    (constant? fuel true value).map fun (_, after) => (true, after)
                  else none
              | after => some (false, after)
            match skipSpace true after with
            | ',' :: more =>
                let (items, _, after) ← items? fuel close more
                return ((kind, hasValue) :: items, true, after)
            | next :: more =>
                if next = close then return ([(kind, hasValue)], false, more) else none
            | [] => none

end

/-- The text holds only lines of space. -/
def isEmptyText (text : List Char) : Bool :=
  (skipSpace false (skipLines text.length text)).isEmpty

/-- The text holds constants with commas between them, and only space behind them. -/
def areConstants (fuel : Nat) (text : List Char) : Bool :=
  match fuel with
  | 0 => false
  | fuel + 1 =>
      match constant? (4 * text.length + 4) false text with
      | none => false
      | some (_, rest) =>
          match skipSpace false rest with
          | ',' :: more => isEmptyText more || areConstants fuel more
          | rest => isEmptyText rest

end Constant

/-- The text spells a constant, or several with commas between them.  Its first line
that holds more than space starts without a blank. -/
def isConstant (text : List Char) : Bool :=
  let text := Constant.skipLines text.length (Constant.lineFeeds text)
  !text.contains '\x00' && !text.head?.any [' ', '\t'].contains &&
    Constant.areConstants (text.length + 1) text

/-- The parameters of an event are a constant.  They may follow the name of an
action in brackets, and the name may stand alone. -/
def areParameters (text : List Char) : Bool :=
  let name := text.takeWhile fun character => isWordCharacter character || character == '.'
  match text.drop name.length with
  | [] => true
  | rest =>
      if rest.head? = some '(' && rest.getLast? = some ')' && !rest.contains '\n' then
        isConstant rest
      else isConstant text

end CodeGraph.Console
