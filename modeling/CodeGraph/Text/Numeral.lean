import CodeGraph.Text.Blank
import CodeGraph.Text.Quoted

/-!
# Numbers in text

A number may be surrounded by white space and start with a sign.  Its digits are
those of any script.  A power of two as base may be repeated in a mark such as
`0x`.
-/

namespace CodeGraph.Numeral

/-- The codes of zero in each run of ten decimal digits outside of ASCII. -/
def zeros : List Nat :=
  [0x660, 0x6F0, 0x7C0, 0x966, 0x9E6, 0xA66, 0xAE6, 0xB66, 0xBE6, 0xC66, 0xCE6, 0xD66, 0xDE6,
    0xE50, 0xED0, 0xF20, 0x1040, 0x1090, 0x17E0, 0x1810, 0x1946, 0x19D0, 0x1A80, 0x1A90, 0x1B50,
    0x1BB0, 0x1C40, 0x1C50, 0xA620, 0xA8D0, 0xA900, 0xA9D0, 0xA9F0, 0xAA50, 0xABF0, 0xFF10,
    0x104A0, 0x10D30, 0x11066, 0x110F0, 0x11136, 0x111D0, 0x112F0, 0x11450, 0x114D0, 0x11650,
    0x116C0, 0x11730, 0x118E0, 0x11950, 0x11C50, 0x11D50, 0x11DA0, 0x11F50, 0x16A60, 0x16AC0,
    0x16B50, 0x1D7CE, 0x1D7D8, 0x1D7E2, 0x1D7EC, 0x1D7F6, 0x1E140, 0x1E2F0, 0x1E4F0, 0x1E950,
    0x1FBF0]

/-- What a code point counts as in a number: digits of other scripts count as
those of ASCII, and white space as a blank. -/
def plainForm (code : Nat) : Char :=
  if code < 0x80 then Char.ofNat code
  else if isBlankCode code then ' '
  else
    match zeros.find? fun first => first ≤ code && code < first + 10 with
    | some first => Char.ofNat ('0'.toNat + (code - first))
    | none => '?'

/-- The white space of ASCII. -/
def isAsciiSpace (character : Char) : Bool :=
  character == ' ' || ('\t' ≤ character && character ≤ '\r')

/-- A number without the white space around it, in ASCII. -/
def spelling (text : Codes) : List Char :=
  let start := (text.map plainForm).dropWhile isAsciiSpace
  (start.reverse.dropWhile isAsciiSpace).reverse

/-- A text without its sign, and whether that is a minus. -/
def splitSign : List Char → Bool × List Char
  | '-' :: rest => (true, rest)
  | '+' :: rest => (false, rest)
  | rest => (false, rest)

/-- The value of a digit or letter as a digit. -/
def digitValue? (character : Char) : Option Nat :=
  if character.isDigit then some (character.toNat - '0'.toNat)
  else if 'a' ≤ character ∧ character ≤ 'z' then some (character.toNat - 'a'.toNat + 10)
  else if 'A' ≤ character ∧ character ≤ 'Z' then some (character.toNat - 'A'.toNat + 10)
  else none

def isDigitOf (base : Nat) (character : Char) : Bool :=
  (digitValue? character).any (· < base)

/-- The number that digits of a base stand for. -/
def ofDigits (base : Nat) (digits : List Char) : Nat :=
  digits.foldl (fun value digit => base * value + (digitValue? digit).getD 0) 0

/-- The letters that mark a base. -/
def marksOf : Nat → List Char
  | 2 => ['b', 'B']
  | 8 => ['o', 'O']
  | 16 => ['x', 'X']
  | _ => []

/-- Digits without the mark of their base. -/
def dropMark (base : Nat) : List Char → List Char
  | '0' :: mark :: rest => if (marksOf base).contains mark then rest else '0' :: mark :: rest
  | digits => digits

/-- The most digits that a decimal number may have. -/
def digitLimit : Nat := 4300

/-- Why a text spells no integer. -/
inductive IntegerFault
  | literal (base : Nat) (text : Codes)
  /-- It has too many digits. -/
  | length (digits : Nat)
  deriving DecidableEq, Repr

/-- The most of a quoted text that a message shows. -/
def quoteLimit : Nat := 200

def IntegerFault.message : IntegerFault → String
  | literal base text =>
      let shown := String.ofList ((Quoted.quoteCodes text).toList.take quoteLimit)
      s!"invalid literal for int() with base {base}: {shown}"
  | length digits =>
      s!"Exceeds the limit ({digitLimit} digits) for integer string conversion: value has {digits} digits; use sys.set_int_max_str_digits() to increase the limit"

/-- The number of decimal digits is bounded. -/
def checkLength (digits : List Char) : Except IntegerFault Unit :=
  if digitLimit < digits.length then .error (.length digits.length) else .ok ()

/-- The integer that a text spells in a base. -/
def integer (base : Nat) (text : Codes) : Except IntegerFault Int := do
  let (negative, unsigned) := splitSign (spelling text)
  let digits := dropMark base unsigned
  if digits.isEmpty || !digits.all (isDigitOf base) then throw (.literal base text)
  if base = 10 then checkLength digits
  let value : Int := ofDigits base digits
  return if negative then -value else value

/-- The number with a power of ten, or infinity beyond all numbers. -/
def scaled (mantissa : Nat) (exponent : Int) : Float :=
  let width : Int := (Nat.toDigits 10 mantissa).length
  if mantissa = 0 then 0
  else if 400 < exponent + width then 1 / 0
  else if exponent + width < -400 then 0
  else if exponent < 0 then Float.ofScientific mantissa true exponent.natAbs
  else Float.ofScientific mantissa false exponent.natAbs

/-- The power of ten behind the digits of a number; nothing stands for zero. -/
def exponent? : List Char → Option Int
  | [] => some 0
  | mark :: rest =>
      let (negative, digits) := splitSign rest
      if (mark == 'e' || mark == 'E') && !digits.isEmpty && digits.all (isDigitOf 10) then
        some (if negative then -(ofDigits 10 digits : Int) else ofDigits 10 digits)
      else none

/-- The number of decimal digits with an optional point and exponent. -/
def decimal? (text : List Char) : Option Float :=
  let whole := text.takeWhile (isDigitOf 10)
  let (part, rest) := match text.dropWhile (isDigitOf 10) with
    | '.' :: rest => (rest.takeWhile (isDigitOf 10), rest.dropWhile (isDigitOf 10))
    | rest => ([], rest)
  if whole.isEmpty && part.isEmpty then none
  else
    (exponent? rest).map fun exponent =>
      scaled (ofDigits 10 (whole ++ part)) (exponent - part.length)

/-- The number that a text spells, infinite ones and what is no number among
them. -/
def float? (text : Codes) : Option Float :=
  let (negative, unsigned) := splitSign (spelling text)
  let word := String.ofList (unsigned.map Char.toLower)
  let size :=
    if word = "inf" ∨ word = "infinity" then some (1 / 0)
    else if word = "nan" then some (0 / 0)
    else decimal? unsigned
  size.map fun size => if negative then -size else size

end CodeGraph.Numeral
