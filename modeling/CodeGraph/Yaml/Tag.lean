import CodeGraph.Text.Numeral

/-!
# Tags and the forms of plain scalars

A tag says what a node stands for.  A plain scalar without a tag gets the tag of
the first form that it has, and is text if it has none.
-/

namespace CodeGraph.Yaml

open Numeral (isDigitOf splitSign)

/-- What a node stands for. -/
inductive Tag
  | null
  | truth
  | integer
  | float
  | text
  | binary
  | moment
  | sequence
  | mapping
  | set
  /-- Single entries in order, written as a sequence of mappings. -/
  | pairs
  /-- The key whose mapping is merged into the one that it stands in. -/
  | merge
  /-- The key whose value stands for the whole mapping. -/
  | default
  | unknown (name : String)
  deriving DecidableEq, Repr, Inhabited

namespace Tag

/-- What the names of the known tags start with. -/
def knownStart : String := "tag:yaml.org,2002:"

/-- The known tags by the ends of their names. -/
def known : List (String × Tag) :=
  [("null", null), ("bool", truth), ("int", integer), ("float", float), ("str", text),
    ("binary", binary), ("timestamp", moment), ("seq", sequence), ("map", mapping), ("set", set),
    ("omap", pairs), ("pairs", pairs), ("merge", merge), ("value", default)]

def ofName (name : String) : Tag :=
  let found := known.find? fun (ending, _) => name == knownStart ++ ending
  (found.map (·.2)).getD (unknown name)

end Tag

/-- The spellings of the truth values. -/
def truthWords : List (String × Bool) :=
  [("yes", true), ("true", true), ("on", true), ("no", false), ("false", false), ("off", false)]

/-- A word in lowercase, with a capital, or in capitals. -/
def isSpelling (word text : String) : Bool :=
  [word, word.capitalize, word.map Char.toUpper].contains text

/-- The text spells a truth value. -/
def isTruth (text : String) : Bool :=
  truthWords.any fun (word, _) => isSpelling word text

/-- The text stands for nothing. -/
def isNull (text : String) : Bool :=
  text == "" || text == "~" || isSpelling "null" text

/-- A sign that is a node of its own in other places. -/
def isNodeSign (text : String) : Bool :=
  ["!", "&", "*"].contains text

/-- Takes a text apart at a sign. -/
def splitAt [DecidableEq α] (sign : α) : List α → List (List α)
  | [] => [[]]
  | first :: rest =>
      match splitAt sign rest with
      | [] => [[first]]
      | part :: parts => if first = sign then [] :: part :: parts else (first :: part) :: parts

/-- Digits of a base or marks that group them, at least one of either. -/
def isGroup (base : Nat) (digits : List Char) : Bool :=
  !digits.isEmpty && digits.all fun digit => isDigitOf base digit || digit == '_'

/-- Decimal digits that may be grouped, the first of them a digit. -/
def isGrouped (digits : List Char) : Bool :=
  digits.head?.any (isDigitOf 10) && isGroup 10 digits

/-- One or two digits below sixty. -/
def isSixtieth : List Char → Bool
  | [low] => isDigitOf 10 low
  | [high, low] => isDigitOf 6 high && isDigitOf 10 low
  | _ => false

/-- The text has the form of an integer: binary, octal, decimal, hexadecimal, or
in places of sixty. -/
def isInteger (text : List Char) : Bool :=
  match (splitSign text).2 with
  | ['0'] => true
  | '0' :: 'b' :: digits => isGroup 2 digits
  | '0' :: 'x' :: digits => isGroup 16 digits
  | '0' :: digits => isGroup 8 digits
  | digits =>
      match splitAt ':' digits with
      | whole :: parts => isGrouped whole && parts.all isSixtieth
      | [] => false

/-- An exponent: nothing, or a mark, a sign and digits. -/
def isExponent : List Char → Bool
  | [] => true
  | mark :: sign :: digits =>
      (mark == 'e' || mark == 'E') && (sign == '+' || sign == '-') && !digits.isEmpty &&
        digits.all (isDigitOf 10)
  | _ => false

/-- The text has the form of a decimal fraction. -/
def isFraction (text : List Char) : Bool :=
  let grouped (character : Char) : Bool := isGroup 10 [character]
  let digits := (splitSign text).2
  let whole := digits.takeWhile grouped
  match digits.dropWhile grouped with
  | '.' :: rest =>
      let part := rest.takeWhile grouped
      let exponent := rest.dropWhile grouped
      isExponent exponent &&
        (isGrouped whole || (whole.isEmpty && isGrouped part && digits.length == text.length))
  | _ => false

/-- The text has the form of a fraction in places of sixty. -/
def isSexagesimalFraction (text : List Char) : Bool :=
  match splitAt ':' (splitSign text).2 with
  | whole :: second :: parts =>
      let last := (second :: parts).getLast?.getD []
      match splitAt '.' last with
      | [head, tail] =>
          isGrouped whole && ((second :: parts).dropLast ++ [head]).all isSixtieth &&
            (tail.isEmpty || isGroup 10 tail)
      | _ => false
  | _ => false

/-- The text spells infinity. -/
def isInfinity (text : List Char) : Bool :=
  [".inf", ".Inf", ".INF"].contains (String.ofList (splitSign text).2)

/-- The text spells what is no number. -/
def isNotANumber (text : List Char) : Bool :=
  [".nan", ".NaN", ".NAN"].contains (String.ofList text)

/-- The text has the form of a number that is no integer. -/
def isFloat (text : List Char) : Bool :=
  isFraction text || isSexagesimalFraction text || isInfinity text || isNotANumber text

end CodeGraph.Yaml
