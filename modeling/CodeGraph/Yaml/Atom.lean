import CodeGraph.Text.Lowercase
import CodeGraph.Yaml.Binary
import CodeGraph.Yaml.Node

/-!
# Values without parts

The text of a scalar is read as its tag asks for.  Only such values are keys, and
numbers of different kinds are the same key when they are equal.
-/

namespace CodeGraph.Yaml

/-- A value without parts. -/
inductive Atom
  | null
  | truth (value : Bool)
  | integer (value : Int)
  | float (value : Float)
  /-- What is no number.  It equals nothing but itself, so it is known by the node
  that it comes from; the one that is written in words is the same everywhere. -/
  | notANumber (origin : Option NodeId)
  | text (codes : Codes)
  | binary (bytes : Bytes)
  | moment (moment : Moment)
  deriving BEq, Repr, Inhabited

/-- The integer that a float is. -/
def exactInteger? (value : Float) : Option Int :=
  let bits := value.toBits.toNat
  let negative := bits >>> 63 == 1
  let exponent := (bits >>> 52) % 0x800
  let fraction := bits % 0x10000000000000
  let mantissa := if exponent = 0 then fraction else fraction + 0x10000000000000
  let whole : Option Nat :=
    if exponent = 0x7FF then none
    else if 1075 ≤ exponent then some (mantissa <<< (exponent - 1075))
    else
      let size := mantissa >>> (1075 - exponent)
      if size <<< (1075 - exponent) = mantissa then some size else none
  whole.map fun size => if negative then -(size : Int) else size

namespace Atom

/-- The integer that the atom equals as a key. -/
def integer? : Atom → Option Int
  | truth value => some (if value then 1 else 0)
  | integer value => some value
  | float value => exactInteger? value
  | _ => none

/-- The atoms are the same key. -/
def sameKey (left right : Atom) : Bool :=
  match left.integer?, right.integer? with
  | some first, some second => first == second
  | none, none => left == right
  | _, _ => false

/-- A float of a node. -/
def ofFloat (origin : NodeId) (value : Float) : Atom :=
  if value.isNaN then notANumber (some origin) else float value

/-- The atom of a text. -/
def ofString (name : String) : Atom :=
  text (Codes.ofString name)

/-- An empty document or value. -/
def isEmpty : Atom → Bool
  | null | truth false | integer 0 => true
  | float value => value == 0
  | text codes => codes.isEmpty
  | binary bytes => bytes.isEmpty
  | _ => false

end Atom

/-- The text of a number without its sign, and whether that is a minus. -/
def splitNumber (text : Codes) : Except ValueFault (Bool × Codes) :=
  match text with
  | [] => .error .emptyNumber
  | first :: rest =>
      if first = '-'.toNat then .ok (true, rest)
      else if first = '+'.toNat then .ok (false, rest)
      else .ok (false, text)

/-- A text without the marks that group digits. -/
def ungrouped (text : Codes) : Codes :=
  text.filter (· ≠ '_'.toNat)

/-- The parts of a number in places of sixty. -/
def placesOf (text : Codes) : List Codes :=
  splitAt ':'.toNat text

def integerIn (base : Nat) (digits : Codes) : Except ValueFault Int :=
  (Numeral.integer base digits).mapError ValueFault.integer

/-- The value of an unsigned integer; its start shows the base. -/
def unsignedInteger (digits : Codes) : Except ValueFault Int := do
  if digits = Codes.ofString "0" then return 0
  if (Codes.ofString "0b").isPrefixOf digits then return ← integerIn 2 (digits.drop 2)
  if (Codes.ofString "0x").isPrefixOf digits then return ← integerIn 16 (digits.drop 2)
  match digits with
  | [] => throw .emptyNumber
  | first :: _ =>
      if first = '0'.toNat then return ← integerIn 8 digits
      let places ← (placesOf digits).mapM (integerIn 10)
      return places.foldl (fun value place => 60 * value + place) 0

def integerOf (text : Codes) : Except ValueFault Int := do
  let (negative, digits) ← splitNumber (ungrouped text)
  let size ← unsignedInteger digits
  return if negative then -size else size

/-- The most places of sixty behind the first that a float can have. -/
def placeLimit : Nat := 173

/-- The value of a float in a single place. -/
def floatPlace (text : Codes) : Except ValueFault Float :=
  match Numeral.float? text with
  | some value => .ok value
  | none => .error (.float text)

/-- The value of places of sixty, the last place first. -/
def placesValue (places : List Float) : Except ValueFault Float :=
  if placeLimit + 1 < places.length then .error .placeSize
  else
    let step := fun ((sum, unit) : Float × Nat) (place : Float) =>
      (sum + place * Float.ofNat unit, 60 * unit)
    .ok (places.foldl step ((0 : Float), 1)).1

/-- The value of a float of a node. -/
def floatOf (origin : NodeId) (text : Codes) : Except ValueFault Atom := do
  let (negative, digits) ← splitNumber (lowercaseFrom false (ungrouped text))
  if digits = Codes.ofString ".nan" then return .notANumber none
  let size ←
    if digits = Codes.ofString ".inf" then pure (1 / 0)
    else
      match placesOf digits with
      | [single] => floatPlace single
      | places => placesValue (← places.mapM floatPlace).reverse
  return Atom.ofFloat origin (if negative then -size else size)

/-- The truth value of a word, in letters of any case. -/
def truthOf (text : Codes) : Except ValueFault Bool :=
  let word := lowercaseFrom false text
  match truthWords.find? fun (name, _) => word == Codes.ofString name with
  | some (_, value) => .ok value
  | none => .error .truthWord

/-- The date and time of a text, which a line feed may end. -/
def momentOf (text : Codes) : Except ValueFault Moment :=
  let written := do
    let characters ← text.chars?
    readMoment characters <|>
      if characters.getLast? = some '\n' then readMoment characters.dropLast else none
  match written with
  | some written => written.moment.mapError ValueFault.moment
  | none => .error .momentForm

/-- The value of the text of a node with a tag. -/
def Atom.ofScalar (origin : NodeId) (tag : Tag) (text : Codes) : Except Error Atom :=
  match tag with
  | .null => .ok .null
  | .truth => ((truthOf text).map Atom.truth).mapError Error.value
  | .integer => ((integerOf text).map Atom.integer).mapError Error.value
  | .float => (floatOf origin text).mapError Error.value
  | .moment => ((momentOf text).map Atom.moment).mapError Error.value
  | .binary =>
      match binary? text with
      | some bytes => .ok (.binary bytes)
      | none => .error .wrongForm
  | _ => .ok (.text text)

end CodeGraph.Yaml
