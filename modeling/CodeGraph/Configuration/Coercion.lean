import CodeGraph.Configuration.Settings
import CodeGraph.Text.Blank
import CodeGraph.Yaml.Value

/-!
# Settings from values

A value of a document need not have the type of its setting as long as it can be
read as one: text may spell a number or a truth value, and a number may be a
truth value.  All values that cannot be read are found, in the order of the
settings.
-/

namespace CodeGraph.Configuration

open Yaml (Atom Value)

/-- Why a value is no setting. -/
inductive Issue
  | notMapping
  | notInteger
  | integerSyntax
  | integerSize
  | fraction
  | notFinite
  /-- A number that the setting does not allow. -/
  | notAllowed
  | notTruth
  | truthSyntax
  | notText
  | textEncoding
  | notList
  deriving DecidableEq, Repr

/-- The short name of each issue. -/
def Issue.code : Issue → String
  | notMapping => "model_type"
  | notInteger => "int_type"
  | integerSyntax => "int_parsing"
  | integerSize => "int_parsing_size"
  | fraction => "int_from_float"
  | notFinite => "finite_number"
  | notAllowed => "value_error"
  | notTruth => "bool_type"
  | truthSyntax => "bool_parsing"
  | notText => "string_type"
  | textEncoding => "string_unicode"
  | notList => "list_type"

/-- A step from a value to one inside of it. -/
inductive Step
  | member (name : String)
  | item (position : Nat)
  deriving DecidableEq, Repr

/-- An issue and the way to the value that has it. -/
structure Finding where
  location : List Step
  issue : Issue
  deriving DecidableEq, Repr

/-- A value that was read, or all that is wrong with it. -/
abbrev Checked := Except (List Finding)

namespace Checked

/-- Reads the value itself. -/
def ofExcept (result : Except Issue α) : Checked α :=
  result.mapError fun issue => [{ location := [], issue }]

/-- What was found inside of a value, seen from outside. -/
def within (step : Step) (result : Checked α) : Checked α :=
  result.mapError fun findings =>
    findings.map fun finding => { finding with location := step :: finding.location }

/-- Both values, or what is wrong with either. -/
def both (first : Checked α) (second : Checked β) : Checked (α × β) :=
  match first, second with
  | .ok first, .ok second => .ok (first, second)
  | .ok _, .error findings => .error findings
  | .error findings, .ok _ => .error findings
  | .error findings, .error more => .error (findings ++ more)

/-- The value of a member, or what holds without it. -/
def member (entries : List (Atom × Value)) (name : String) (default : α)
    (read : Value → Checked α) : Checked α :=
  match Value.member? entries name with
  | none => .ok default
  | some value => (read value).within (.member name)

def items (read : Value → Checked α) (position : Nat) : List Value → Checked (List α)
  | [] => .ok []
  | item :: rest =>
      (both ((read item).within (.item position)) (items read (position + 1) rest)).map
        fun (first, more) => first :: more

end Checked

/-- White space, which a number may have around it. -/
def isWhiteSpace (character : Char) : Bool :=
  isBlank character && !(0x1C ≤ character.toNat && character.toNat ≤ 0x1F)

/-- The most characters that a number may have, its sign among them. -/
def numberLimit : Nat := 4300

/-- The value of an integer without anything around it. -/
def plainInteger (text : List Char) : Except Issue Int :=
  let (negative, digits) : Bool × List Char := match text with
    | '-' :: rest => (true, rest)
    | _ => (false, text)
  let number := digits.takeWhile Char.isDigit
  let value : Int := Numeral.ofDigits 10 digits
  if number.isEmpty || (number.head? == some '0' && number.length ≠ 1) then .error .integerSyntax
  else if numberLimit < text.length - digits.length + number.length then .error .integerSize
  else if number.length ≠ digits.length then .error .integerSyntax
  else .ok (if negative then -value else value)

/-- Digits without zeros in front of them, of which the last is kept. -/
def dropZeros (text : List Char) : Option (List Char) :=
  match text with
  | '0' :: rest =>
      match rest.dropWhile fun character => character == '0' || character == '_' with
      | [] => some (text.drop (text.length - 1))
      | '.' :: more => some ((text.drop (text.length - more.length - 2)))
      | first :: more => if first.isDigit || first == '-' then some (first :: more) else none
  | first :: _ => if first.isDigit || first == '-' then some text else none
  | [] => none

/-- Digits without a point that zeros follow, at least one and nothing else. -/
def dropPoint (text : List Char) : List Char :=
  match text.dropWhile (· != '.') with
  | '.' :: rest =>
      if !rest.isEmpty && rest.all (· == '0') then text.takeWhile (· != '.') else text
  | _ => text

/-- Digits without the marks that group them, unless marks stand at an end or
next to each other. -/
def dropMarks (text : List Char) : List Char :=
  let parts := Yaml.splitAt '_' text
  if parts.any (·.isEmpty) then text else parts.flatten

/-- A number without white space, a plus sign, needless zeros and marks that group
digits. -/
def cleaned (text : List Char) : Option (List Char) := do
  let trimmed := ((text.dropWhile isWhiteSpace).reverse.dropWhile isWhiteSpace).reverse
  let unsigned ← match trimmed with
    | '+' :: rest => if rest.head? = some '-' then none else some rest
    | _ => some trimmed
  return dropMarks (dropPoint (← dropZeros unsigned))

/-- The integer that a text spells.  Only a number that needs no cleaning can be
too long. -/
def spelledInteger (text : String) : Except Issue Int :=
  match plainInteger text.toList with
  | .error .integerSyntax =>
      match (cleaned text.toList).map plainInteger with
      | some (.ok value) => .ok value
      | _ => .error .integerSyntax
  | result => result

/-- The integer that a number is. -/
def wholeNumber (value : Float) : Except Issue Int :=
  if value.isNaN || value.isInf then .error .notFinite
  else if value.floor != value then .error .fraction
  else if -9223372036854775808.0 < value && value < 9223372036854775808.0 then
    .ok value.toInt64.toInt
  else .error .integerSize

/-- The text of a value that is text, or bytes that encode one. -/
def spelling? (fault : Issue) : Value → Except Issue (Option String)
  | .atom (.text codes) =>
      match codes.string? with
      | some text => .ok (some text)
      | none => .error .textEncoding
  | .atom (.binary bytes) => (Utf8.decode bytes).mapError (fun _ => fault) |>.map some
  | _ => .ok none

def readInteger (value : Value) : Except Issue Int := do
  match ← spelling? .integerSyntax value with
  | some text => spelledInteger text
  | none =>
      match value with
      | .atom (.integer value) => return value
      | .atom (.truth value) => return if value then 1 else 0
      | .atom (.float value) => wholeNumber value
      | .atom (.notANumber _) => throw .notFinite
      | _ => throw .notInteger

/-- The widths that addresses can have. -/
def addressWidths : List Int := [16, 32, 64]

/-- Reads the width of addresses, which may be left open. -/
def readAddressSpace (value : Value) : Except Issue (Option Int) :=
  match value with
  | .atom .null => .ok none
  | value => do
      let width ← readInteger value
      if addressWidths.contains width then return some width else throw .notAllowed

/-- The truth value of zero or one. -/
def truthOfInteger : Int → Except Issue Bool
  | 0 => .ok false
  | 1 => .ok true
  | _ => .error .truthSyntax

def readTruth (value : Value) : Except Issue Bool := do
  match ← spelling? .truthSyntax value with
  | some text =>
      let word := text.map Char.toLower
      if ["0", "off", "f", "false", "n", "no"].contains word then return false
      else if ["1", "on", "t", "true", "y", "yes"].contains word then return true
      else throw .truthSyntax
  | none =>
      match value with
      | .atom (.truth value) => return value
      | .atom (.integer value) =>
          if value.natAbs ≤ 0x8000000000000000 ∧ value ≠ 0x8000000000000000 then
            truthOfInteger value
          else throw .notTruth
      | .atom (.float value) =>
          match wholeNumber value with
          | .ok number => truthOfInteger number
          | .error _ => throw .notTruth
      | _ => throw .notTruth

def readText (value : Value) : Except Issue String := do
  match ← spelling? .textEncoding value with
  | some text => return text
  | none => throw .notText

def readTexts (value : Value) : Checked (List String) :=
  let read := Checked.items fun item => Checked.ofExcept (readText item)
  match value with
  | .sequence items => read 0 items
  | .set items => read 0 (items.map .atom)
  | .pairs length => read 0 (List.replicate length (.sequence []))
  | _ => Checked.ofExcept (.error .notList)

/-- Reads the members of a mapping. -/
def readMapping (read : List (Atom × Value) → Checked α) : Value → Checked α
  | .mapping entries => read entries
  | _ => Checked.ofExcept (.error .notMapping)

/-- Reads a setting of a plain type. -/
def setting (entries : List (Atom × Value)) (name : String) (default : α)
    (read : Value → Except Issue α) : Checked α :=
  Checked.member entries name default fun value => Checked.ofExcept (read value)

/-- Reads the settings for writing containers. -/
def WriterSettings.read : Value → Checked WriterSettings :=
  readMapping fun entries =>
    let usual : WriterSettings := {}
    let prefixes := Checked.member entries "library_prefixes" usual.libraryPrefixes readTexts
    let space := setting entries "address_space" usual.addressSpace readAddressSpace
    let progress := setting entries "progress" usual.progress readTruth
    (Checked.both prefixes (Checked.both space progress)).map
      fun (libraryPrefixes, addressSpace, progress) => { libraryPrefixes, addressSpace, progress }

/-- Reads the settings for reading containers. -/
def ReaderSettings.read : Value → Checked ReaderSettings :=
  readMapping fun entries =>
    let usual : ReaderSettings := {}
    (setting entries "strict_markup" usual.strictMarkup readTruth).map
      fun strictMarkup => { strictMarkup }

/-- Reads the settings for reporting events. -/
def LoggingSettings.read : Value → Checked LoggingSettings :=
  readMapping fun entries =>
    let usual : LoggingSettings := {}
    let level := setting entries "level" usual.level readText
    let json := setting entries "json_output" usual.json readTruth
    (Checked.both level json).map fun (level, json) => { level, json }

/-- Reads all settings.  What is not known is passed over. -/
def Settings.read : Value → Checked Settings :=
  readMapping fun entries =>
    let writer := Checked.member entries "export" {} WriterSettings.read
    let reader := Checked.member entries "reader" {} ReaderSettings.read
    let logging := Checked.member entries "logging" {} LoggingSettings.read
    (Checked.both writer (Checked.both reader logging)).map
      fun (writer, reader, logging) => { writer, reader, logging }

end CodeGraph.Configuration
