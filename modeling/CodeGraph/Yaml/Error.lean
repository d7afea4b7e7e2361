import CodeGraph.Text.Numeral

/-!
# Faults of YAML documents

A text may be no document, or a document with a scalar that has no value.
-/

namespace CodeGraph.Yaml

/-- Why a date and time does not exist. -/
inductive MomentFault
  | year (value : Nat)
  | month
  | day
  | hour
  | minute
  | second
  /-- The distance from universal time, in minutes, is not less than a day. -/
  | zone (minutes : Int)
  deriving DecidableEq, Repr

def minutesOfDay : Nat := 24 * 60

/-- A span of time in whole days and the seconds of another one. -/
def spanText (minutes : Int) : String :=
  let days := Int.fdiv minutes minutesOfDay
  let seconds := Int.fmod minutes minutesOfDay * 60
  if seconds = 0 then s!"datetime.timedelta(days={days})"
  else s!"datetime.timedelta(days={days}, seconds={seconds})"

def MomentFault.message : MomentFault → String
  | year value => s!"year {value} is out of range"
  | month => "month must be in 1..12"
  | day => "day is out of range for month"
  | hour => "hour must be in 0..23"
  | minute => "minute must be in 0..59"
  | second => "second must be in 0..59"
  | zone minutes =>
      "offset must be a timedelta strictly between -timedelta(hours=24) and " ++
        s!"timedelta(hours=24), not {spanText minutes}."

/-- Why a scalar has no value. -/
inductive ValueFault
  /-- A date and time that does not exist. -/
  | moment (fault : MomentFault)
  /-- The text is no date and time. -/
  | momentForm
  /-- A mapping stands for a date and time. -/
  | momentNode
  | integer (fault : Numeral.IntegerFault)
  | float (text : Codes)
  /-- A number without digits. -/
  | emptyNumber
  /-- A place of a number is worth more than any float. -/
  | placeSize
  | truthWord
  /-- An escape stands for a number that is no code point. -/
  | code
  /-- An escape stands for a number that no integer of 32 bits can be. -/
  | codeSize
  /-- A value is nested too deep, or is part of itself. -/
  | depth
  deriving DecidableEq, Repr

/-- The wording of each fault that has one. -/
def ValueFault.message : ValueFault → String
  | moment fault => fault.message
  | integer fault => fault.message
  | float text => s!"could not convert string to float: {Quoted.quoteCodes text}"
  | emptyNumber => "string index out of range"
  | code => "chr() arg not in range(0x110000)"
  | momentForm | momentNode | placeSize | truthWord | codeSize | depth => ""

/-- Why a text is no document that can be used. -/
inductive Error
  /-- A character that no document may hold. -/
  | unprintable (character : Char)
  /-- A character that starts no token. -/
  | unexpectedCharacter (character : Char)
  | unexpectedToken
  /-- A bracket closes what is not open. -/
  | unbalanced
  /-- A line that must be a key of a mapping is none. -/
  | lostKey
  /-- An entry, key or value where none can start. -/
  | misplaced
  | unterminated
  /-- The mark of a document inside of a quoted text. -/
  | markInText
  | escape
  | blockHeader
  | directive
  /-- An anchor or alias without a proper name. -/
  | name
  | tag
  | unknownHandle (handle : String)
  | unknownTag (tag : String)
  | unknownAlias (name : String)
  | repeatedAnchor (name : String)
  | manyDocuments
  /-- A node does not have the form that its tag asks for. -/
  | wrongForm
  /-- Something else than mappings is to be merged. -/
  | merge
  /-- A collection stands as a key. -/
  | collectionKey
  /-- A scalar has no value. -/
  | value (fault : ValueFault)
  deriving DecidableEq, Repr

end CodeGraph.Yaml
