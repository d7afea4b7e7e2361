import CodeGraph.Yaml.Error
import CodeGraph.Yaml.Tag

/-!
# Dates and times

A text with the form of a date, or of a date and a time, need not name one that
exists.  Times with a zone are compared in universal time.
-/

namespace CodeGraph.Yaml

open Numeral (isDigitOf ofDigits)

/-- A number of at least and at most so many digits at the start of a text, and
what follows. -/
def readNumber (least most : Nat) (text : List Char) : Option (Nat × List Char) :=
  let digits := (text.takeWhile (isDigitOf 10)).take most
  if least ≤ digits.length then some (ofDigits 10 digits, text.drop digits.length) else none

/-- A sign at the start of a text is taken off. -/
def dropSign (sign : Char) : List Char → Option (List Char)
  | [] => none
  | character :: rest => if character = sign then some rest else none

/-- A blank between the parts of a date and time. -/
def isGap (character : Char) : Bool :=
  character == ' ' || character == '\t'

/-- A time of day as it is written. -/
structure Clock where
  hour : Nat
  minute : Nat
  second : Nat
  microsecond : Nat := 0
  /-- The distance from universal time in minutes. -/
  zone : Option Int := none
  deriving DecidableEq, Repr

/-- A date, or a date and a time, as it is written. -/
structure WrittenMoment where
  year : Nat
  month : Nat
  day : Nat
  clock : Option Clock := none
  deriving DecidableEq, Repr

/-- Reads the distance from universal time up to the end of the text. -/
def readZone (text : List Char) : Option (Option Int) := do
  match text.dropWhile isGap with
  | [] => if text.isEmpty then return none else none
  | ['Z'] => return some 0
  | sign :: rest =>
      if sign ≠ '+' ∧ sign ≠ '-' then none
      let (hours, rest) ← readNumber 1 2 rest
      let minutes ←
        if rest.isEmpty then pure 0
        else do
          let (minutes, rest) ← readNumber 2 2 (← dropSign ':' rest)
          if rest.isEmpty then pure minutes else none
      let distance : Int := 60 * hours + minutes
      return some (if sign = '-' then -distance else distance)

/-- The first six digits of a fraction as millionths. -/
def microseconds (digits : List Char) : Nat :=
  ofDigits 10 ((digits ++ List.replicate 6 '0').take 6)

/-- Reads a time of day with an optional fraction and zone. -/
def readClock (text : List Char) : Option Clock := do
  let (hour, rest) ← readNumber 1 2 text
  let (minute, rest) ← readNumber 2 2 (← dropSign ':' rest)
  let (second, rest) ← readNumber 2 2 (← dropSign ':' rest)
  let (fraction, rest) : List Char × List Char := match rest with
    | '.' :: rest => (rest.takeWhile (isDigitOf 10), rest.dropWhile (isDigitOf 10))
    | _ => ([], rest)
  return { hour, minute, second, microsecond := microseconds fraction, zone := ← readZone rest }

/-- What stands between a date and a time is taken off. -/
def dropTimeMark (text : List Char) : Option (List Char) :=
  match text with
  | 'T' :: rest | 't' :: rest => some rest
  | _ => if text.head?.any isGap then some (text.dropWhile isGap) else none

/-- Reads a date, or a date and a time. -/
def readMoment (text : List Char) : Option WrittenMoment := do
  let (year, rest) ← readNumber 4 4 text
  let (month, rest) ← readNumber 1 2 (← dropSign '-' rest)
  let (day, rest) ← readNumber 1 2 (← dropSign '-' rest)
  if rest.isEmpty then return { year, month, day }
  return { year, month, day, clock := some (← readClock (← dropTimeMark rest)) }

/-- The length of a date with all its digits. -/
def fullDateLength : Nat := 10

/-- The text has the form of a date with all digits, or of a date and a time. -/
def isMoment (text : List Char) : Bool :=
  match readMoment text with
  | some moment => moment.clock.isSome || text.length == fullDateLength
  | none => false

/-- The year can be divided by four, and by four hundred if by a hundred. -/
def isLeapYear (year : Nat) : Bool :=
  year % 4 = 0 && (year % 100 ≠ 0 || year % 400 = 0)

/-- The number of days of a month. -/
def daysOf (year month : Nat) : Nat :=
  if month = 2 then if isLeapYear year then 29 else 28
  else if [4, 6, 9, 11].contains month then 30
  else 31

/-- The number of days before a date. -/
def daysBefore (year month day : Nat) : Nat :=
  let past := year - 1
  let months := (List.range (month - 1)).map fun index => daysOf year (index + 1)
  365 * past + past / 4 - past / 100 + past / 400 + months.foldr (· + ·) 0 + (day - 1)

/-- A date, or a date and a time. -/
inductive Moment
  | date (day : Nat)
  /-- A time without a zone. -/
  | civil (microsecond : Nat)
  /-- A time with a zone, in universal time. -/
  | universal (microsecond : Int)
  deriving DecidableEq, Repr

namespace WrittenMoment

/-- What is wrong with a distance from universal time. -/
def zoneFault? (clock : Clock) : Option MomentFault :=
  match clock.zone with
  | some minutes => if minutesOfDay ≤ minutes.natAbs then some (.zone minutes) else none
  | none => none

/-- What is wrong with a date. -/
def dateFault? (moment : WrittenMoment) : Option MomentFault :=
  if moment.year = 0 then some (.year moment.year)
  else if moment.month < 1 ∨ 12 < moment.month then some .month
  else if moment.day < 1 ∨ daysOf moment.year moment.month < moment.day then some .day
  else none

/-- What is wrong with a time of day. -/
def clockFault? (clock : Clock) : Option MomentFault :=
  if 23 < clock.hour then some .hour
  else if 59 < clock.minute then some .minute
  else if 59 < clock.second then some .second
  else none

/-- What is wrong with a date and time; the zone is looked at first. -/
def fault? (moment : WrittenMoment) : Option MomentFault :=
  moment.clock.bind zoneFault? <|> moment.dateFault? <|> moment.clock.bind clockFault?

/-- The date and time that is written. -/
def moment (written : WrittenMoment) : Except MomentFault Moment :=
  match written.fault? with
  | some fault => .error fault
  | none =>
      let days := daysBefore written.year written.month written.day
      match written.clock with
      | none => .ok (.date days)
      | some clock =>
          let minutes := (24 * days + clock.hour) * 60 + clock.minute
          let time := (60 * minutes + clock.second) * 1000000 + clock.microsecond
          match clock.zone with
          | none => .ok (.civil time)
          | some zone => .ok (.universal (time - zone * 60000000))

end WrittenMoment

namespace Tag

/-- The tag of a form that a text has. -/
def ofForm (text : String) : Tag :=
  let characters := text.toList
  if isTruth text then truth
  else if isFloat characters then float
  else if isInteger characters then integer
  else if text = "<<" then merge
  else if isNull text then null
  else if isMoment characters then moment
  else if text = "=" then default
  else if isNodeSign text then unknown (knownStart ++ "yaml")
  else .text

/-- The tag of a plain scalar.  A line feed behind a form does not count. -/
def ofPlain (codes : Codes) : Tag :=
  match codes.chars? with
  | none | some ['\n'] => .text
  | some characters =>
      let ended := characters.getLast? = some '\n'
      ofForm (String.ofList (if ended then characters.dropLast else characters))

end Tag

end CodeGraph.Yaml
