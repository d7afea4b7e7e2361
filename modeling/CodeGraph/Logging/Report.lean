import CodeGraph.Logging.Event
import CodeGraph.Text.LineBreak
import CodeGraph.Text.Quoted

/-!
# Reporting events

Events below the level that is asked for are dropped.  Every other one is
reported together with its level and the name of what reports it, and with the
container that is being worked on.
-/

namespace CodeGraph.Logging

/-- Why an event cannot be reported. -/
inductive EventFault
  /-- A value has the name of something that each event has already. -/
  | takenName (name : String)
  /-- A value stands in for the record of the event and is none. -/
  | record
  deriving DecidableEq, Repr

/-- The names that no value of an event can have. -/
def takenNames : List String := ["self", "event", "method_name"]

/-- What keeps an event from being reported. -/
def Event.fault? (event : Event) : Option EventFault :=
  match (event.fields.map (·.1)).find? takenNames.contains with
  | some name => some (.takenName name)
  | none =>
      match event.fields.lookup "_record" with
      | none | some .null => none
      | some _ => some .record

/-- The values of an event that are not reported, or not as they are given: the
report has its own level, reporter and time, and a wish for the state of the
program is no value. -/
def unreported : List String :=
  ["level", "logger", "timestamp", "stack_info", "_record"]

/-- How events are reported. -/
structure Report where
  /-- The least number of a level that is reported. -/
  threshold : Nat := Level.info.number
  /-- The name of what reports; empty for the root. -/
  reporter : String := ""
  container : Option String := none
  deriving DecidableEq, Repr

namespace Report

/-- The name under which events are reported. -/
def reporterName (report : Report) : String :=
  if report.reporter = "" then "root" else report.reporter

def includes (report : Report) (event : Event) : Bool :=
  report.threshold ≤ event.level.number

/-- The events that are reported, unless one of all events has a fault. -/
def included (report : Report) (events : List Event) : Except EventFault (List Event) :=
  match events.findSome? Event.fault? with
  | some fault => .error fault
  | none => .ok (events.filter report.includes)

def values (report : Report) (event : Event) : List (String × JsonValue) :=
  let own := event.fields.filter fun (name, _) => !unreported.contains name
  let container := report.container.toList.map fun path => ("container", JsonValue.text path)
  own ++ container.filter fun (name, _) => (own.lookup name).isNone

/-- A reported event as an object. -/
def object (report : Report) (event : Event) : JsonValue :=
  .object
    ([("event", .text event.name), ("level", .text event.level.name),
      ("logger", .text report.reporterName)] ++ report.values event)

/-- The characters that put a text in quotes. -/
def quotedCharacters : List Char := [' ', '\t', '=', '\r', '\n', '\x22', '\x27']

/-- A value in a row of values: a text as it is unless it has to be quoted. -/
def shown : JsonValue → String
  | .text value =>
      if value.toList.any quotedCharacters.contains then Quoted.quote value else value
  | value => value.lineBy Quoted.quote

/-- A value as a plain text. -/
def plain : JsonValue → String
  | .text value => value
  | value => value.lineBy Quoted.quote

/-- The values that stand below the line of an event and not in it. -/
def trailing : List String := ["stack", "exception", "exc_info"]

/-- The line of an event: its level, name and reporter, and then its values by
name. -/
def headline (report : Report) (event : Event) : String :=
  let values := (report.values event).filter fun (name, _) => !trailing.contains name
  let (second, others) := values.partition fun (name, _) => name == "logger_name"
  let sorted := others.mergeSort fun left right => left.1 ≤ right.1
  " ".intercalate
    ([s!"[{event.level.name}]", event.name, s!"[{report.reporterName}]"] ++
      second.map (fun (_, value) => s!"[{plain value}]") ++
      sorted.map fun (name, value) => s!"{name}={shown value}")

/-- A value that counts as given: neither absent nor zero nor empty. -/
def isGiven : JsonValue → Bool
  | .null | .truth false | .integer 0 | .text "" | .list [] | .object [] => false
  | .decimal digits =>
      (digits.toList.takeWhile (· != 'e')).any fun digit => digit.isDigit && digit != '0'
  | _ => true

/-- What stands below the line of an event: the calls that led to it, and what
went wrong, with a rule between the two. -/
def details (event : Event) : String :=
  let value (name : String) : Option JsonValue :=
    (event.fields.lookup name).filter fun value => value matches .text _
  let failure := value "exception"
  let wished := (event.fields.lookup "exc_info").any isGiven
  let rule := if wished || failure.isSome then
    "\n\n" ++ String.ofList (List.replicate 79 '=') ++ "\n" else ""
  let calls := (value "stack").map fun stack => "\n" ++ plain stack ++ rule
  calls.getD "" ++ ((failure.map fun failure => "\n" ++ plain failure).getD "")

/-- The lines of all the events.  A text may break into several. -/
def plainLines (report : Report) (events : List Event) : List String :=
  events.flatMap fun event =>
    (brokenLines ((report.headline event ++ details event ++ "\n").toList)).map String.ofList

end Report

end CodeGraph.Logging
