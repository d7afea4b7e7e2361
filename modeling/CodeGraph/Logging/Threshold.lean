import CodeGraph.Logging.Event
import CodeGraph.Text.Quoted

/-!
# The level that is asked for

Events are reported from a level upward that is given by name.  The name may
belong to a setting of the log that is no level, and such a name is refused;
one that belongs to nothing stands for the usual level.
-/

namespace CodeGraph.Logging

/-- A setting of the log that has a name. -/
inductive Setting
  | level (number : Nat)
  | format (template : String)
  | formats
  deriving DecidableEq, Repr

/-- The settings of the log by name. -/
def settings : List (String × Setting) :=
  [("NOTSET", .level 0), ("DEBUG", .level 10), ("INFO", .level 20), ("WARN", .level 30),
    ("WARNING", .level 30), ("ERROR", .level 40), ("CRITICAL", .level 50), ("FATAL", .level 50),
    ("BASIC_FORMAT", .format "%(levelname)s:%(name)s:%(message)s"), ("_STYLES", .formats)]

/-- The capitals of a letter.  Beside the letters of ASCII, four more have
capitals in ASCII that occur in the names of settings. -/
def capitals (character : Char) : List Char :=
  match character with
  | 'ı' => ['I']
  | 'ſ' => ['S']
  | 'ﬅ' | 'ﬆ' => ['S', 'T']
  | other => [other.toUpper]

/-- Why a name cannot be used for a level. -/
inductive LevelFault
  | format (template : String)
  | formats
  deriving DecidableEq, Repr

/-- The text of a fault; a name that stands for no single value has none. -/
def LevelFault.message : LevelFault → String
  | format template => s!"Unknown level: {Quoted.quote template}"
  | formats => ""

/-- The number of a level that is named in any case of letters. -/
def threshold (name : String) : Except LevelFault Nat :=
  match settings.lookup (String.ofList (name.toList.flatMap capitals)) with
  | none => .ok Level.info.number
  | some (.level number) => .ok number
  | some (.format template) => .error (.format template)
  | some .formats => .error .formats

end CodeGraph.Logging
