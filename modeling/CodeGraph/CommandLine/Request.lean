import CodeGraph.CommandLine.Arguments
import CodeGraph.Files.Path

/-!
# Requests

What the arguments of the program ask for.  Options of the program itself stand
in front of the name of a command, and everything behind the name belongs to the
command.
-/

namespace CodeGraph.CommandLine

open Files (Path)

inductive ProgramOption
  | configuration
  | verbose
  | version
  | help
  deriving DecidableEq, Repr

/-- The forms of the program's options. -/
def programOptions : List (OptionForm ProgramOption) :=
  [{ key := .configuration, long := "--config", short := some 'C', takesValue := true },
    { key := .verbose, long := "--verbose", short := some 'v' },
    { key := .version, long := "--version", short := some 'V' },
    { key := .help, long := "--help" }]

inductive CommandName
  /-- Writes the container of a binary. -/
  | create
  /-- Shows what a container says about itself. -/
  | describe
  /-- Checks that the records of a container agree. -/
  | check
  deriving DecidableEq, Repr

namespace CommandName

def word : CommandName → String
  | create => "export"
  | describe => "info"
  | check => "validate"

def ofWord? (word : String) : Option CommandName :=
  [create, describe, check].find? (·.word == word)

end CommandName

inductive CommandOption
  | output
  | json
  | help
  deriving DecidableEq, Repr

/-- The forms of a command's options. -/
def CommandName.options (name : CommandName) : List (OptionForm CommandOption) :=
  let own : List (OptionForm CommandOption) := match name with
    | create => [{ key := .output, long := "--output", short := some 'o', takesValue := true }]
    | describe => [{ key := .json, long := "--json" }]
    | check => []
  own ++ [{ key := .help, long := "--help" }]

/-- The name of a command's only operand. -/
def CommandName.operand : CommandName → String
  | create => "BINARY"
  | describe | check => "CONTAINER"

/-- A command with all that it needs. -/
inductive Command
  | create (binary : Path) (output : Option Path)
  | describe (container : Path) (json : Bool)
  | check (container : Path)
  deriving DecidableEq, Repr

/-- Why nothing is left to do. -/
inductive Stop
  /-- The version is asked for. -/
  | version
  /-- Help is asked for. -/
  | help
  | usage (error : UsageError)
  deriving DecidableEq, Repr

/-- What the program's own arguments ask for. -/
structure Request where
  configuration : Option String := none
  verbose : Bool := false
  name : CommandName
  arguments : List String := []
  deriving DecidableEq, Repr

/-- Reads the program's own arguments.  The version and help take precedence over
everything but arguments that cannot be told apart. -/
def Request.read (arguments : List String) : Except Stop Request := do
  if arguments.isEmpty then throw (.usage .missingCommand)
  let given ← (readArguments programOptions false arguments).mapError Stop.usage
  match given.options.find? fun (key, _) => key = .version ∨ key = .help with
  | some (.version, _) => throw .version
  | some _ => throw .help
  | none => pure ()
  match given.operands with
  | [] => throw (.usage .missingCommand)
  | word :: arguments =>
      match CommandName.ofWord? word with
      | none => throw (.usage (.unknownCommand word))
      | some name =>
          return {
            configuration := given.value? .configuration
            verbose := given.has .verbose
            name
            arguments }

/-- Reads a path; it cannot hold the zero that ends it for the system. -/
def readPath (text : String) : Except Stop Path :=
  if text.toList.contains '\x00' then .error (.usage (.badPath text))
  else .ok (Path.ofString text)

def Command.read (name : CommandName) (arguments : List String) : Except Stop Command := do
  let given ← (readArguments name.options true arguments).mapError Stop.usage
  if given.has .help then throw .help
  match given.operands with
  | [] => throw (.usage (.missingOperand name.operand))
  | [operand] =>
      let path ← readPath operand
      match name with
      | .create => return .create path (← (given.value? .output).mapM readPath)
      | .describe => return .describe path (given.has .json)
      | .check => return .check path
  | _ :: others => throw (.usage (.unexpectedOperands others))

end CodeGraph.CommandLine
