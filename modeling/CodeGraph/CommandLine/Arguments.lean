/-!
# Arguments

Arguments are options and operands.  An option has a long name such as
`--output` or a short one such as `-o`, and may be followed by a value.  Short
options can share a dash, and a value can follow its option without a blank.
-/

namespace CodeGraph.CommandLine

/-- An option: what it stands for, its names, and whether a value follows it. -/
structure OptionForm (Key : Type) where
  key : Key
  long : String
  short : Option Char := none
  takesValue : Bool := false
  deriving DecidableEq, Repr

/-- Why arguments cannot be used. -/
inductive UsageError
  | unknownOption (name : String)
  | missingValue (name : String)
  /-- A value for an option that takes none. -/
  | unexpectedValue (name : String)
  | missingCommand
  | unknownCommand (name : String)
  | missingOperand (name : String)
  | unexpectedOperands (operands : List String)
  | badPath (text : String)
  deriving DecidableEq, Repr

def UsageError.message : UsageError → String
  | .unknownOption name => s!"No such option: {name}"
  | .missingValue name => s!"Option {name} requires an argument."
  | .unexpectedValue name => s!"Option {name} does not take a value."
  | .missingCommand => "Missing command."
  | .unknownCommand name => s!"No such command: {name}"
  | .missingOperand name => s!"Missing argument: {name}"
  | .unexpectedOperands operands =>
      "Got unexpected extra arguments: " ++ " ".intercalate operands
  | .badPath text => s!"Invalid path: {text}"

/-- Arguments by what they stand for.  The value of an option that takes none is
empty. -/
structure Arguments (Key : Type) where
  options : List (Key × String) := []
  operands : List String := []
  deriving DecidableEq, Repr

namespace Arguments

variable {Key : Type}

/-- Puts options in front of all others. -/
def prependOptions (options : List (Key × String)) (arguments : Arguments Key) : Arguments Key :=
  { arguments with options := options ++ arguments.options }

/-- Puts an operand in front of all others. -/
def prependOperand (operand : String) (arguments : Arguments Key) : Arguments Key :=
  { arguments with operands := operand :: arguments.operands }

/-- The value of an option; of several the last counts. -/
def value? [DecidableEq Key] (arguments : Arguments Key) (key : Key) : Option String :=
  (arguments.options.reverse.find? (·.1 = key)).map (·.2)

/-- The option is there. -/
def has [DecidableEq Key] (arguments : Arguments Key) (key : Key) : Bool :=
  arguments.options.any (·.1 = key)

end Arguments

/-- What one argument says: the options that are complete, and one whose value
is the next argument. -/
structure Opening (Key : Type) where
  complete : List (Key × String) := []
  waiting : Option (OptionForm Key) := none
  deriving Repr

/-- Reads short options that share a dash. -/
def readShort {Key : Type} (forms : List (OptionForm Key)) :
    List Char → Except UsageError (Opening Key)
  | [] => .ok {}
  | letter :: rest =>
      match forms.find? (·.short == some letter) with
      | none => .error (.unknownOption (String.ofList ['-', letter]))
      | some form =>
          if form.takesValue then
            if rest.isEmpty then .ok { waiting := some form }
            else .ok { complete := [(form.key, String.ofList rest)] }
          else do
            let opening ← readShort forms rest
            return { opening with complete := (form.key, "") :: opening.complete }

/-- Reads a long option.  A value may follow an equals sign. -/
def readLong {Key : Type} (forms : List (OptionForm Key)) (argument : List Char) :
    Except UsageError (Opening Key) :=
  let name := String.ofList (argument.takeWhile (· != '='))
  match forms.find? (·.long == name), argument.dropWhile (· != '=') with
  | none, _ => .error (.unknownOption name)
  | some form, [] =>
      .ok (if form.takesValue then { waiting := some form } else { complete := [(form.key, "")] })
  | some form, _ :: value =>
      if form.takesValue then .ok { complete := [(form.key, String.ofList value)] }
      else .error (.unexpectedValue name)

/-- Tells arguments apart.  All behind two dashes are operands, and so are all
behind the first operand unless options may follow. -/
def readArguments {Key : Type} (forms : List (OptionForm Key)) (optionsMayFollow : Bool) :
    List String → Except UsageError (Arguments Key)
  | [] => .ok {}
  | argument :: rest =>
      if argument = "--" then .ok { operands := rest }
      else
        match argument.toList with
        | '-' :: first :: more => do
            let opening ←
              if first = '-' then readLong forms ('-' :: first :: more)
              else readShort forms (first :: more)
            match opening.waiting with
            | none =>
                let others ← readArguments forms optionsMayFollow rest
                return others.prependOptions opening.complete
            | some form =>
                match rest with
                | [] => throw (.missingValue form.long)
                | value :: rest =>
                    let others ← readArguments forms optionsMayFollow rest
                    return others.prependOptions (opening.complete ++ [(form.key, value)])
        | _ =>
            if optionsMayFollow then
              (readArguments forms optionsMayFollow rest).map (·.prependOperand argument)
            else .ok { operands := argument :: rest }

end CodeGraph.CommandLine
