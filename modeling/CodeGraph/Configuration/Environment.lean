import CodeGraph.Text.Word
import CodeGraph.Yaml.Value

/-!
# References to the environment

In the text of a configuration a reference such as `${NAME:default}` stands for
the value of a variable.
-/

namespace CodeGraph.Configuration

/-- The variables of the environment. -/
structure Environment where
  bindings : List (String × String) := []
  deriving DecidableEq, Repr, Inhabited

/-- A name with an optional default. -/
structure Reference where
  name : Codes
  default : Codes := []
  deriving DecidableEq, Repr

/-- The code point is a character of names. -/
def isNameCode (code : Nat) : Bool :=
  (Codes.char? code).any isWordCharacter

/-- Reads a reference behind the opening brace. -/
def Reference.read (text : Codes) :
    Option (Reference × { rest : Codes // rest.length ≤ text.length }) :=
  let name := text.takeWhile isNameCode
  let after := text.dropWhile isNameCode
  have afterLength : after.length ≤ text.length := (List.dropWhile_suffix isNameCode).length_le
  if name.isEmpty then none
  else
    match _shape : after with
    | [] => none
    | mark :: more =>
        if mark = '\x7d'.toNat then some ({ name }, ⟨more, by simp at afterLength; omega⟩)
        else if mark = ':'.toNat then
          match _end : more.dropWhile (· != '\x7d'.toNat) with
          | _ :: rest =>
              some ({ name, default := more.takeWhile (· != '\x7d'.toNat) },
                ⟨rest, by
                  have := (List.dropWhile_suffix (l := more) (· != '\x7d'.toNat)).length_le
                  rw [_end] at this
                  simp only [List.length_cons] at this afterLength
                  omega⟩)
          | [] => none
        else none

namespace Environment

/-- The value of a reference; without one its default. -/
def value (environment : Environment) (reference : Reference) : Codes :=
  let bound := environment.bindings.find? fun (name, _) => Codes.ofString name == reference.name
  match bound with
  | some (_, found) => Codes.ofString found
  | none => reference.default

/-- The text with every reference replaced.  What a reference stands for is not
looked at again. -/
def expandText (environment : Environment) (text : Codes) : Codes :=
  match text with
  | [] => []
  | [last] => [last]
  | first :: second :: rest =>
      if first = '$'.toNat ∧ second = '\x7b'.toNat then
        match Reference.read rest with
        | some (reference, after) => environment.value reference ++ environment.expandText after
        | none => first :: environment.expandText (second :: rest)
      else first :: environment.expandText (second :: rest)
termination_by text.length
decreasing_by
  · have := after.property; simp only [List.length_cons]; omega
  · simp
  · simp

mutual

/-- The value with the references in all its texts replaced.  Keys are left as
they are. -/
def expand (environment : Environment) : Yaml.Value → Yaml.Value
  | .atom (.text content) => .atom (.text (environment.expandText content))
  | .sequence items => .sequence (environment.expandItems items)
  | .mapping entries => .mapping (environment.expandEntries entries)
  | other => other

/-- The items with the references in their texts replaced. -/
def expandItems (environment : Environment) : List Yaml.Value → List Yaml.Value
  | [] => []
  | item :: rest => environment.expand item :: environment.expandItems rest

/-- The entries with the references in the texts of their values replaced. -/
def expandEntries (environment : Environment) :
    List (Yaml.Atom × Yaml.Value) → List (Yaml.Atom × Yaml.Value)
  | [] => []
  | (key, value) :: rest =>
      (key, environment.expand value) :: environment.expandEntries rest

end

end Environment

end CodeGraph.Configuration
