import CodeGraph.Text.Hex

/-!
# Operand markup

Operand text is a sequence of typed runs.  It is flattened to one string in
which a control character announces the type of the text after it; only the
first run may go without a type.  Splitting a flattened string gives the runs
back, and every string whose control characters are known markers is the
flattened form of exactly one sequence of runs.
-/

namespace CodeGraph.Markup

/-- What a piece of operand text stands for. -/
inductive Kind
  | mnemonic
  | symbol
  | immediateInt
  | immediateFloat
  | operator
  | register
  | sizeMark
  | dereference
  | newOperand
  | stackVariable
  | globalVariable
  | jumpLabel
  | function
  deriving DecidableEq, Repr

/-- The number that stands for a kind, which is also its marker. -/
def Kind.code : Kind → Int
  | .mnemonic => 0
  | .symbol => 1
  | .immediateInt => 2
  | .immediateFloat => 3
  | .operator => 4
  | .register => 5
  | .sizeMark => 6
  | .dereference => 7
  | .newOperand => 8
  | .stackVariable => 9
  | .globalVariable => 10
  | .jumpLabel => 11
  | .function => 12

/-- The number of kinds: a code is valid when it is at least zero and below. -/
def kindCount : Nat := 13

/-- A typed piece of operand text.  The tag is a kind's code, checked when the
run is written; only a leading run may have none. -/
structure Run where
  tag : Option Int
  text : String
  deriving DecidableEq, Repr, Inhabited

/-- A run of a known kind. -/
def Run.ofKind (kind : Kind) (text : String) : Run :=
  ⟨some kind.code, text⟩

/-- Control characters are kept for markers. -/
def isControl (character : Char) : Bool :=
  decide (character.toNat < 0x20) || character.toNat == 0x7F

/-- Why runs cannot be flattened. -/
inductive EncodeError
  /-- A run's text contains a control character. -/
  | control (position : Nat) (character : Char)
  /-- A run other than the first has no tag. -/
  | untyped (position : Nat)
  /-- The first run has neither tag nor text. -/
  | emptyUntyped
  /-- A tag is no kind's code. -/
  | unknownTag (tag : Int)
  deriving DecidableEq, Repr

def EncodeError.message : EncodeError → String
  | .control position character =>
      s!"markup run {position} contains control character {Hex.ofByte (UInt8.ofNat character.toNat)}"
  | .untyped position => s!"untyped markup run at position {position}"
  | .emptyUntyped => "empty untyped markup run"
  | .unknownTag tag => s!"{tag} is not a valid MarkupType"

/-- The flattened form of the run at the given position: its text is checked
first, then its tag. -/
def encodeRun (position : Nat) (run : Run) : Except EncodeError (List Char) :=
  match run.text.toList.find? isControl with
  | some character => .error (.control position character)
  | none =>
      match run.tag with
      | none =>
          if position ≠ 0 then .error (.untyped position)
          else if run.text.isEmpty then .error .emptyUntyped
          else .ok run.text.toList
      | some tag =>
          if 0 ≤ tag ∧ tag < kindCount then .ok (Char.ofNat tag.toNat :: run.text.toList)
          else .error (.unknownTag tag)

/-- The flattened form of runs whose first has the given position. -/
def encodeFrom : Nat → List Run → Except EncodeError (List Char)
  | _, [] => .ok []
  | position, run :: rest => do
      let head ← encodeRun position run
      let tail ← encodeFrom (position + 1) rest
      return head ++ tail

/-- Flattens runs to one marked string. -/
def encode (runs : List Run) : Except EncodeError String :=
  String.ofList <$> encodeFrom 0 runs

/-- A marked string cannot be split: the control character at a position is no
marker, or the text is not even valid from some byte on. -/
inductive DecodeError
  | unknownMarker (character : Char) (position : Nat)
  | invalidText (position : Nat)
  deriving DecidableEq, Repr

/-- Where the fault is: a character position for an unknown marker, a byte
offset for invalid text. -/
def DecodeError.position : DecodeError → Nat
  | .unknownMarker _ position => position
  | .invalidText position => position

def DecodeError.message : DecodeError → String
  | .unknownMarker character position =>
      s!"unknown markup byte {Hex.ofByte (UInt8.ofNat character.toNat)} at position {position}"
  | .invalidText position => s!"invalid UTF-8 at position {position}"

/-- Splits marked text that starts at a position into the text before its first
marker and the runs from there on. -/
def split : Nat → List Char → Except DecodeError (List Char × List Run)
  | _, [] => .ok ([], [])
  | position, character :: rest =>
      if isControl character then
        if character.toNat < kindCount then do
          let (text, runs) ← split (position + 1) rest
          return ([], ⟨some (character.toNat : Int), String.ofList text⟩ :: runs)
        else .error (.unknownMarker character position)
      else do
        let (text, runs) ← split (position + 1) rest
        return (character :: text, runs)

/-- Splits a marked string into its runs. -/
def decode (text : String) : Except DecodeError (List Run) := do
  let (leading, runs) ← split 0 text.toList
  return if leading.isEmpty then runs else ⟨none, String.ofList leading⟩ :: runs

/-- The text of the runs without markers. -/
def plainText (runs : List Run) : String :=
  String.join (runs.map Run.text)

end CodeGraph.Markup
