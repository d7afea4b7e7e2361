import CodeGraph.Record

/-!
# Refusals of the record codecs

A record that cannot be written names its first faulty value; a payload that
cannot be read names the first fault in reading order.
-/

namespace CodeGraph.Codec

inductive RecordKind
  | metadata
  | callGraph
  | flowGraph
  deriving DecidableEq, Repr

/-- The name of a kind of record in messages. -/
def RecordKind.label : RecordKind → String
  | .metadata => "meta"
  | .callGraph => "callgraph"
  | .flowGraph => "flowgraph"

def RecordKind.schemaName : RecordKind → String
  | .metadata => "BinExport.Meta"
  | .callGraph => "BinExport.Callgraph"
  | .flowGraph => "BinExport.Flowgraph"

/-- Why a value cannot be written to a field. -/
inductive ValueError
  /-- The number does not fit the width of its field. -/
  | outOfRange (value : Int)
  /-- The number is no member of the field's enumeration. -/
  | unknownEnumerator (value : Int)
  /-- A comment has no flag word. -/
  | flags (error : Comment.FlagError)
  /-- Operand runs cannot be flattened. -/
  | markup (error : Markup.EncodeError)
  deriving DecidableEq, Repr

def ValueError.message : ValueError → String
  | .outOfRange value => s!"Value out of range: {value}"
  | .unknownEnumerator value => s!"invalid enumerator {value}"
  | .flags error => error.message
  | .markup error => error.message

/-- Why a record cannot be written. -/
inductive EncodeError
  | metadata (error : ValueError)
  | callGraph (error : ValueError)
  | flowGraph (address : Int) (error : ValueError)
  /-- A flow graph needs a block. -/
  | noBlocks (address : Int)
  /-- Every block needs an instruction. -/
  | emptyBlock (address : Int) (position : Nat)
  deriving DecidableEq, Repr

/-- A refusal with the name of its record in front.  Operand markup speaks for
itself, unless its tag is unknown. -/
def ValueError.describe (record : String) (error : ValueError) : String :=
  match error with
  | .markup (.unknownTag tag) => s!"{record}: {(Markup.EncodeError.unknownTag tag).message}"
  | .markup error => error.message
  | other => s!"{record}: {other.message}"

def EncodeError.message : EncodeError → String
  | .metadata error => error.describe RecordKind.metadata.label
  | .callGraph error => error.describe RecordKind.callGraph.label
  | .flowGraph address error => error.describe s!"flowgraph {Hex.ofInt address}"
  | .noBlocks address => s!"flowgraph {Hex.ofInt address} has no basic blocks"
  | .emptyBlock address position =>
      s!"flowgraph {Hex.ofInt address}: basic block {position} has no instructions"

/-- Why a payload cannot be read. -/
inductive DecodeError
  /-- The payload is no well-formed message. -/
  | corrupt (kind : RecordKind)
  /-- Fields that must be present are not. -/
  | missing (paths : List String)
  /-- A text field is not valid UTF-8. -/
  | invalidText (field : String)
  | noBlocks (address : Nat)
  | emptyBlock (position : Nat) (address : Nat)
  /-- The operand text of an instruction cannot be split. -/
  | operands (address : Nat) (error : Markup.DecodeError)
  deriving DecidableEq, Repr

def DecodeError.message : DecodeError → String
  | .corrupt kind =>
      s!"corrupt payload: Error parsing message with type '{kind.schemaName}': Wire format was corrupt"
  | .missing paths => "missing required fields: " ++ ", ".intercalate paths
  | .invalidText field => s!"invalid UTF-8 in {field}"
  | .noBlocks address => s!"flowgraph {Hex.ofInt address} has no basic blocks"
  | .emptyBlock position address =>
      s!"basic block {position} of {Hex.ofInt address} has no instructions"
  | .operands address error => s!"instruction {Hex.ofInt address}: {error.message}"

/-- Operand text whose markup could not be split, kept as it is. -/
structure Warning where
  /-- The address of the instruction. -/
  address : Nat
  /-- Where the markup is at fault. -/
  position : Nat
  deriving DecidableEq, Repr

end CodeGraph.Codec
