import CodeGraph.Codec.CallGraph

/-!
# The flow graph record

A flow graph needs a block and every block an instruction, both when writing
and when reading.  Operand text whose markup cannot be split is a refusal when
reading strictly; otherwise it is kept as it is, and a warning is given.
-/

namespace CodeGraph.Codec

open Wire (Field)

/-! ## Writing -/

def commentFields (comment : Comment) : Except ValueError (List Field) :=
  match comment.flags with
  | .error error => .error (.flags error)
  | .ok flags => do
      let flagField ← wordField 32 2 flags
      return [textField 1 comment.text, flagField]

/-- The operand field: flattened runs, or else text kept from reading. -/
def operandFields (instruction : Instruction) : Except ValueError (List Field) :=
  match instruction.operands with
  | none => .ok (optionalText 5 instruction.rawOperands)
  | some runs =>
      match Markup.encode runs with
      | .ok text => .ok [textField 5 text]
      | .error error => .error (.markup error)

/-- The fields of an instruction.  A string reference of zero is not written. -/
def instructionFields (instruction : Instruction) : Except ValueError (List Field) := do
  let address ← wordField 64 1 instruction.address
  let prime ← wordField 32 2 instruction.prime
  let stringReference ←
    optionalWord 32 3 (if instruction.stringReference = 0 then none else some instruction.stringReference)
  let operands ← operandFields instruction
  let callTargets ← instruction.callTargets.mapM (wordField 64 7)
  let comments ← instruction.comments.mapM commentFields
  return [address, prime] ++ stringReference ++ optionalText 4 instruction.mnemonic ++ operands ++
    optionalBytes 6 instruction.rawBytes ++ callTargets ++ comments.map (messageField 8)

def blockFields (block : BasicBlock) : Except ValueError (List Field) := do
  let prime ← wordField 64 1 block.prime
  let instructions ← block.instructions.mapM instructionFields
  return prime :: instructions.map (messageField 2)

/-- A number is the code of a branch kind. -/
def isBranchKind (code : Int) : Bool := (BranchKind.ofCode? code).isSome

def branchFields (edge : FlowGraph.Edge) : Except ValueError (List Field) := do
  let source ← wordField 64 1 edge.source
  let target ← wordField 64 2 edge.target
  let kind ← enumeratorField isBranchKind 3 edge.kind
  return [source, target, kind]

def flowGraphFields (graph : FlowGraph) : Except ValueError (List Field) := do
  let address ← wordField 64 1 graph.address
  let blocks ← graph.blocks.mapM blockFields
  let edges ← graph.edges.mapM branchFields
  return address :: (blocks.map (messageField 2) ++ edges.map (messageField 3))

/-- Refuses a flow graph without blocks or with an empty block. -/
def checkBlocks (graph : FlowGraph) : Except EncodeError Unit :=
  if graph.blocks.isEmpty then .error (.noBlocks graph.address)
  else
    match graph.blocks.findIdx? (·.instructions.isEmpty) with
    | some position => .error (.emptyBlock graph.address position)
    | none => .ok ()

/-- The payload of a flow graph.  Its blocks are checked before its values. -/
def encodeFlowGraph (graph : FlowGraph) : Except EncodeError Bytes := do
  checkBlocks graph
  match flowGraphFields graph with
  | .ok fields => .ok (Wire.encodeFields fields)
  | .error error => .error (.flowGraph graph.address error)

/-! ## Reading -/

/-- The messages that make up an instruction. -/
structure InstructionMessage where
  fields : List Field
  callTargets : List Nat
  comments : List (List Field)

/-- The messages that make up a basic block. -/
structure BlockMessage where
  fields : List Field
  instructions : List InstructionMessage

/-- The messages that make up a flow graph. -/
structure FlowGraphMessage where
  fields : List Field
  blocks : List BlockMessage
  edges : List (List Field)

/-- Takes the payload of an instruction apart. -/
def parseInstruction (payload : Bytes) : Option InstructionMessage := do
  let fields ← Wire.fields? 2 payload
  let callTargets ← Wire.words? 7 fields
  let comments ← (Wire.messages 8 fields).mapM (Wire.fields? 3)
  return { fields, callTargets, comments }

/-- Takes the payload of a block apart. -/
def parseBlock (payload : Bytes) : Option BlockMessage := do
  let fields ← Wire.fields? 1 payload
  let instructions ← (Wire.messages 2 fields).mapM parseInstruction
  return { fields, instructions }

/-- Takes the payload of a flow graph apart, if it is well-formed. -/
def parseFlowGraph (payload : Bytes) : Option FlowGraphMessage := do
  let fields ← Wire.fields? 0 payload
  let blocks ← (Wire.messages 2 fields).mapM parseBlock
  let edges ← (Wire.messages 3 fields).mapM (Wire.fields? 1)
  return { fields, blocks, edges }

/-- The paths of the required fields that an instruction lacks. -/
def InstructionMessage.missing (path : String) (message : InstructionMessage) : List String :=
  missingFields path [("address", hasWord 1), ("prime", hasWord 2)] message.fields ++
    message.comments.zipIdx.flatMap fun (fields, position) =>
      missingFields (elementPath path "comments" position)
        [("comment", hasBytes 1), ("flags", hasWord 2)] fields

/-- The paths of the required fields that a block lacks. -/
def BlockMessage.missing (path : String) (message : BlockMessage) : List String :=
  missingFields path [("prime", hasWord 1)] message.fields ++
    message.instructions.zipIdx.flatMap fun (instruction, position) =>
      instruction.missing (elementPath path "instructions" position)

/-- The paths of the required fields that a flow graph lacks: its own first,
then those of its blocks and branches. -/
def FlowGraphMessage.missing (message : FlowGraphMessage) : List String :=
  missingFields "" [("address", hasWord 1)] message.fields ++
    (message.blocks.zipIdx.flatMap fun (block, position) =>
      block.missing (elementPath "" "vertices" position)) ++
    message.edges.zipIdx.flatMap fun (fields, position) =>
      missingFields (elementPath "" "edges" position)
        [("source_address", hasWord 1), ("target_address", hasWord 2)] fields

/-- Reading may fail, and gives warnings in either case. -/
abbrev Reading := ExceptT DecodeError (StateM (List Warning))

/-- Adds a warning after the ones given before. -/
def warn (warning : Warning) : Reading Unit :=
  modify (· ++ [warning])

/-- The text of an invalid byte that is shown in place of a character. -/
def escapeByte (byte : UInt8) : List Char :=
  '\x5c' :: 'x' :: Hex.byteDigits byte

/-- Splits the operand text of an instruction. -/
def splitOperands (stored : Bytes) : Except Markup.DecodeError (List Markup.Run) :=
  match Utf8.decode stored with
  | .error offset => .error (.invalidText offset)
  | .ok text => Markup.decode text

/-- Operand text in typed runs, or else the text as it was read. -/
inductive Operands
  | absent
  | runs (runs : List Markup.Run)
  | raw (text : String)

/-- Reads the operand text of the instruction at an address. -/
def readOperands (strict : Bool) (address : Nat) : Option Bytes → Reading Operands
  | none => return .absent
  | some stored =>
      match splitOperands stored with
      | .ok runs => return .runs runs
      | .error error => do
          if strict then throw (.operands address error)
          warn ⟨address, error.position⟩
          return .raw (String.ofList (Utf8.decodeCharsLossy escapeByte stored))

/-- The runs of operand text that could be split. -/
def Operands.runs? : Operands → Option (List Markup.Run)
  | .runs split => some split
  | _ => none

/-- The text of operands that could not be split. -/
def Operands.raw? : Operands → Option String
  | .raw text => some text
  | _ => none

/-- The comment that a message holds. -/
def commentOfFields (fields : List Field) : Except DecodeError Comment := do
  let flags := (Wire.word32? 2 fields).getD 0
  let properties := Comment.unpackFlags flags
  let text ← readText "comment" ((Wire.bytes? 1 fields).getD [])
  return {
    text
    repeatable := properties.repeatable
    kind := properties.kind
    operand := properties.operand
    reserved := Comment.reservedBits flags }

/-- A required 32-bit number. -/
def word32 (number : Nat) (fields : List Field) : Nat :=
  (Wire.word32? number fields).getD 0

/-- The instruction that a message holds.  Its operands are read first. -/
def instructionOfMessage (strict : Bool) (message : InstructionMessage) : Reading Instruction := do
  let fields := message.fields
  let operands ← readOperands strict (word 1 fields) (Wire.bytes? 5 fields)
  let mnemonic ← readOptionalText "mnemonic" (Wire.bytes? 4 fields)
  let comments ← (message.comments.mapM commentOfFields : Except DecodeError (List Comment))
  return {
    address := word 1 fields
    prime := word32 2 fields
    stringReference := word32 3 fields
    mnemonic
    operands := operands.runs?
    rawBytes := Wire.bytes? 6 fields
    callTargets := message.callTargets.map Int.ofNat
    comments
    rawOperands := operands.raw? }

/-- The block that a message holds; `address` names the flow graph. -/
def blockOfMessage (strict : Bool) (address position : Nat) (message : BlockMessage) :
    Reading BasicBlock := do
  if message.instructions.isEmpty then throw (.emptyBlock position address)
  let instructions ← message.instructions.mapM (instructionOfMessage strict)
  return { prime := word 1 message.fields, instructions }

/-- The branch that a message holds. -/
def branchOfFields (fields : List Field) : FlowGraph.Edge where
  source := word 1 fields
  target := word 2 fields
  kind := (Wire.enumerator? isBranchKind 3 fields).getD BranchKind.unconditional.code

/-- The flow graph that a message holds, block after block. -/
def flowGraphOfMessage (strict : Bool) (message : FlowGraphMessage) : Reading FlowGraph := do
  let address := word 1 message.fields
  if message.blocks.isEmpty then throw (.noBlocks address)
  let blocks ← message.blocks.zipIdx.mapM fun (block, position) =>
    blockOfMessage strict address position block
  return { address, blocks, edges := message.edges.map branchOfFields }

/-- Reads a flow graph.  The warnings given on the way come with the result,
also when reading fails. -/
def decodeFlowGraph (strict : Bool) (payload : Bytes) :
    Except DecodeError FlowGraph × List Warning :=
  match parseFlowGraph payload with
  | none => (.error (.corrupt .flowGraph), [])
  | some message =>
      if message.missing.isEmpty then (flowGraphOfMessage strict message).run.run []
      else (.error (.missing message.missing), [])

end CodeGraph.Codec
