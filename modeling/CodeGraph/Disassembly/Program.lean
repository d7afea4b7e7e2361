import CodeGraph.Record

/-!
# Disassembled programs

What a disassembler says about a binary before any record is made: functions
with their blocks and branches, and the calls between them.
-/

namespace CodeGraph.Disassembly

/-- A machine instruction as a disassembler reports it. -/
structure Insn where
  address : Int
  mnemonic : String
  rawBytes : Bytes := []
  operands : List Markup.Run := []
  /-- The bytes of a string that the instruction refers to. -/
  stringData : Option Bytes := none
  callTargets : List Int := []
  comments : List Comment := []
  deriving DecidableEq, Repr, Inhabited

/-- A basic block. -/
structure Block where
  address : Int
  instructions : List Insn := []
  deriving DecidableEq, Repr, Inhabited

/-- A function.  Branches name blocks by their addresses. -/
structure Function where
  address : Int
  name : Option String := none
  kind : Int := FunctionKind.normal.code
  hasRealName : Bool := false
  demangledName : Option String := none
  blocks : List Block := []
  branches : List FlowGraph.Edge := []
  deriving DecidableEq, Repr, Inhabited

/-- The mnemonics of a function, block after block. -/
def Function.mnemonics (function : Function) : List String :=
  function.blocks.flatMap fun block => block.instructions.map (·.mnemonic)

/-- A binary. -/
structure Program where
  name : String
  inputHash : Bytes
  architecture : String
  addressSpace : Int := 64
  functions : List Function := []
  calls : List CallGraph.Edge := []
  deriving DecidableEq, Repr, Inhabited

end CodeGraph.Disassembly
