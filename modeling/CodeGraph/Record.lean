import CodeGraph.Comment
import CodeGraph.Markup

/-!
# Records

A container holds three kinds of record: the metadata of a binary, its call
graph, and one flow graph per function.  Numbers in a record are unchecked;
they are checked against the width of their field when the record is written.
-/

namespace CodeGraph

/-- What a vertex of the call graph stands for. -/
inductive FunctionKind
  | normal
  /-- A recognized library function. -/
  | library
  /-- Imported from a dynamic library. -/
  | imported
  | thunk
  | invalid
  deriving DecidableEq, Repr

namespace FunctionKind

/-- The number that stands for a kind. -/
def code : FunctionKind → Int
  | normal => 0
  | library => 1
  | imported => 2
  | thunk => 3
  | invalid => 4

def name : FunctionKind → String
  | normal => "NORMAL"
  | library => "LIBRARY"
  | imported => "IMPORTED"
  | thunk => "THUNK"
  | invalid => "INVALID"

/-- The kind that a number stands for. -/
def ofCode? (code : Int) : Option FunctionKind :=
  [normal, library, imported, thunk, invalid].find? (·.code == code)

end FunctionKind

/-- How control passes from one basic block to another. -/
inductive BranchKind
  | conditionTrue
  | conditionFalse
  | unconditional
  | switch
  deriving DecidableEq, Repr

namespace BranchKind

/-- The number that stands for a kind. -/
def code : BranchKind → Int
  | conditionTrue => 1
  | conditionFalse => 2
  | unconditional => 3
  | switch => 4

/-- The kind that a number stands for. -/
def ofCode? (code : Int) : Option BranchKind :=
  [conditionTrue, conditionFalse, unconditional, switch].find? (·.code == code)

end BranchKind

/-- Metadata of a binary.  The counts cover exported functions only. -/
structure Meta where
  inputBinary : Option String := none
  inputHash : Option Bytes := none
  addressSpace : Option Int := none
  architecture : Option String := none
  maxMnemonicLength : Option Int := none
  numInstructions : Option Int := none
  numFunctions : Option Int := none
  numBasicBlocks : Option Int := none
  numEdges : Option Int := none
  deriving DecidableEq, Repr, Inhabited

/-- A function in the call graph. -/
structure CallGraph.Vertex where
  address : Int
  prime : Int
  kind : Int := FunctionKind.normal.code
  hasRealName : Bool := false
  mangledName : Option String := none
  demangledName : Option String := none
  deriving DecidableEq, Repr, Inhabited

/-- A call from an instruction of a function to a target address. -/
structure CallGraph.Edge where
  sourceFunction : Int
  sourceInstruction : Int
  target : Int
  deriving DecidableEq, Repr, Inhabited

/-- All functions of a binary and the calls between them. -/
structure CallGraph where
  vertices : List CallGraph.Vertex := []
  edges : List CallGraph.Edge := []
  deriving DecidableEq, Repr, Inhabited

/-- The first vertex with an address. -/
def CallGraph.vertex? (graph : CallGraph) (address : Int) : Option CallGraph.Vertex :=
  graph.vertices.find? (·.address == address)

/-- One machine instruction. -/
structure Instruction where
  address : Int
  prime : Int
  stringReference : Int := 0
  mnemonic : Option String := none
  operands : Option (List Markup.Run) := none
  rawBytes : Option Bytes := none
  callTargets : List Int := []
  comments : List Comment := []
  /-- Operand text exactly as read when its markup could not be split. -/
  rawOperands : Option String := none
  deriving DecidableEq, Repr, Inhabited

/-- Instructions that run one after the other. -/
structure BasicBlock where
  prime : Int
  instructions : List Instruction
  deriving DecidableEq, Repr, Inhabited

/-- A block's address is the address of its first instruction. -/
def BasicBlock.address? (block : BasicBlock) : Option Int :=
  block.instructions.head?.map (·.address)

/-- A branch between two basic blocks, named by their addresses. -/
structure FlowGraph.Edge where
  source : Int
  target : Int
  kind : Int := BranchKind.unconditional.code
  deriving DecidableEq, Repr, Inhabited

/-- The basic blocks and branches of one function.  The address is its entry
point, which need not be the lowest block. -/
structure FlowGraph where
  address : Int
  blocks : List BasicBlock := []
  edges : List FlowGraph.Edge := []
  deriving DecidableEq, Repr, Inhabited

/-- The number of instructions in all blocks. -/
def FlowGraph.numInstructions (graph : FlowGraph) : Nat :=
  (graph.blocks.map (·.instructions.length)).foldr (· + ·) 0

end CodeGraph
