import CodeGraph.Disassembly.Program
import CodeGraph.Signature

/-!
# Records of a program

Functions are taken in ascending order of their addresses, and blocks likewise,
so the order in which a disassembler reports them does not matter.  Every
function has a vertex in the call graph; only normal functions and thunks with
a body have a flow graph and count in the metadata.
-/

namespace CodeGraph.Disassembly

/-- The signature of instructions with the given mnemonics. -/
def primeOfMnemonics (mnemonics : List String) : Int :=
  Signature.additivePrime (mnemonics.map Utf8.encode)

/-- The hash of a referenced string; zero stands for none. -/
def stringReference : Option Bytes → Int
  | none => 0
  | some data => if data.isEmpty then 0 else Signature.stringHash data

/-- The record of an instruction.  Empty operands and bytes are left out. -/
def Insn.record (insn : Insn) : Instruction where
  address := insn.address
  prime := Signature.mnemonicPrime (Utf8.encode insn.mnemonic)
  stringReference := stringReference insn.stringData
  mnemonic := some insn.mnemonic
  operands := if insn.operands.isEmpty then none else some insn.operands
  rawBytes := if insn.rawBytes.isEmpty then none else some insn.rawBytes
  callTargets := insn.callTargets
  comments := insn.comments

def Block.record (block : Block) : BasicBlock where
  prime := primeOfMnemonics (block.instructions.map (·.mnemonic))
  instructions := block.instructions.map Insn.record

/-- A function has a flow graph when it is normal or a thunk and has a body. -/
def Function.isExported (function : Function) : Bool :=
  (function.kind == FunctionKind.normal.code || function.kind == FunctionKind.thunk.code) &&
    !function.blocks.isEmpty

/-- The blocks of a function by ascending address. -/
def Function.sortedBlocks (function : Function) : List Block :=
  function.blocks.mergeSort fun left right => left.address ≤ right.address

def Function.flowGraph (function : Function) : FlowGraph where
  address := function.address
  blocks := function.sortedBlocks.map Block.record
  edges := function.branches

/-- The call graph vertex of a function.  A demangled name that says nothing
new is left out. -/
def Function.vertex (function : Function) : CallGraph.Vertex where
  address := function.address
  prime := primeOfMnemonics function.mnemonics
  kind := function.kind
  hasRealName := function.hasRealName
  mangledName := function.name
  demangledName := if function.demangledName = function.name then none else function.demangledName

namespace Program

/-- The functions by ascending address. -/
def sortedFunctions (program : Program) : List Function :=
  program.functions.mergeSort fun left right => left.address ≤ right.address

/-- The functions that have a flow graph, by ascending address. -/
def exported (program : Program) : List Function :=
  program.sortedFunctions.filter (·.isExported)

/-- The flow graphs in the order in which they are written. -/
def flowGraphs (program : Program) : List FlowGraph :=
  program.exported.map Function.flowGraph

def callGraph (program : Program) : CallGraph where
  vertices := program.sortedFunctions.map Function.vertex
  edges := program.calls

/-- The counts over exported functions, without what else is known of the
binary. -/
def counts (program : Program) : Meta :=
  let functions := program.exported
  let blocks := functions.flatMap (·.blocks)
  let instructions := blocks.flatMap (·.instructions)
  { maxMnemonicLength := some ((instructions.map (·.mnemonic.length)).foldl max 0 : Nat)
    numInstructions := some (instructions.length : Nat)
    numFunctions := some (functions.length : Nat)
    numBasicBlocks := some (blocks.length : Nat)
    numEdges := some ((functions.map (·.branches.length)).foldr (· + ·) 0 : Nat) }

/-- The metadata record, with another address space if one is asked for. -/
def metadata (program : Program) (addressSpace : Option Int) : Meta :=
  { program.counts with
    inputBinary := some program.name
    inputHash := some program.inputHash
    addressSpace := some (addressSpace.getD program.addressSpace)
    architecture := some program.architecture }

end Program

end CodeGraph.Disassembly
