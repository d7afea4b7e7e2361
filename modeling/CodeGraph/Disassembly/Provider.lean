import CodeGraph.Disassembly.Records

/-!
# Records of what a disassembler answers

A disassembler is asked for its functions, and then for the blocks and the
branches of one function at a time.  The number of flow graphs, the metadata,
the call graph and the flow graphs are made in passes of their own, and each
pass asks again.
-/

namespace CodeGraph.Disassembly

/-- A disassembler that gives the same answer whenever it is asked.  Functions
are known to it by handles. -/
structure Provider (α : Type) where
  functions : List α
  /-- What a function is.  Its blocks and branches are asked for apart. -/
  describe : α → Function
  blocks : α → List Block
  branches : α → List FlowGraph.Edge
  calls : List CallGraph.Edge

/-- Counters over functions with a flow graph. -/
structure Tally where
  functions : Nat := 0
  blocks : Nat := 0
  instructions : Nat := 0
  edges : Nat := 0
  longestMnemonic : Nat := 0
  deriving DecidableEq, Repr

namespace Tally

def addBlock (tally : Tally) (block : Block) : Tally :=
  { tally with
    blocks := tally.blocks + 1
    instructions := tally.instructions + block.instructions.length
    longestMnemonic := block.instructions.foldl
      (fun longest insn => max longest insn.mnemonic.length) tally.longestMnemonic }

def addFunction (tally : Tally) (function : Function) : Tally :=
  let counted := function.blocks.foldl addBlock { tally with functions := tally.functions + 1 }
  { counted with edges := counted.edges + function.branches.length }

end Tally

namespace Provider

variable {α : Type} (provider : Provider α)

/-- Everything that the disassembler answers about a function. -/
def function (handle : α) : Function :=
  { provider.describe handle with
    blocks := provider.blocks handle, branches := provider.branches handle }

def address (handle : α) : Int :=
  (provider.describe handle).address

/-- The functions by ascending address. -/
def sortedFunctions : List α :=
  provider.functions.mergeSort fun left right => provider.address left ≤ provider.address right

/-- The functions that have a flow graph, by ascending address. -/
def exported : List α :=
  provider.sortedFunctions.filter fun handle => (provider.function handle).isExported

def flowGraphCount : Nat :=
  provider.exported.length

/-- The counters after a pass over the exported functions, in which the blocks
of a function are taken as they are listed. -/
def tally : Tally :=
  (provider.exported.map provider.function).foldl Tally.addFunction {}

/-- The metadata record, with what else is known of the binary. -/
def metadata (inputBinary : Option String) (inputHash : Option Bytes) (addressSpace : Option Int)
    (architecture : Option String) : Meta where
  inputBinary := inputBinary
  inputHash := inputHash
  addressSpace := addressSpace
  architecture := architecture
  maxMnemonicLength := some (provider.tally.longestMnemonic : Int)
  numInstructions := some (provider.tally.instructions : Int)
  numFunctions := some (provider.tally.functions : Int)
  numBasicBlocks := some (provider.tally.blocks : Int)
  numEdges := some (provider.tally.edges : Int)

def callGraph : CallGraph where
  vertices := provider.sortedFunctions.map fun handle => (provider.function handle).vertex
  edges := provider.calls

/-- The flow graphs in the order in which they are written. -/
def flowGraphs : List FlowGraph :=
  provider.exported.map fun handle => (provider.function handle).flowGraph

end Provider

/-- The disassembler that knows one program. -/
def Program.provider (program : Program) : Provider Function where
  functions := program.functions
  describe := fun function => function
  blocks := (·.blocks)
  branches := (·.branches)
  calls := program.calls

end CodeGraph.Disassembly
