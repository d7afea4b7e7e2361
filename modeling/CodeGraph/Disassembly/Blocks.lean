import CodeGraph.Disassembly.Machine
import CodeGraph.Disassembly.OperandText
import CodeGraph.Disassembly.Program

/-!
# Basic blocks of a function

A function's instructions are cut where a jump leads and behind every
instruction that does not simply run on.  The blocks hold all instructions in
order, and the branches lead from block to block.
-/

namespace CodeGraph.Disassembly

/-- Instructions behind which nothing runs, although they neither jump nor
return. -/
def terminators : List String := ["hlt", "ud2"]

namespace DecodedInsn

/-- Control does not reach the next instruction on its own. -/
def stops (insn : DecodedInsn) : Bool :=
  insn.isReturn || terminators.contains insn.mnemonic

/-- A block ends behind the instruction. -/
def endsBlock (insn : DecodedInsn) : Bool :=
  insn.isJump || insn.stops

/-- A jump that is not taken runs on. -/
def isConditional (insn : DecodedInsn) : Bool :=
  !(["jmp", "ljmp"].contains insn.mnemonic)

end DecodedInsn

/-- The addresses that jumps among the instructions lead to, where an
instruction starts. -/
def jumpTargets (insns : List DecodedInsn) : List Int :=
  let starts := insns.map (·.address)
  (insns.filter (·.isJump)).filterMap fun insn =>
    insn.directTarget?.filter starts.contains

/-- The addresses of the instructions behind the end of a block. -/
def successorStarts : List DecodedInsn → List Int
  | first :: second :: rest =>
      (if first.endsBlock then [second.address] else []) ++ successorStarts (second :: rest)
  | _ => []

/-- The addresses at which a block starts. -/
def leaders (entry : Int) (insns : List DecodedInsn) : List Int :=
  entry :: (jumpTargets insns ++ successorStarts insns)

/-- Cuts instructions before every leader. -/
def cutAt (leaders : List Int) : List DecodedInsn → List (List DecodedInsn)
  | [] => []
  | insn :: rest =>
      match cutAt leaders rest with
      | (next :: block) :: blocks =>
          if leaders.contains next.address then [insn] :: (next :: block) :: blocks
          else (insn :: next :: block) :: blocks
      | blocks => [insn] :: blocks

/-- A function's code in blocks, with its branches and direct calls. -/
structure Body where
  blocks : List Block := []
  branches : List FlowGraph.Edge := []
  /-- The addresses of direct calls, each with its target. -/
  callSites : List (Int × Int) := []
  deriving DecidableEq, Repr, Inhabited

/-- The address of the first instruction. -/
def headAddress (block : List DecodedInsn) : Option Int :=
  block.head?.map (·.address)

/-- The branches of a block that starts at an address, ends with the given
instruction and is followed by the block at `next`, in a function whose code
ends at `finish`. -/
def blockBranches (starts : List Int) (entry finish address : Int) (last : DecodedInsn)
    (next : Option Int) : List FlowGraph.Edge :=
  if last.isJump then
    let taken := match last.directTarget? with
      | some target =>
          if starts.contains target ∧ entry ≤ target ∧ target < finish then
            let kind : BranchKind := if last.isConditional then .conditionTrue else .unconditional
            [⟨address, target, kind.code⟩]
          else []
      | none => []
    let notTaken := match next with
      | some target =>
          if last.isConditional then [⟨address, target, BranchKind.conditionFalse.code⟩] else []
      | none => []
    taken ++ notTaken
  else if last.stops then []
  else
    match next with
    | some target => [⟨address, target, BranchKind.unconditional.code⟩]
    | none => []

/-- The branches of all blocks. -/
def branchesOf (starts : List Int) (entry finish : Int) :
    List (List DecodedInsn) → List FlowGraph.Edge
  | [] => []
  | block :: rest =>
      let next := rest.head?.bind headAddress
      let own := match headAddress block, block.getLast? with
        | some address, some last => blockBranches starts entry finish address last next
        | _, _ => []
      own ++ branchesOf starts entry finish rest

/-- The target of a direct call. -/
def callTarget? (insn : DecodedInsn) : Option Int :=
  if insn.isCall then insn.directTarget? else none

/-- What is reported of an instruction.  `strings` gives the string at an
address. -/
def reportInsn (labels functions : List Int) (strings : Int → Option Bytes)
    (insn : DecodedInsn) : Insn where
  address := insn.address
  mnemonic := insn.mnemonic
  rawBytes := insn.bytes
  operands :=
    operandRuns { registers := insn.registers, jumpLabels := labels, functions } insn.operandText
  stringData := insn.relativeAddress?.bind strings
  callTargets := (callTarget? insn).toList

/-- Cuts the code of a function at an address into blocks.  `functions` are the
addresses of known functions. -/
def functionBody (decode : Decoder) (code : Bytes) (entry : Int) (functions : List Int)
    (strings : Int → Option Bytes) : Body :=
  let insns := decode code entry
  let groups := cutAt (leaders entry insns) insns
  let starts := groups.filterMap headAddress
  { blocks := groups.filterMap fun group =>
      (headAddress group).map fun address =>
        { address, instructions := group.map (reportInsn starts functions strings) }
    branches := branchesOf starts entry (entry + code.length) groups
    callSites := insns.filterMap fun insn => (callTarget? insn).map (insn.address, ·) }

/-- All numbers in the operands of instructions can be read. -/
def checkOperands (insns : List DecodedInsn) : Except Numeral.IntegerFault Unit :=
  insns.forM fun insn => OperandText.checkNumbers insn.registers insn.operandText

/-- Cuts the code of a function into blocks, if the numbers in its operands can be
read. -/
def readBody (decode : Decoder) (code : Bytes) (entry : Int) (functions : List Int)
    (strings : Int → Option Bytes) : Except Numeral.IntegerFault Body := do
  checkOperands (decode code entry)
  return functionBody decode code entry functions strings

end CodeGraph.Disassembly
