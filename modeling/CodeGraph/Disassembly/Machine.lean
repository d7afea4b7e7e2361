import CodeGraph.Bytes

/-!
# Decoded machine code

An instruction decoder turns bytes into instructions that follow one another
without a gap, and stops where it does not know any further.
-/

namespace CodeGraph.Disassembly

/-- An operand of an instruction. -/
inductive Operand
  | register (name : String)
  | immediate (value : Int)
  | memory (segment base index : Option String) (displacement : Int)
  deriving DecidableEq, Repr

/-- An instruction as a decoder gives it. -/
structure DecodedInsn where
  address : Int
  bytes : Bytes
  mnemonic : String
  operandText : String := ""
  isJump : Bool := false
  isCall : Bool := false
  isReturn : Bool := false
  operands : List Operand := []
  deriving DecidableEq, Repr, Inhabited

/-- Decodes code that lies at an address. -/
abbrev Decoder := Bytes → Int → List DecodedInsn

/-- The number that an operand is. -/
def Operand.immediate? : Operand → Option Int
  | .immediate value => some value
  | _ => none

/-- The first operand that is a number: where a jump or call goes directly. -/
def DecodedInsn.directTarget? (insn : DecodedInsn) : Option Int :=
  insn.operands.findSome? Operand.immediate?

/-- The registers that an operand names. -/
def Operand.registers : Operand → List String
  | .register name => [name]
  | .immediate _ => []
  | .memory segment base index _ => segment.toList ++ base.toList ++ index.toList

/-- The registers that an instruction names. -/
def DecodedInsn.registers (insn : DecodedInsn) : List String :=
  insn.operands.flatMap Operand.registers

/-- The address behind an instruction. -/
def DecodedInsn.finish (insn : DecodedInsn) : Int :=
  insn.address + insn.bytes.length

/-- The address that the second operand of an address computation refers to
relative to the instruction behind it. -/
def DecodedInsn.relativeAddress? (insn : DecodedInsn) : Option Int :=
  if insn.mnemonic = "lea" then
    match insn.operands[1]? with
    | some (Operand.memory _ (some "rip") _ displacement) => some (insn.finish + displacement)
    | _ => none
  else none

/-- What is known about the instruction at an address: all but its bytes. -/
structure TableRow where
  address : Int
  size : Nat
  insn : DecodedInsn
  deriving DecidableEq, Repr

/-- The last row of a table for an address. -/
def lookupRow (table : List TableRow) (address : Int) : Option TableRow :=
  table.reverse.find? (·.address == address)

/-- Decodes by looking each address up in a table. -/
def decodeTable (table : List TableRow) (code : Bytes) (address : Int) : List DecodedInsn :=
  match lookupRow table address with
  | none => []
  | some row =>
      if _fits : 0 < row.size ∧ row.size ≤ code.length then
        { row.insn with address, bytes := code.take row.size } ::
          decodeTable table (code.drop row.size) (address + row.size)
      else []
termination_by code.length
decreasing_by simp only [List.length_drop]; omega

end CodeGraph.Disassembly
