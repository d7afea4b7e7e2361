import CodeGraph.Proofs.CommentFlags
import CodeGraph.Proofs.FieldValues
import CodeGraph.Proofs.MarkupRoundTrip
import Mathlib

/-!
# The stored form of a flow graph

The fields of a comment, instruction, block, branch and flow graph as total
functions of the record, and the conditions under which the writer accepts the
record.  The writer succeeds exactly on encodable records, and then it stores
these fields.
-/

namespace CodeGraph

/-- The operand text that is stored for an instruction. -/
def Instruction.operandText (instruction : Instruction) : Option String :=
  match instruction.operands with
  | some runs => some (Markup.flatten runs)
  | none => instruction.rawOperands

namespace Codec

open Sequencing
open Wire (Field)

/-! ## Fields -/

def commentLayout (comment : Comment) : List Field :=
  [textField 1 comment.text, numberField 2 comment.word]

/-- A string reference of zero has no field. -/
def stringReferenceLayout (stringReference : Int) : List Field :=
  if stringReference = 0 then [] else [numberField 3 stringReference]

@[simp] theorem numbersOf_stringReferenceLayout (number : Nat) (stringReference : Int) :
    numbersOf number (stringReferenceLayout stringReference) =
      if number = 3 ∧ stringReference ≠ 0 then [stringReference.toNat] else [] := by
  unfold stringReferenceLayout
  by_cases zero : stringReference = 0
  · simp [zero]
  · simp [zero, eq_comm]

@[simp] theorem contentsOf_stringReferenceLayout (number : Nat) (stringReference : Int) :
    contentsOf number (stringReferenceLayout stringReference) = [] := by
  unfold stringReferenceLayout
  split <;> simp

def instructionLayout (instruction : Instruction) : List Field :=
  [numberField 1 instruction.address, numberField 2 instruction.prime] ++
    stringReferenceLayout instruction.stringReference ++
      optionalText 4 instruction.mnemonic ++ optionalText 5 instruction.operandText ++
        optionalBytes 6 instruction.rawBytes ++
          instruction.callTargets.map (numberField 7) ++
            instruction.comments.map fun comment => messageField 8 (commentLayout comment)

def blockLayout (block : BasicBlock) : List Field :=
  numberField 1 block.prime ::
    block.instructions.map fun instruction => messageField 2 (instructionLayout instruction)

def branchLayout (edge : FlowGraph.Edge) : List Field :=
  [numberField 1 edge.source, numberField 2 edge.target, numberField 3 edge.kind]

def flowGraphLayout (graph : FlowGraph) : List Field :=
  numberField 1 graph.address ::
    ((graph.blocks.map fun block => messageField 2 (blockLayout block)) ++
      graph.edges.map fun edge => messageField 3 (branchLayout edge))

/-! ## Encodable records -/

structure EncodableInstruction (instruction : Instruction) : Prop where
  address : Fits 64 instruction.address
  prime : Fits 32 instruction.prime
  stringReference : Fits 32 instruction.stringReference
  operands : ∀ runs, instruction.operands = some runs → Markup.WellFormed runs
  callTargets : ∀ target ∈ instruction.callTargets, Fits 64 target
  comments : ∀ comment ∈ instruction.comments, comment.Valid

structure EncodableBlock (block : BasicBlock) : Prop where
  prime : Fits 64 block.prime
  instructions : ∀ instruction ∈ block.instructions, EncodableInstruction instruction

structure EncodableBranch (edge : FlowGraph.Edge) : Prop where
  source : Fits 64 edge.source
  target : Fits 64 edge.target
  kind : 1 ≤ edge.kind ∧ edge.kind ≤ 4

structure EncodableFlowGraph (graph : FlowGraph) : Prop where
  address : Fits 64 graph.address
  blocks_ne_nil : graph.blocks ≠ []
  instructions_ne_nil : ∀ block ∈ graph.blocks, block.instructions ≠ []
  blocks : ∀ block ∈ graph.blocks, EncodableBlock block
  edges : ∀ edge ∈ graph.edges, EncodableBranch edge

/-! ## What the writer accepts -/

theorem isBranchKind_iff {code : Int} : isBranchKind code = true ↔ 1 ≤ code ∧ code ≤ 4 := by
  have member : isBranchKind code = true ↔
      1 = code ∨ 2 = code ∨ 3 = code ∨ 4 = code := by
    simp [isBranchKind, BranchKind.ofCode?, BranchKind.code]
  rw [member]
  omega

theorem commentFields_eq_ok_iff (comment : Comment) (fields : List Field) :
    commentFields comment = .ok fields ↔ comment.Valid ∧ fields = commentLayout comment := by
  unfold commentFields
  cases packed : comment.flags with
  | error error =>
      constructor
      · intro impossible
        cases impossible
      · intro described
        obtain ⟨valid, _⟩ := described
        have accepted := Comment.flags_eq_ok_iff.mpr ⟨valid, rfl⟩
        rw [packed] at accepted
        cases accepted
  | ok flags =>
      obtain ⟨valid, rfl⟩ := Comment.flags_eq_ok_iff.mp packed
      have small := Comment.word_lt valid
      have fits : Fits 32 comment.word := by
        constructor
        · omega
        · norm_num
          omega
      simp only [bind_eq_ok_iff, pure_eq_ok_iff, wordField_eq_ok_iff]
      constructor
      · intro accepted
        obtain ⟨_, ⟨_, rfl⟩, rfl⟩ := accepted
        exact ⟨valid, rfl⟩
      · intro described
        obtain ⟨_, rfl⟩ := described
        exact ⟨_, ⟨fits, rfl⟩, rfl⟩

theorem operandFields_eq_ok_iff (instruction : Instruction) (fields : List Field) :
    operandFields instruction = .ok fields ↔
      (∀ runs, instruction.operands = some runs → Markup.WellFormed runs) ∧
        fields = optionalText 5 instruction.operandText := by
  unfold operandFields Instruction.operandText
  cases present : instruction.operands with
  | none => simp [eq_comm]
  | some runs =>
      cases flattened : Markup.encode runs with
      | error error =>
          constructor
          · intro impossible
            simp only [flattened] at impossible
            cases impossible
          · intro described
            obtain ⟨formed, _⟩ := described
            have accepted := Markup.encode_eq_ok_iff.mpr ⟨formed runs rfl, rfl⟩
            rw [flattened] at accepted
            cases accepted
      | ok text =>
          obtain ⟨formed, rfl⟩ := Markup.encode_eq_ok_iff.mp flattened
          simp only [flattened, Except.ok.injEq]
          constructor
          · intro same
            subst same
            refine ⟨?_, rfl⟩
            intro others same
            cases same
            exact formed
          · intro described
            obtain ⟨_, rfl⟩ := described
            rfl

theorem stringReference_eq_ok_iff (stringReference : Int) (fields : List Field) :
    optionalWord 32 3 (if stringReference = 0 then none else some stringReference) = .ok fields ↔
      Fits 32 stringReference ∧ fields = stringReferenceLayout stringReference := by
  rw [optionalWord_eq_ok_iff]
  unfold stringReferenceLayout
  by_cases zero : stringReference = 0
  · subst zero
    have fits : Fits 32 0 := ⟨le_refl 0, by norm_num⟩
    simp [fits, optionalNumberField]
  · simp [zero, optionalNumberField]

theorem instructionFields_eq_ok_iff (instruction : Instruction) (fields : List Field) :
    instructionFields instruction = .ok fields ↔
      EncodableInstruction instruction ∧ fields = instructionLayout instruction := by
  unfold instructionFields
  simp only [bind_eq_ok_iff, pure_eq_ok_iff, wordField_eq_ok_iff, stringReference_eq_ok_iff,
    operandFields_eq_ok_iff,
    mapM_eq_ok_iff fun _ _ => wordField_eq_ok_iff,
    mapM_eq_ok_iff commentFields_eq_ok_iff]
  constructor
  · intro accepted
    obtain ⟨_, ⟨address, rfl⟩, _, ⟨prime, rfl⟩, _, ⟨stringReference, rfl⟩, _, ⟨operands, rfl⟩, _,
      ⟨callTargets, rfl⟩, _, ⟨comments, rfl⟩, rfl⟩ := accepted
    refine ⟨⟨address, prime, stringReference, operands, callTargets, comments⟩, ?_⟩
    simp [instructionLayout, Function.comp_def]
  · intro described
    obtain ⟨encodable, rfl⟩ := described
    refine ⟨_, ⟨encodable.address, rfl⟩, _, ⟨encodable.prime, rfl⟩,
      _, ⟨encodable.stringReference, rfl⟩, _, ⟨encodable.operands, rfl⟩,
      _, ⟨encodable.callTargets, rfl⟩, _, ⟨encodable.comments, rfl⟩, ?_⟩
    simp [instructionLayout, Function.comp_def]

theorem blockFields_eq_ok_iff (block : BasicBlock) (fields : List Field) :
    blockFields block = .ok fields ↔ EncodableBlock block ∧ fields = blockLayout block := by
  unfold blockFields
  simp only [bind_eq_ok_iff, pure_eq_ok_iff, wordField_eq_ok_iff,
    mapM_eq_ok_iff instructionFields_eq_ok_iff]
  constructor
  · intro accepted
    obtain ⟨_, ⟨prime, rfl⟩, _, ⟨instructions, rfl⟩, rfl⟩ := accepted
    exact ⟨⟨prime, instructions⟩, by simp [blockLayout, Function.comp_def]⟩
  · intro described
    obtain ⟨encodable, rfl⟩ := described
    exact ⟨_, ⟨encodable.prime, rfl⟩, _, ⟨encodable.instructions, rfl⟩,
      by simp [blockLayout, Function.comp_def]⟩

theorem branchFields_eq_ok_iff (edge : FlowGraph.Edge) (fields : List Field) :
    branchFields edge = .ok fields ↔ EncodableBranch edge ∧ fields = branchLayout edge := by
  have inRange : ∀ code, isBranchKind code = true → 0 ≤ code ∧ code < 0x80000000 := by
    intro code known
    have bounds := isBranchKind_iff.mp known
    omega
  unfold branchFields
  simp only [bind_eq_ok_iff, pure_eq_ok_iff, wordField_eq_ok_iff,
    enumeratorField_eq_ok_iff inRange, isBranchKind_iff]
  constructor
  · intro accepted
    obtain ⟨_, ⟨source, rfl⟩, _, ⟨target, rfl⟩, _, ⟨kind, rfl⟩, rfl⟩ := accepted
    exact ⟨⟨source, target, kind⟩, rfl⟩
  · intro described
    obtain ⟨encodable, rfl⟩ := described
    exact ⟨_, ⟨encodable.source, rfl⟩, _, ⟨encodable.target, rfl⟩, _, ⟨encodable.kind, rfl⟩, rfl⟩

theorem flowGraphFields_eq_ok_iff (graph : FlowGraph) (fields : List Field) :
    flowGraphFields graph = .ok fields ↔
      (Fits 64 graph.address ∧ (∀ block ∈ graph.blocks, EncodableBlock block) ∧
        ∀ edge ∈ graph.edges, EncodableBranch edge) ∧ fields = flowGraphLayout graph := by
  unfold flowGraphFields
  simp only [bind_eq_ok_iff, pure_eq_ok_iff, wordField_eq_ok_iff,
    mapM_eq_ok_iff blockFields_eq_ok_iff, mapM_eq_ok_iff branchFields_eq_ok_iff]
  constructor
  · intro accepted
    obtain ⟨_, ⟨address, rfl⟩, _, ⟨blocks, rfl⟩, _, ⟨edges, rfl⟩, rfl⟩ := accepted
    exact ⟨⟨address, blocks, edges⟩, by simp [flowGraphLayout, Function.comp_def]⟩
  · intro described
    obtain ⟨⟨address, blocks, edges⟩, rfl⟩ := described
    exact ⟨_, ⟨address, rfl⟩, _, ⟨blocks, rfl⟩, _, ⟨edges, rfl⟩,
      by simp [flowGraphLayout, Function.comp_def]⟩

theorem checkBlocks_eq_ok_iff (graph : FlowGraph) (done : Unit) :
    checkBlocks graph = .ok done ↔
      graph.blocks ≠ [] ∧ ∀ block ∈ graph.blocks, block.instructions ≠ [] := by
  unfold checkBlocks
  by_cases empty : graph.blocks = []
  · simp [empty]
  · have content : graph.blocks.isEmpty = false := by simpa using empty
    rw [content]
    cases found : graph.blocks.findIdx? (·.instructions.isEmpty) with
    | some position =>
        obtain ⟨bound, faulty, _⟩ := List.findIdx?_eq_some_iff_getElem.mp found
        have hollow : graph.blocks[position].instructions = [] := by simpa using faulty
        constructor
        · intro impossible
          cases impossible
        · intro described
          obtain ⟨_, full⟩ := described
          exact (full _ (List.getElem_mem bound) hollow).elim
    | none =>
        have full := List.findIdx?_eq_none_iff.mp found
        simpa [empty] using full

theorem encodeFlowGraph_eq (graph : FlowGraph) :
    encodeFlowGraph graph = checkBlocks graph >>= fun _ =>
      ((flowGraphFields graph).map Wire.encodeFields).mapError (.flowGraph graph.address) := by
  unfold encodeFlowGraph
  cases flowGraphFields graph with
  | error error => rfl
  | ok fields => rfl

/-- Exactly the encodable flow graphs are written, and then as their layout. -/
theorem encodeFlowGraph_eq_ok_iff {graph : FlowGraph} {payload : Bytes} :
    encodeFlowGraph graph = .ok payload ↔
      EncodableFlowGraph graph ∧ payload = Wire.encodeFields (flowGraphLayout graph) := by
  rw [encodeFlowGraph_eq, bind_eq_ok_iff]
  simp only [checkBlocks_eq_ok_iff]
  constructor
  · intro accepted
    obtain ⟨_, ⟨nonempty, full⟩, written⟩ := accepted
    obtain ⟨⟨address, blocks, edges⟩, rfl⟩ :=
      (encoded_eq_ok_iff (flowGraphFields_eq_ok_iff graph)).mp written
    exact ⟨⟨address, nonempty, full, blocks, edges⟩, rfl⟩
  · intro described
    obtain ⟨encodable, rfl⟩ := described
    refine ⟨(), ⟨encodable.blocks_ne_nil, encodable.instructions_ne_nil⟩, ?_⟩
    apply (encoded_eq_ok_iff (flowGraphFields_eq_ok_iff graph)).mpr
    exact ⟨⟨encodable.address, encodable.blocks, encodable.edges⟩, rfl⟩

theorem recordWithinLimit_of_encoded {graph : FlowGraph} {payload : Bytes}
    (encoded : encodeFlowGraph graph = .ok payload) (short : payload.length < 0x80000000) :
    RecordWithinLimit (flowGraphFields graph) := by
  obtain ⟨_, rfl⟩ := encodeFlowGraph_eq_ok_iff.mp encoded
  exact recordWithinLimit_of_layout (flowGraphFields_eq_ok_iff graph) (withinLimit_of_length short)

end Codec

end CodeGraph
