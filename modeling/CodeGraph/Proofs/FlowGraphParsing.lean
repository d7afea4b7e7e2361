import CodeGraph.Proofs.FlowGraphLayout
import Mathlib

/-!
# Taking a stored flow graph apart

The payload of an encodable flow graph whose fields are within the length
limit is parsed, level by level, into the messages it was made of, and none of
their required fields is missing.
-/

namespace CodeGraph.Codec

open Sequencing
open Wire (Field)

/-! ## Messages -/

def instructionMessage (instruction : Instruction) : InstructionMessage where
  fields := instructionLayout instruction
  callTargets := instruction.callTargets.map Int.toNat
  comments := instruction.comments.map commentLayout

def blockMessage (block : BasicBlock) : BlockMessage where
  fields := blockLayout block
  instructions := block.instructions.map instructionMessage

def flowGraphMessage (graph : FlowGraph) : FlowGraphMessage where
  fields := flowGraphLayout graph
  blocks := graph.blocks.map blockMessage
  edges := graph.edges.map branchLayout

theorem regular_commentLayout {comment : Comment} (valid : comment.Valid) :
    ∀ field ∈ commentLayout comment, Regular field := by
  have small := Comment.word_lt valid
  have fits : Fits 32 comment.word := by
    constructor
    · omega
    · norm_num
      omega
  simp only [commentLayout, List.forall_mem_cons]
  exact ⟨regular_bytesField _ (by decide), regular_numberField fits (by decide) (by decide),
    by simp⟩

theorem regular_instructionLayout {instruction : Instruction}
    (encodable : EncodableInstruction instruction) :
    ∀ field ∈ instructionLayout instruction, Regular field := by
  have stringReference : ∀ field ∈ stringReferenceLayout instruction.stringReference,
      Regular field := by
    unfold stringReferenceLayout
    split
    · simp
    · simpa using regular_numberField encodable.stringReference (by decide) (by decide)
  have callTargets : ∀ field ∈ instruction.callTargets.map (numberField 7), Regular field := by
    intro field member
    obtain ⟨target, found, rfl⟩ := List.mem_map.mp member
    exact regular_numberField (encodable.callTargets target found) (by decide) (by decide)
  simp only [instructionLayout, List.forall_mem_append, List.forall_mem_cons]
  exact ⟨⟨⟨⟨⟨⟨⟨regular_numberField encodable.address (by decide) (by decide),
    regular_numberField encodable.prime (by decide) (by decide), by simp⟩, stringReference⟩,
      regular_optionalText _ (by decide)⟩, regular_optionalText _ (by decide)⟩,
        regular_optionalBytes _ (by decide)⟩, callTargets⟩, regular_messages _ _ (by decide)⟩

theorem regular_blockLayout {block : BasicBlock} (encodable : EncodableBlock block) :
    ∀ field ∈ blockLayout block, Regular field := by
  simp only [blockLayout, List.forall_mem_cons]
  exact ⟨regular_numberField encodable.prime (by decide) (by decide),
    regular_messages _ _ (by decide)⟩

theorem regular_branchLayout {edge : FlowGraph.Edge} (encodable : EncodableBranch edge) :
    ∀ field ∈ branchLayout edge, Regular field := by
  have kind : Fits 32 edge.kind := by
    have bounds := encodable.kind
    constructor
    · omega
    · norm_num
      omega
  simp only [branchLayout, List.forall_mem_cons]
  exact ⟨regular_numberField encodable.source (by decide) (by decide),
    regular_numberField encodable.target (by decide) (by decide),
    regular_numberField kind (by decide) (by decide), by simp⟩

theorem regular_flowGraphLayout {graph : FlowGraph} (encodable : EncodableFlowGraph graph) :
    ∀ field ∈ flowGraphLayout graph, Regular field := by
  simp only [flowGraphLayout, List.forall_mem_cons, List.forall_mem_append]
  exact ⟨regular_numberField encodable.address (by decide) (by decide),
    regular_messages _ _ (by decide), regular_messages _ _ (by decide)⟩

theorem words?_instructionLayout (instruction : Instruction) :
    Wire.words? 7 (instructionLayout instruction) =
      some (instruction.callTargets.map Int.toNat) := by
  have before : Wire.words? 7
      ([numberField 1 instruction.address, numberField 2 instruction.prime] ++
        stringReferenceLayout instruction.stringReference ++
          optionalText 4 instruction.mnemonic ++ optionalText 5 instruction.operandText ++
            optionalBytes 6 instruction.rawBytes) = some [] := by
    apply words?_of_ne
    intro field member
    simp only [stringReferenceLayout, optionalText, optionalBytes, List.mem_append,
      List.mem_cons, List.not_mem_nil, or_false, List.mem_map] at member
    rcases member with (((((rfl | rfl) | reference) | ⟨_, _, rfl⟩) | ⟨_, _, rfl⟩) | ⟨_, _, rfl⟩)
    · simp
    · simp
    · split at reference
      · cases reference
      · simp [List.mem_singleton.mp reference]
    · simp
    · simp
    · simp
  have after : Wire.words? 7
      (instruction.comments.map fun comment => messageField 8 (commentLayout comment)) =
        some [] := by
    apply words?_of_ne
    intro field member
    obtain ⟨_, _, rfl⟩ := List.mem_map.mp member
    simp
  have targets := words?_map_numberField 7 instruction.callTargets
  have all := words?_append (words?_append before targets) after
  rw [List.append_nil, List.nil_append] at all
  exact all

theorem parseInstruction_layout {instruction : Instruction}
    (encodable : EncodableInstruction instruction)
    (within : ∀ field ∈ instructionLayout instruction, FieldWithinLimit field) :
    parseInstruction (Wire.encodeFields (instructionLayout instruction)) =
      some (instructionMessage instruction) := by
  have fields := fields?_of_regular 2 (regular_instructionLayout encodable) within
  have payloads : Wire.messages 8 (instructionLayout instruction) =
      instruction.comments.map fun comment => Wire.encodeFields (commentLayout comment) := by
    rw [messages_eq]
    simp [instructionLayout]
  have comments : (Wire.messages 8 (instructionLayout instruction)).mapM (Wire.fields? 3) =
      some (instruction.comments.map commentLayout) := by
    rw [payloads, List.mapM_map]
    apply mapM_eq_some_of_forall
    intro comment member
    have stored : messageField 8 (commentLayout comment) ∈ instructionLayout instruction :=
      List.mem_append_right _ (List.mem_map.mpr ⟨comment, member, rfl⟩)
    exact fields?_of_regular 3 (regular_commentLayout (encodable.comments comment member))
      (withinLimit_of_message (within _ stored))
  simp [parseInstruction, fields, words?_instructionLayout, comments, instructionMessage]

theorem parseBlock_layout {block : BasicBlock} (encodable : EncodableBlock block)
    (within : ∀ field ∈ blockLayout block, FieldWithinLimit field) :
    parseBlock (Wire.encodeFields (blockLayout block)) = some (blockMessage block) := by
  have fields := fields?_of_regular 1 (regular_blockLayout encodable) within
  have payloads : Wire.messages 2 (blockLayout block) =
      block.instructions.map fun instruction =>
        Wire.encodeFields (instructionLayout instruction) := by
    rw [messages_eq]
    simp [blockLayout]
  have instructions : (Wire.messages 2 (blockLayout block)).mapM parseInstruction =
      some (block.instructions.map instructionMessage) := by
    rw [payloads, List.mapM_map]
    apply mapM_eq_some_of_forall
    intro instruction member
    have stored : messageField 2 (instructionLayout instruction) ∈ blockLayout block :=
      List.mem_cons_of_mem _ (List.mem_map.mpr ⟨instruction, member, rfl⟩)
    exact parseInstruction_layout (encodable.instructions instruction member)
      (withinLimit_of_message (within _ stored))
  simp [parseBlock, fields, instructions, blockMessage]

theorem parseFlowGraph_layout {graph : FlowGraph} (encodable : EncodableFlowGraph graph)
    (within : ∀ field ∈ flowGraphLayout graph, FieldWithinLimit field) :
    parseFlowGraph (Wire.encodeFields (flowGraphLayout graph)) = some (flowGraphMessage graph) := by
  have fields := fields?_of_regular 0 (regular_flowGraphLayout encodable) within
  have blockPayloads : Wire.messages 2 (flowGraphLayout graph) =
      graph.blocks.map fun block => Wire.encodeFields (blockLayout block) := by
    rw [messages_eq]
    simp [flowGraphLayout]
  have edgePayloads : Wire.messages 3 (flowGraphLayout graph) =
      graph.edges.map fun edge => Wire.encodeFields (branchLayout edge) := by
    rw [messages_eq]
    simp [flowGraphLayout]
  have blocks : (Wire.messages 2 (flowGraphLayout graph)).mapM parseBlock =
      some (graph.blocks.map blockMessage) := by
    rw [blockPayloads, List.mapM_map]
    apply mapM_eq_some_of_forall
    intro block member
    have stored : messageField 2 (blockLayout block) ∈ flowGraphLayout graph := by
      apply List.mem_cons_of_mem
      exact List.mem_append_left _ (List.mem_map.mpr ⟨block, member, rfl⟩)
    exact parseBlock_layout (encodable.blocks block member)
      (withinLimit_of_message (within _ stored))
  have edges : (Wire.messages 3 (flowGraphLayout graph)).mapM (Wire.fields? 1) =
      some (graph.edges.map branchLayout) := by
    rw [edgePayloads, List.mapM_map]
    apply mapM_eq_some_of_forall
    intro edge member
    have stored : messageField 3 (branchLayout edge) ∈ flowGraphLayout graph := by
      apply List.mem_cons_of_mem
      exact List.mem_append_right _ (List.mem_map.mpr ⟨edge, member, rfl⟩)
    exact fields?_of_regular 1 (regular_branchLayout (encodable.edges edge member))
      (withinLimit_of_message (within _ stored))
  simp [parseFlowGraph, fields, blocks, edges, flowGraphMessage]

/-! ## Required fields -/

theorem missing_instructionMessage (path : String) (instruction : Instruction) :
    (instructionMessage instruction).missing path = [] := by
  have own : missingFields path [("address", hasWord 1), ("prime", hasWord 2)]
      (instructionLayout instruction) = [] := by
    simp [missingFields, hasWord, word64?_eq, instructionLayout]
  have comments : ∀ item ∈ (instruction.comments.map commentLayout).zipIdx,
      missingFields (elementPath path "comments" item.2)
        [("comment", hasBytes 1), ("flags", hasWord 2)] item.1 = [] := by
    intro item member
    obtain ⟨comment, _, same⟩ := List.mem_map.mp (List.fst_mem_of_mem_zipIdx member)
    rw [← same]
    simp [missingFields, hasWord, hasBytes, word64?_eq, bytes?_eq, commentLayout]
  unfold InstructionMessage.missing instructionMessage
  rw [own, List.flatMap_eq_nil_iff.mpr comments]
  rfl

theorem missing_blockMessage (path : String) (block : BasicBlock) :
    (blockMessage block).missing path = [] := by
  have own : missingFields path [("prime", hasWord 1)] (blockLayout block) = [] := by
    simp [missingFields, hasWord, word64?_eq, blockLayout]
  have instructions : ∀ item ∈ (block.instructions.map instructionMessage).zipIdx,
      item.1.missing (elementPath path "instructions" item.2) = [] := by
    intro item member
    obtain ⟨instruction, _, same⟩ := List.mem_map.mp (List.fst_mem_of_mem_zipIdx member)
    rw [← same]
    exact missing_instructionMessage _ instruction
  unfold BlockMessage.missing blockMessage
  rw [own, List.flatMap_eq_nil_iff.mpr instructions]
  rfl

theorem missing_flowGraphMessage (graph : FlowGraph) :
    (flowGraphMessage graph).missing = [] := by
  have own : missingFields "" [("address", hasWord 1)] (flowGraphLayout graph) = [] := by
    simp [missingFields, hasWord, word64?_eq, flowGraphLayout]
  have blocks : ∀ item ∈ (graph.blocks.map blockMessage).zipIdx,
      item.1.missing (elementPath "" "vertices" item.2) = [] := by
    intro item member
    obtain ⟨block, _, same⟩ := List.mem_map.mp (List.fst_mem_of_mem_zipIdx member)
    rw [← same]
    exact missing_blockMessage _ block
  have edges : ∀ item ∈ (graph.edges.map branchLayout).zipIdx,
      missingFields (elementPath "" "edges" item.2)
        [("source_address", hasWord 1), ("target_address", hasWord 2)] item.1 = [] := by
    intro item member
    obtain ⟨edge, _, same⟩ := List.mem_map.mp (List.fst_mem_of_mem_zipIdx member)
    rw [← same]
    simp [missingFields, hasWord, word64?_eq, branchLayout]
  unfold FlowGraphMessage.missing flowGraphMessage
  rw [own, List.flatMap_eq_nil_iff.mpr blocks, List.flatMap_eq_nil_iff.mpr edges]
  rfl

end CodeGraph.Codec
