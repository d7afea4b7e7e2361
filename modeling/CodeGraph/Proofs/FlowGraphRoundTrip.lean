import CodeGraph.Proofs.FlowGraphParsing
import Mathlib

/-!
# Flow graphs survive writing and reading

Runs and raw text of operands share one field, so reading returns a canonical
choice between the two; everything else comes back as it was written.  The
canonical record is stored in the same bytes.
-/

namespace CodeGraph

/-! ## Canonical operands -/

/-- The operand pair that reading returns: runs if there are any, or else runs
split off the raw text, or else the raw text. -/
def canonicalOperands : Option (List Markup.Run) → Option String →
    Option (List Markup.Run) × Option String
  | some runs, _ => (some runs, none)
  | none, none => (none, none)
  | none, some text =>
      match Markup.decode text with
      | .ok runs => (some runs, none)
      | .error _ => (none, some text)

def Instruction.canonical (instruction : Instruction) : Instruction :=
  let pair := canonicalOperands instruction.operands instruction.rawOperands
  { instruction with operands := pair.1, rawOperands := pair.2 }

def BasicBlock.canonical (block : BasicBlock) : BasicBlock :=
  { block with instructions := block.instructions.map Instruction.canonical }

def FlowGraph.canonical (graph : FlowGraph) : FlowGraph :=
  { graph with blocks := graph.blocks.map BasicBlock.canonical }

/-! ## Operands that come back -/

/-- Reading returns the operands as they were: there is no raw text, or lenient
reading meets nothing but raw text that cannot be split. -/
def Instruction.KeepsOperands (strict : Bool) (instruction : Instruction) : Prop :=
  instruction.rawOperands = none ∨
    strict = false ∧ instruction.operands = none ∧
      ∃ text error, instruction.rawOperands = some text ∧ Markup.decode text = .error error

def FlowGraph.KeepsOperands (strict : Bool) (graph : FlowGraph) : Prop :=
  ∀ block ∈ graph.blocks, ∀ instruction ∈ block.instructions, instruction.KeepsOperands strict

theorem Instruction.canonical_of_keepsOperands {strict : Bool} {instruction : Instruction}
    (keeps : instruction.KeepsOperands strict) : instruction.canonical = instruction := by
  have pair : canonicalOperands instruction.operands instruction.rawOperands =
      (instruction.operands, instruction.rawOperands) := by
    rcases keeps with noRaw | ⟨_, noRuns, text, error, raw, split⟩
    · rw [noRaw]
      cases instruction.operands with
      | none => rfl
      | some runs => rfl
    · rw [noRuns, raw, canonicalOperands, split]
  unfold canonical
  rw [pair]

theorem FlowGraph.canonical_of_keepsOperands {strict : Bool} {graph : FlowGraph}
    (keeps : graph.KeepsOperands strict) : graph.canonical = graph := by
  have blocks : graph.blocks.map BasicBlock.canonical = graph.blocks := by
    apply Sequencing.map_eq_self_of_forall
    intro block member
    have instructions : block.instructions.map Instruction.canonical = block.instructions := by
      apply Sequencing.map_eq_self_of_forall
      intro instruction found
      exact Instruction.canonical_of_keepsOperands (keeps block member instruction found)
    unfold BasicBlock.canonical
    rw [instructions]
  unfold canonical
  rw [blocks]

namespace Codec

open Sequencing
open Wire (Field)

/-! ## Successful readings -/

/-- A reading gives a value whatever warnings were given before. -/
def Yields {α : Type} (reading : Reading α) (value : α) : Prop :=
  ∀ warnings, (reading.run.run warnings).1 = .ok value

theorem yields_pure {α : Type} (value : α) : Yields (pure value) value := by
  intro warnings
  rfl

theorem yields_bind {α β : Type} {first : Reading α} {next : α → Reading β} {value : α}
    {result : β} (firstYields : Yields first value) (nextYields : Yields (next value) result) :
    Yields (first >>= next) result := by
  intro warnings
  cases outcome : first.run.run warnings with
  | mk given after =>
      have succeeded : given = .ok value := by simpa [outcome] using firstYields warnings
      have continued := nextYields after
      subst succeeded
      simp only [ExceptT.run_bind, StateT.run_bind, outcome]
      exact continued

theorem yields_lift {α : Type} {checked : Except DecodeError α} {value : α}
    (succeeded : checked = .ok value) : Yields (liftM checked) value := by
  intro warnings
  rw [succeeded]
  rfl

theorem yields_mapM {α β : Type} {step : α → Reading β} {value : α → β} {items : List α}
    (all : ∀ item ∈ items, Yields (step item) (value item)) :
    Yields (items.mapM step) (items.map value) := by
  induction items with
  | nil => exact yields_pure []
  | cons item items induction =>
      obtain ⟨head, tail⟩ := List.forall_mem_cons.mp all
      rw [List.mapM_cons]
      exact yields_bind head (yields_bind (induction tail) (yields_pure _))

/-! ## Comments and branches -/

theorem commentOfFields_layout {comment : Comment} (valid : comment.Valid) :
    commentOfFields (commentLayout comment) = .ok comment := by
  have small := Comment.word_lt valid
  have flags : Wire.word32? 2 (commentLayout comment) = some comment.word := by
    simp [Wire.word32?, word64?_eq, commentLayout, Nat.mod_eq_of_lt small]
  have text : Wire.bytes? 1 (commentLayout comment) = some (Utf8.encode comment.text) := by
    simp [bytes?_eq, commentLayout]
  have repeatable : 0 ≤ comment.repeatable := by
    have bounds := valid.repeatable
    omega
  unfold commentOfFields
  rw [flags, text]
  simp only [Option.getD_some, readText_encode, Comment.unpackFlags_word valid,
    Comment.reservedBits_word valid, Int.toNat_of_nonneg repeatable,
    Int.toNat_of_nonneg valid.kind.1, Int.toNat_of_nonneg valid.operand.1]
  rfl

theorem branchOfFields_layout {edge : FlowGraph.Edge} (encodable : EncodableBranch edge) :
    branchOfFields (branchLayout edge) = edge := by
  have source : word 1 (branchLayout edge) = edge.source.toNat := by
    simp [word, word64?_eq, branchLayout]
  have target : word 2 (branchLayout edge) = edge.target.toNat := by
    simp [word, word64?_eq, branchLayout]
  have kind : Wire.enumerator? isBranchKind 3 (branchLayout edge) = some edge.kind := by
    have stored : numbersOf 3 (branchLayout edge) = [edge.kind.toNat] := by
      simp [branchLayout]
    have bounds := encodable.kind
    exact enumerator?_of_numbersOf stored (by omega) (by omega) (isBranchKind_iff.mpr bounds)
  unfold branchOfFields
  rw [source, target, kind, toNat_of_fits encodable.source, toNat_of_fits encodable.target]
  rfl

/-! ## Operands -/

/-- Raw text is kept only where reading is lenient. -/
def RawAllowed (strict : Bool) (raw : Option String) : Prop :=
  strict = true → raw = none

theorem splitOperands_encode (text : String) :
    splitOperands (Utf8.encode text) = Markup.decode text := by
  rw [splitOperands, Utf8.decode_encode]

theorem readOperands_stored {strict : Bool} {instruction : Instruction} (address : Nat)
    (encodable : EncodableInstruction instruction)
    (allowed : RawAllowed strict instruction.canonical.rawOperands) :
    ∃ operands, Yields
        (readOperands strict address (instruction.operandText.map Utf8.encode)) operands ∧
      operands.runs? = instruction.canonical.operands ∧
        operands.raw? = instruction.canonical.rawOperands := by
  unfold Instruction.canonical at allowed ⊢
  unfold Instruction.operandText
  cases present : instruction.operands with
  | some runs =>
      have formed := encodable.operands runs present
      refine ⟨.runs runs, ?_, rfl, rfl⟩
      simp only [Option.map_some, readOperands, splitOperands_encode,
        Markup.decode_flatten formed]
      exact yields_pure _
  | none =>
      cases raw : instruction.rawOperands with
      | none =>
          refine ⟨.absent, ?_, rfl, rfl⟩
          exact yields_pure _
      | some text =>
          cases split : Markup.decode text with
          | ok runs =>
              refine ⟨.runs runs, ?_, ?_, ?_⟩
              · simp only [Option.map_some, readOperands, splitOperands_encode, split]
                exact yields_pure _
              · simp [canonicalOperands, split, Operands.runs?]
              · simp [canonicalOperands, split, Operands.raw?]
          | error error =>
              have lenient : strict = false := by
                cases strict with
                | false => rfl
                | true =>
                    have kept := allowed rfl
                    simp [present, raw, canonicalOperands, split] at kept
              refine ⟨.raw text, ?_, ?_, ?_⟩
              · simp only [Option.map_some, readOperands, splitOperands_encode, split, lenient,
                  Utf8.decodeCharsLossy_encode, String.ofList_toList]
                intro warnings
                rfl
              · simp [canonicalOperands, split, Operands.runs?]
              · simp [canonicalOperands, split, Operands.raw?]

/-! ## Reading -/

theorem instructionOfMessage_yields {strict : Bool} {instruction : Instruction}
    (encodable : EncodableInstruction instruction)
    (allowed : RawAllowed strict instruction.canonical.rawOperands) :
    Yields (instructionOfMessage strict (instructionMessage instruction))
      instruction.canonical := by
  have address : word 1 (instructionLayout instruction) = instruction.address.toNat := by
    simp [word, word64?_eq, instructionLayout]
  have prime : word32 2 (instructionLayout instruction) = instruction.prime.toNat := by
    simp [word32, Wire.word32?, word64?_eq, instructionLayout,
      toNat_mod_of_fits encodable.prime]
  have stringReference : word32 3 (instructionLayout instruction) =
      instruction.stringReference.toNat := by
    by_cases zero : instruction.stringReference = 0
    · simp [word32, Wire.word32?, word64?_eq, instructionLayout, zero]
    · simp [word32, Wire.word32?, word64?_eq, instructionLayout, zero,
        toNat_mod_of_fits encodable.stringReference]
  have mnemonicBytes : Wire.bytes? 4 (instructionLayout instruction) =
      instruction.mnemonic.map Utf8.encode := by
    simp [bytes?_eq, instructionLayout, getLast?_toList]
  have operandBytes : Wire.bytes? 5 (instructionLayout instruction) =
      instruction.operandText.map Utf8.encode := by
    simp [bytes?_eq, instructionLayout, getLast?_toList]
  have rawBytes : Wire.bytes? 6 (instructionLayout instruction) = instruction.rawBytes := by
    simp [bytes?_eq, instructionLayout, getLast?_toList]
  have callTargets : (instruction.callTargets.map Int.toNat).map Int.ofNat =
      instruction.callTargets := by
    rw [List.map_map]
    apply map_eq_self_of_forall
    intro target member
    exact toNat_of_fits (encodable.callTargets target member)
  have comments : (instruction.comments.map commentLayout).mapM commentOfFields =
      .ok instruction.comments := by
    have each : ∀ comment ∈ instruction.comments,
        (commentOfFields ∘ commentLayout) comment = .ok (id comment) :=
      fun comment member => commentOfFields_layout (encodable.comments comment member)
    rw [List.mapM_map, mapM_eq_ok_of_forall each, List.map_id]
  obtain ⟨operands, operandsYield, runs, raw⟩ :=
    readOperands_stored instruction.address.toNat encodable allowed
  unfold instructionOfMessage
  simp only [instructionMessage, address, operandBytes]
  apply yields_bind operandsYield
  rw [mnemonicBytes]
  apply yields_bind (yields_lift (readOptionalText_encode "mnemonic" instruction.mnemonic))
  apply yields_bind (yields_lift comments)
  rw [prime, stringReference, rawBytes, callTargets, runs, raw,
    toNat_of_fits encodable.address, toNat_of_fits encodable.prime,
    toNat_of_fits encodable.stringReference]
  exact yields_pure _

theorem blockOfMessage_yields {strict : Bool} {block : BasicBlock} (address position : Nat)
    (encodable : EncodableBlock block) (nonempty : block.instructions ≠ [])
    (allowed : ∀ instruction ∈ block.instructions,
      RawAllowed strict instruction.canonical.rawOperands) :
    Yields (blockOfMessage strict address position (blockMessage block)) block.canonical := by
  have prime : word 1 (blockLayout block) = block.prime.toNat := by
    simp [word, word64?_eq, blockLayout]
  have full : (block.instructions.map instructionMessage).isEmpty = false := by
    simpa using nonempty
  have instructions : Yields
      ((block.instructions.map instructionMessage).mapM (instructionOfMessage strict))
        (block.instructions.map Instruction.canonical) := by
    rw [List.mapM_map]
    apply yields_mapM
    intro instruction member
    exact instructionOfMessage_yields (encodable.instructions instruction member)
      (allowed instruction member)
  unfold blockOfMessage
  simp only [blockMessage, full, prime]
  apply yields_bind instructions
  rw [toNat_of_fits encodable.prime]
  exact yields_pure _

theorem flowGraphOfMessage_yields {strict : Bool} {graph : FlowGraph}
    (encodable : EncodableFlowGraph graph)
    (allowed : ∀ block ∈ graph.blocks, ∀ instruction ∈ block.instructions,
      RawAllowed strict instruction.canonical.rawOperands) :
    Yields (flowGraphOfMessage strict (flowGraphMessage graph)) graph.canonical := by
  have address : word 1 (flowGraphLayout graph) = graph.address.toNat := by
    simp [word, word64?_eq, flowGraphLayout]
  have full : (graph.blocks.map blockMessage).isEmpty = false := by
    simpa using encodable.blocks_ne_nil
  have blocks : Yields
      ((graph.blocks.map blockMessage).zipIdx.mapM fun item =>
        blockOfMessage strict graph.address.toNat item.2 item.1)
      (graph.blocks.map BasicBlock.canonical) := by
    have values : graph.blocks.map BasicBlock.canonical =
        graph.blocks.zipIdx.map fun item => item.1.canonical := by
      rw [← List.zipIdx_map_fst 0 graph.blocks, List.map_map, List.zipIdx_map_fst]
      rfl
    rw [values, List.zipIdx_map, List.mapM_map]
    apply yields_mapM
    intro item member
    have found := List.fst_mem_of_mem_zipIdx member
    exact blockOfMessage_yields _ _ (encodable.blocks item.1 found)
      (encodable.instructions_ne_nil item.1 found) (allowed item.1 found)
  have edges : (graph.edges.map branchLayout).map branchOfFields = graph.edges := by
    rw [List.map_map]
    apply map_eq_self_of_forall
    intro edge member
    exact branchOfFields_layout (encodable.edges edge member)
  unfold flowGraphOfMessage
  simp only [flowGraphMessage, full, address]
  apply yields_bind blocks
  rw [edges, toNat_of_fits encodable.address]
  exact yields_pure _

/-- A written flow graph is read as its canonical form; strict reading needs
that no raw text is left in it. -/
theorem decodeFlowGraph_of_encoded {strict : Bool} {graph : FlowGraph} {payload : Bytes}
    (encoded : encodeFlowGraph graph = .ok payload)
    (within : RecordWithinLimit (flowGraphFields graph))
    (allowed : ∀ block ∈ graph.blocks, ∀ instruction ∈ block.instructions,
      RawAllowed strict instruction.canonical.rawOperands) :
    (decodeFlowGraph strict payload).1 = .ok graph.canonical := by
  obtain ⟨encodable, rfl⟩ := encodeFlowGraph_eq_ok_iff.mp encoded
  have stored := (flowGraphFields_eq_ok_iff graph _).mpr
    ⟨⟨encodable.address, encodable.blocks, encodable.edges⟩, rfl⟩
  unfold decodeFlowGraph
  rw [parseFlowGraph_layout encodable (within _ stored)]
  simp only [missing_flowGraphMessage, List.isEmpty_nil, if_true]
  exact flowGraphOfMessage_yields encodable allowed []

/-- Lenient reading accepts raw text. -/
theorem decodeFlowGraph_lenient {graph : FlowGraph} {payload : Bytes}
    (encoded : encodeFlowGraph graph = .ok payload)
    (within : RecordWithinLimit (flowGraphFields graph)) :
    (decodeFlowGraph false payload).1 = .ok graph.canonical := by
  apply decodeFlowGraph_of_encoded encoded within
  intro _ _ _ _ impossible
  cases impossible

/-- Records that keep their operands come back as they were. -/
theorem decodeFlowGraph_of_keepsOperands {strict : Bool} {graph : FlowGraph} {payload : Bytes}
    (encoded : encodeFlowGraph graph = .ok payload)
    (within : RecordWithinLimit (flowGraphFields graph)) (keeps : graph.KeepsOperands strict) :
    (decodeFlowGraph strict payload).1 = .ok graph := by
  have allowed : ∀ block ∈ graph.blocks, ∀ instruction ∈ block.instructions,
      RawAllowed strict instruction.canonical.rawOperands := by
    intro block member instruction found
    have kept := keeps block member instruction found
    rw [Instruction.canonical_of_keepsOperands kept]
    intro strictly
    rcases kept with noRaw | ⟨lenient, _⟩
    · exact noRaw
    · rw [lenient] at strictly
      cases strictly
  rw [decodeFlowGraph_of_encoded encoded within allowed,
    FlowGraph.canonical_of_keepsOperands keeps]

/-! ## Canonical records are stored alike -/

theorem operandText_canonical (instruction : Instruction) :
    instruction.canonical.operandText = instruction.operandText := by
  unfold Instruction.canonical Instruction.operandText
  cases present : instruction.operands with
  | some runs => rfl
  | none =>
      cases raw : instruction.rawOperands with
      | none => rfl
      | some text =>
          cases split : Markup.decode text with
          | error error => simp [canonicalOperands, split]
          | ok runs =>
              have same := (Markup.wellFormed_of_decode split).2
              simp [canonicalOperands, split, same]

theorem wellFormed_canonical_operands {instruction : Instruction}
    (formed : ∀ runs, instruction.operands = some runs → Markup.WellFormed runs) :
    ∀ runs, instruction.canonical.operands = some runs → Markup.WellFormed runs := by
  intro runs found
  unfold Instruction.canonical at found
  cases present : instruction.operands with
  | some written =>
      simp only [present, canonicalOperands, Option.some.injEq] at found
      subst found
      exact formed written present
  | none =>
      cases raw : instruction.rawOperands with
      | none => simp [present, raw, canonicalOperands] at found
      | some text =>
          cases split : Markup.decode text with
          | error error => simp [present, raw, canonicalOperands, split] at found
          | ok written =>
              simp only [present, raw, canonicalOperands, split, Option.some.injEq] at found
              subst found
              exact (Markup.wellFormed_of_decode split).1

theorem instructionLayout_canonical (instruction : Instruction) :
    instructionLayout instruction.canonical = instructionLayout instruction := by
  have operands := operandText_canonical instruction
  unfold instructionLayout
  rw [operands]
  rfl

theorem blockLayout_canonical (block : BasicBlock) :
    blockLayout block.canonical = blockLayout block := by
  simp [blockLayout, BasicBlock.canonical, Function.comp_def, instructionLayout_canonical]

theorem flowGraphLayout_canonical (graph : FlowGraph) :
    flowGraphLayout graph.canonical = flowGraphLayout graph := by
  simp [flowGraphLayout, FlowGraph.canonical, Function.comp_def, blockLayout_canonical]

theorem encodableFlowGraph_canonical {graph : FlowGraph} (encodable : EncodableFlowGraph graph) :
    EncodableFlowGraph graph.canonical := by
  have blocks : ∀ block ∈ graph.blocks, EncodableBlock block.canonical := by
    intro block member
    have original := encodable.blocks block member
    refine ⟨original.prime, ?_⟩
    intro instruction found
    obtain ⟨written, inside, rfl⟩ := List.mem_map.mp found
    have accepted := original.instructions written inside
    exact ⟨accepted.address, accepted.prime, accepted.stringReference,
      wellFormed_canonical_operands accepted.operands, accepted.callTargets, accepted.comments⟩
  refine ⟨encodable.address, ?_, ?_, ?_, encodable.edges⟩
  · simpa [FlowGraph.canonical] using encodable.blocks_ne_nil
  · intro block member
    obtain ⟨written, inside, rfl⟩ := List.mem_map.mp member
    simpa [BasicBlock.canonical] using encodable.instructions_ne_nil written inside
  · intro block member
    obtain ⟨written, inside, rfl⟩ := List.mem_map.mp member
    exact blocks written inside

theorem encodeFlowGraph_canonical {graph : FlowGraph} {payload : Bytes}
    (encoded : encodeFlowGraph graph = .ok payload) :
    encodeFlowGraph graph.canonical = .ok payload := by
  obtain ⟨encodable, rfl⟩ := encodeFlowGraph_eq_ok_iff.mp encoded
  apply encodeFlowGraph_eq_ok_iff.mpr
  exact ⟨encodableFlowGraph_canonical encodable, by rw [flowGraphLayout_canonical]⟩

/-- Lenient reading gives the canonical form of a written flow graph back, and
writing that again gives the same bytes. -/
theorem flowGraph_roundTrip (graph : FlowGraph) (payload : Bytes)
    (encoded : encodeFlowGraph graph = .ok payload)
    (within : RecordWithinLimit (flowGraphFields graph)) :
    (decodeFlowGraph false payload).1 = .ok graph.canonical ∧
      encodeFlowGraph graph.canonical = .ok payload :=
  ⟨decodeFlowGraph_lenient encoded within, encodeFlowGraph_canonical encoded⟩

/-- Two instructions without runs: the text of the first has an unknown marker,
that of the second can be split. -/
def mixedFlowGraph : FlowGraph where
  address := 0x1004
  blocks := [{
    prime := 7
    instructions := [
      { address := 0x1000, prime := 3, mnemonic := some "", rawOperands := some "\x1beax",
        comments := [{ text := "é", repeatable := 1, kind := 7, operand := 2, reserved := 0x10 }] },
      { address := 0x1004, prime := 4, rawOperands := some "\x05eax",
        callTargets := [0, 0xFFFFFFFFFFFFFFFF] }] }]
  edges := [⟨0x1004, 0x1000, 4⟩]

theorem encodable_mixedFlowGraph : EncodableFlowGraph mixedFlowGraph := by
  have comment : Comment.Valid
      { text := "é", repeatable := 1, kind := 7, operand := 2, reserved := 0x10 } :=
    ⟨by decide, by decide, by decide, by decide⟩
  have blocks : ∀ block ∈ mixedFlowGraph.blocks, EncodableBlock block := by
    intro block member
    obtain rfl := List.mem_singleton.mp member
    refine ⟨by norm_num [Fits], ?_⟩
    simp only [List.forall_mem_cons]
    refine ⟨?_, ?_, by simp⟩
    · constructor <;> simp [Fits, comment]
    · constructor <;> simp [Fits]
  have edges : ∀ edge ∈ mixedFlowGraph.edges, EncodableBranch edge := by
    intro edge member
    obtain rfl := List.mem_singleton.mp member
    constructor <;> simp [Fits]
  exact ⟨by norm_num [Fits, mixedFlowGraph], by simp [mixedFlowGraph],
    by simp [mixedFlowGraph], blocks, edges⟩

/-- The text that can be split comes back as runs, the other one as it was. -/
theorem mixedFlowGraph_roundTrip :
    ∃ payload, encodeFlowGraph mixedFlowGraph = .ok payload ∧
      RecordWithinLimit (flowGraphFields mixedFlowGraph) ∧
        (decodeFlowGraph false payload).1 = .ok mixedFlowGraph.canonical ∧
          encodeFlowGraph mixedFlowGraph.canonical = .ok payload := by
  have encoded := encodeFlowGraph_eq_ok_iff.mpr ⟨encodable_mixedFlowGraph, rfl⟩
  have length : (Wire.encodeFields (flowGraphLayout mixedFlowGraph)).length = 68 := by
    cbv
  have within := recordWithinLimit_of_encoded encoded (by omega)
  exact ⟨_, encoded, within, flowGraph_roundTrip mixedFlowGraph _ encoded within⟩
end Codec

end CodeGraph
