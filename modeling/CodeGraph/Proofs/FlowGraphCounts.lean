import CodeGraph.Disassembly.Provider
import CodeGraph.Proofs.ProgramRecords
import Mathlib

/-!
# The metadata counts the flow graphs

The metadata is counted in a pass over the answers of a disassembler in which
blocks are not sorted, and the flow graphs are made in another one.  One step of
the first pass counts exactly the flow graph that the same step of the second one
makes, so the counts are those of all flow graphs.
-/

namespace CodeGraph

/-- The lengths of the mnemonics of a flow graph, block after block. -/
def FlowGraph.mnemonicLengths (graph : FlowGraph) : List Nat :=
  ((graph.blocks.flatMap (·.instructions)).filterMap (·.mnemonic)).map String.length

namespace Disassembly

/-! ## Counting -/

theorem isGreatest_foldl_max (start : Nat) (lengths : List Nat) :
    IsGreatest {length | length ∈ start :: lengths} (lengths.foldl max start) := by
  induction lengths generalizing start with
  | nil => simp
  | cons length rest induction =>
      obtain ⟨member, upper⟩ := induction (max start length)
      rw [List.foldl_cons]
      constructor
      · rcases List.mem_cons.mp member with reached | later
        · rw [reached]
          rcases max_choice start length with first | second
          · rw [first]
            exact List.mem_cons_self
          · rw [second]
            exact List.mem_cons_of_mem _ List.mem_cons_self
        · exact List.mem_cons_of_mem _ (List.mem_cons_of_mem _ later)
      · have least : max start length ≤ rest.foldl max (max start length) :=
          upper List.mem_cons_self
        intro other listed
        rcases List.mem_cons.mp listed with rfl | further
        · exact (le_max_left _ _).trans least
        rcases List.mem_cons.mp further with rfl | later
        · exact (le_max_right _ _).trans least
        · exact upper (List.mem_cons_of_mem _ later)

namespace Tally

theorem foldl_addBlock (tally : Tally) (blocks : List Block) :
    blocks.foldl addBlock tally =
      { tally with
        blocks := tally.blocks + blocks.length
        instructions := tally.instructions + (blocks.flatMap (·.instructions)).length
        longestMnemonic :=
          ((blocks.flatMap fun block => block.instructions.map (·.mnemonic)).map
            String.length).foldl max tally.longestMnemonic } := by
  induction blocks generalizing tally with
  | nil => rfl
  | cons block rest induction =>
      rw [List.foldl_cons, induction]
      simp [addBlock, List.foldl_map, Nat.add_assoc, Nat.add_comm 1]

/-- The counters hold the totals of flow graphs, and the length of their longest
mnemonic. -/
structure Counts (tally : Tally) (graphs : List FlowGraph) : Prop where
  functions : tally.functions = graphs.length
  blocks : tally.blocks = (graphs.map (·.blocks.length)).sum
  instructions : tally.instructions = (graphs.map (·.numInstructions)).sum
  edges : tally.edges = (graphs.map (·.edges.length)).sum
  longestMnemonic : tally.longestMnemonic = (graphs.flatMap (·.mnemonicLengths)).foldl max 0

theorem counts_nil : Counts {} [] :=
  ⟨rfl, rfl, rfl, rfl, rfl⟩

end Tally

theorem Function.mnemonicLengths_flowGraph_perm (function : Function) :
    function.flowGraph.mnemonicLengths.Perm (function.mnemonics.map String.length) := by
  have same : function.flowGraph.mnemonicLengths =
      function.arranged.mnemonics.map String.length := by
    simp [FlowGraph.mnemonicLengths, Function.mnemonics, Function.arranged, Function.flowGraph,
      Block.record, Insn.record, List.flatMap_map, List.filterMap_flatMap, List.filterMap_map]
  rw [same]
  exact function.mnemonics_arranged_perm.map String.length

namespace Tally.Counts

variable {tally : Tally} {graphs : List FlowGraph}

/-- Counting a function counts its flow graph. -/
theorem addFunction (counts : tally.Counts graphs) (function : Function) :
    (tally.addFunction function).Counts (graphs ++ [function.flowGraph]) := by
  rw [Tally.addFunction, foldl_addBlock]
  constructor
  case functions => simp [counts.functions]
  case blocks => simp [counts.blocks, function.length_blocks_flowGraph]
  case instructions => simp [counts.instructions, function.numInstructions_flowGraph]
  case edges => simp [counts.edges, Function.flowGraph]
  case longestMnemonic =>
    have reordered := function.mnemonicLengths_flowGraph_perm.foldl_eq (f := max)
      tally.longestMnemonic
    rw [List.flatMap_append, List.foldl_append, List.flatMap_singleton, ← counts.longestMnemonic,
      reordered]
    rfl

theorem foldl_addFunction (counts : tally.Counts graphs) (functions : List Function) :
    (functions.foldl Tally.addFunction tally).Counts
      (graphs ++ functions.map Function.flowGraph) := by
  induction functions generalizing tally graphs with
  | nil => simpa using counts
  | cons function rest induction =>
      have counted := induction (counts.addFunction function)
      simpa using counted

end Tally.Counts

end Disassembly

/-- The counts of a metadata record are those of flow graphs. -/
structure Meta.Describes (metadata : Meta) (graphs : List FlowGraph) : Prop where
  functions : metadata.numFunctions = some (graphs.length : Int)
  basicBlocks : metadata.numBasicBlocks = some (((graphs.map (·.blocks.length)).sum : Nat) : Int)
  instructions :
    metadata.numInstructions = some (((graphs.map (·.numInstructions)).sum : Nat) : Int)
  edges : metadata.numEdges = some (((graphs.map (·.edges.length)).sum : Nat) : Int)
  /-- The greatest length of a mnemonic, or zero where there is none. -/
  maxMnemonicLength : ∃ longest : Nat, metadata.maxMnemonicLength = some (longest : Int) ∧
    IsGreatest {length | length ∈ 0 :: graphs.flatMap (·.mnemonicLengths)} longest

namespace Disassembly

/-! ## Which flow graphs are made -/

section Sorting

variable {α : Type} {address : α → Int}

/-- Items with one address stay in the order in which they are listed. -/
theorem filter_mergeSort_address (items : List α) (place : Int) :
    (items.mergeSort fun left right => decide (address left ≤ address right)).filter
        (fun item => decide (address item = place)) =
      items.filter fun item => decide (address item = place) := by
  have tied : (items.filter fun item => decide (address item = place)).Pairwise
      fun left right => decide (address left ≤ address right) = true := by
    rw [List.pairwise_filter]
    apply List.pairwise_of_forall
    intro left right leftTied rightTied
    simp only [decide_eq_true_eq] at leftTied rightTied ⊢
    rw [leftTied, rightTied]
  have kept : (items.filter fun item => decide (address item = place)).Sublist
      (items.mergeSort fun left right => decide (address left ≤ address right)) := by
    refine List.sublist_mergeSort ?_ ?_ tied List.filter_sublist
    · intro first second third before after
      simp only [decide_eq_true_eq] at before after ⊢
      exact le_trans before after
    · intro left right
      simp only [Bool.or_eq_true, decide_eq_true_eq]
      exact le_total _ _
  have found := kept.filter fun item => decide (address item = place)
  simp only [List.filter_filter, Bool.and_self] at found
  have same := ((List.mergeSort_perm items fun left right =>
    decide (address left ≤ address right)).filter
      fun item => decide (address item = place)).length_eq
  exact (found.eq_of_length same.symm).symm

end Sorting

/-- The record of an instruction holds what is reported of it.  Of a string only
a hash is left. -/
structure Insn.KeptIn (insn : Insn) (instruction : Instruction) : Prop where
  address : instruction.address = insn.address
  mnemonic : instruction.mnemonic = some insn.mnemonic
  operands : instruction.operands.getD [] = insn.operands
  rawBytes : instruction.rawBytes.getD [] = insn.rawBytes
  callTargets : instruction.callTargets = insn.callTargets
  comments : instruction.comments = insn.comments

theorem Insn.keptIn_record (insn : Insn) : insn.KeptIn insn.record := by
  refine ⟨rfl, rfl, ?_, ?_, rfl, rfl⟩
  · cases operands : insn.operands with
    | nil => simp [record, operands]
    | cons run rest => simp [record, operands]
  · cases bytes : insn.rawBytes with
    | nil => simp [record, bytes]
    | cons byte rest => simp [record, bytes]

/-- The record of a block holds its instructions in order. -/
def Block.KeptIn (block : Block) (record : BasicBlock) : Prop :=
  List.Forall₂ Insn.KeptIn block.instructions record.instructions

theorem Block.keptIn_record (block : Block) : block.KeptIn block.record := by
  rw [KeptIn, record, List.forall₂_map_right_iff]
  exact List.forall₂_same.mpr fun insn _ => insn.keptIn_record

/-- The flow graph holds the blocks, each of them once and by ascending address,
and the branches in order. -/
structure Function.KeptIn (function : Function) (graph : FlowGraph) : Prop where
  address : graph.address = function.address
  blocks : ∃ blocks, blocks.Perm function.blocks ∧
    blocks.Pairwise (fun left right => left.address ≤ right.address) ∧
      List.Forall₂ Block.KeptIn blocks graph.blocks
  edges : graph.edges = function.branches

theorem Function.keptIn_flowGraph (function : Function) : function.KeptIn function.flowGraph := by
  have ascending := @pairwise_mergeSort_address _ Block.address function.blocks
  refine ⟨rfl, ⟨function.sortedBlocks, function.sortedBlocks_perm, ?_, ?_⟩, rfl⟩
  · exact ascending.imp of_decide_eq_true
  · rw [flowGraph, List.forall₂_map_right_iff]
    exact List.forall₂_same.mpr fun block _ => block.keptIn_record

namespace Provider

variable {α : Type} (provider : Provider α)

/-- A normal function or a thunk, with a body. -/
def Bodied (handle : α) : Prop :=
  ((provider.describe handle).kind = FunctionKind.normal.code ∨
    (provider.describe handle).kind = FunctionKind.thunk.code) ∧ provider.blocks handle ≠ []

instance : DecidablePred provider.Bodied :=
  fun _ => inferInstanceAs (Decidable (_ ∧ _))

theorem isExported_function (handle : α) :
    (provider.function handle).isExported = decide (provider.Bodied handle) := by
  rw [Bool.eq_iff_iff, decide_eq_true_iff]
  exact Function.isExported_iff

/-- The handles are those of the functions with a flow graph, each of them once
and by ascending address.  Functions with one address stay in the order in which
the disassembler lists them. -/
structure Lists (handles : List α) : Prop where
  chosen : handles.Perm (provider.functions.filter fun handle => decide (provider.Bodied handle))
  ascending : handles.Pairwise fun left right => provider.address left ≤ provider.address right
  stable : ∀ place, handles.filter (fun handle => decide (provider.address handle = place)) =
    (provider.functions.filter fun handle => decide (provider.Bodied handle)).filter
      fun handle => decide (provider.address handle = place)

theorem exported_eq_filter :
    provider.exported =
      provider.sortedFunctions.filter fun handle => decide (provider.Bodied handle) := by
  simp only [exported, isExported_function]

theorem lists_exported : provider.Lists provider.exported := by
  rw [exported_eq_filter]
  constructor
  case chosen => exact (List.mergeSort_perm _ _).filter _
  case ascending =>
    have sorted := @pairwise_mergeSort_address _ provider.address provider.functions
    exact (sorted.imp of_decide_eq_true).filter _
  case stable =>
    intro place
    have tied := @filter_mergeSort_address _ provider.address provider.functions place
    rw [List.filter_comm, List.filter_comm _ _ provider.functions]
    rw [sortedFunctions, tied]

theorem counts_tally : provider.tally.Counts provider.flowGraphs := by
  have counted := Tally.counts_nil.foldl_addFunction (provider.exported.map provider.function)
  rwa [List.nil_append, List.map_map] at counted

theorem describes_metadata (inputBinary : Option String) (inputHash : Option Bytes)
    (addressSpace : Option Int) (architecture : Option String) :
    (provider.metadata inputBinary inputHash addressSpace architecture).Describes
      provider.flowGraphs := by
  have counts := provider.counts_tally
  constructor
  case functions => rw [metadata, counts.functions]
  case basicBlocks => rw [metadata, counts.blocks]
  case instructions => rw [metadata, counts.instructions]
  case edges => rw [metadata, counts.edges]
  case maxMnemonicLength =>
    refine ⟨provider.tally.longestMnemonic, rfl, ?_⟩
    rw [counts.longestMnemonic]
    exact isGreatest_foldl_max 0 _

/-- The number of flow graphs, the metadata and the flow graphs agree, although
each of them is made in a pass of its own.  The flow graphs are those of the
functions with a body, and hold all blocks, instructions and branches. -/
theorem metadata_describes_flowGraphs (inputBinary : Option String) (inputHash : Option Bytes)
    (addressSpace : Option Int) (architecture : Option String) :
    (provider.metadata inputBinary inputHash addressSpace architecture).Describes
        provider.flowGraphs ∧
      provider.flowGraphCount = provider.flowGraphs.length ∧
        ∃ handles, provider.Lists handles ∧
          List.Forall₂ (fun handle graph => (provider.function handle).KeptIn graph) handles
            provider.flowGraphs := by
  refine ⟨provider.describes_metadata _ _ _ _, ?_, provider.exported, provider.lists_exported, ?_⟩
  · rw [flowGraphCount, flowGraphs, List.length_map]
  · rw [flowGraphs, List.forall₂_map_right_iff]
    exact List.forall₂_same.mpr fun handle _ => (provider.function handle).keptIn_flowGraph

end Provider

/-! ## The disassembler that knows one program -/

namespace Program

variable (program : Program)

theorem flowGraphs_provider : program.provider.flowGraphs = program.flowGraphs := rfl

theorem longestMnemonic_provider :
    program.provider.tally.longestMnemonic =
      (((program.exported.flatMap (·.blocks)).flatMap (·.instructions)).map
        (·.mnemonic.length)).foldl max 0 := by
  have lengths : (program.flowGraphs.flatMap (·.mnemonicLengths)).Perm
      (program.exported.flatMap fun function => function.mnemonics.map String.length) := by
    rw [flowGraphs, List.flatMap_map]
    exact List.Perm.flatMap_left _ fun function _ => function.mnemonicLengths_flowGraph_perm
  have joined : (program.exported.flatMap fun function => function.mnemonics.map String.length) =
      ((program.exported.flatMap (·.blocks)).flatMap (·.instructions)).map
        (·.mnemonic.length) := by
    simp [Function.mnemonics, List.map_flatMap, List.flatMap_assoc, Function.comp_def]
  rw [program.provider.counts_tally.longestMnemonic, flowGraphs_provider, lengths.foldl_eq 0,
    joined]

/-- Counting all at once gives what the pass over the functions counts. -/
theorem metadata_provider (addressSpace : Option Int) :
    program.provider.metadata (some program.name) (some program.inputHash)
        (some (addressSpace.getD program.addressSpace)) (some program.architecture) =
      program.metadata addressSpace := by
  have counted := program.provider.describes_metadata (some program.name)
    (some program.inputHash) (some (addressSpace.getD program.addressSpace))
    (some program.architecture)
  have declared := program.declared_metadata addressSpace
  have functions : some (program.provider.tally.functions : Int) =
      (program.metadata addressSpace).numFunctions :=
    counted.functions.trans (declared .functions).symm
  have blocks : some (program.provider.tally.blocks : Int) =
      (program.metadata addressSpace).numBasicBlocks :=
    counted.basicBlocks.trans (declared .basicBlocks).symm
  have instructions : some (program.provider.tally.instructions : Int) =
      (program.metadata addressSpace).numInstructions :=
    counted.instructions.trans (declared .instructions).symm
  have edges : some (program.provider.tally.edges : Int) =
      (program.metadata addressSpace).numEdges :=
    counted.edges.trans (declared .edges).symm
  rw [Provider.metadata, functions, blocks, instructions, edges, longestMnemonic_provider]
  rfl

end Program

end Disassembly

end CodeGraph
