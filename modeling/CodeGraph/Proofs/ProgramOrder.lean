import CodeGraph.Container.Writer
import CodeGraph.Disassembly.Records
import Mathlib

/-!
# The order in which a program is listed

Functions and blocks are sorted by address before records are made of them, and
what is counted or added up does not depend on an order.  So a program has the
records of its arranged form, in which functions and blocks stand by ascending
address, and programs that differ in order only are arranged alike.
-/

namespace CodeGraph

/-! ## Signatures as sums -/

namespace Signature

theorem foldl_additivePrime {start : Nat} (small : start < words64) (mnemonics : List Bytes) :
    mnemonics.foldl (fun total mnemonic => (total + mnemonicPrime mnemonic) % words64) start =
      (start + (mnemonics.map mnemonicPrime).sum) % words64 := by
  induction mnemonics generalizing start with
  | nil =>
      rw [List.foldl_nil, List.map_nil, List.sum_nil, Nat.add_zero, Nat.mod_eq_of_lt small]
  | cons mnemonic rest induction =>
      have reduced : (start + mnemonicPrime mnemonic) % words64 < words64 :=
        Nat.mod_lt _ (by decide)
      rw [List.foldl_cons, induction reduced, List.map_cons, List.sum_cons, Nat.mod_add_mod,
        Nat.add_assoc]

/-- Reducing after every mnemonic gives the reduced sum. -/
theorem additivePrime_eq_sum (mnemonics : List Bytes) :
    additivePrime mnemonics = (mnemonics.map mnemonicPrime).sum % words64 := by
  have whole := foldl_additivePrime (show 0 < words64 by decide) mnemonics
  rwa [Nat.zero_add] at whole

theorem additivePrime_eq_of_perm {left right : List Bytes} (same : left.Perm right) :
    additivePrime left = additivePrime right := by
  rw [additivePrime_eq_sum, additivePrime_eq_sum, (same.map mnemonicPrime).sum_eq]

end Signature

namespace Disassembly

/-! ## Sorting by address -/

section Sorting

variable {α : Type} {address : α → Int}

theorem pairwise_mergeSort_address (items : List α) :
    (items.mergeSort fun left right => decide (address left ≤ address right)).Pairwise
      fun left right => decide (address left ≤ address right) = true := by
  apply List.pairwise_mergeSort
  · intro first second third before after
    simp only [decide_eq_true_eq] at before after ⊢
    exact le_trans before after
  · intro left right
    simp only [Bool.or_eq_true, decide_eq_true_eq]
    exact le_total _ _

theorem mergeSort_address_mergeSort (items : List α) :
    (items.mergeSort fun left right => decide (address left ≤ address right)).mergeSort
        (fun left right => decide (address left ≤ address right)) =
      items.mergeSort fun left right => decide (address left ≤ address right) :=
  List.mergeSort_of_pairwise (pairwise_mergeSort_address items)

/-- Items with distinct addresses are sorted in one way only. -/
theorem mergeSort_address_eq_of_perm {left right : List α} (same : left.Perm right)
    (distinct : (left.map address).Nodup) :
    (left.mergeSort fun first second => decide (address first ≤ address second)) =
      right.mergeSort fun first second => decide (address first ≤ address second) := by
  have fromLeft := List.mergeSort_perm left fun first second =>
    decide (address first ≤ address second)
  have fromRight := List.mergeSort_perm right fun first second =>
    decide (address first ≤ address second)
  refine List.Perm.eq_of_pairwise ?_ (pairwise_mergeSort_address left)
    (pairwise_mergeSort_address right) (fromLeft.trans (same.trans fromRight.symm))
  intro first second firstMember secondMember before after
  have firstListed : first ∈ left := List.mem_mergeSort.mp firstMember
  have secondListed : second ∈ left := same.mem_iff.mpr (List.mem_mergeSort.mp secondMember)
  simp only [decide_eq_true_eq] at before after
  exact List.inj_on_of_nodup_map distinct firstListed secondListed (le_antisymm before after)

end Sorting

/-! ## Arranged programs -/

/-- The function with its blocks by ascending address. -/
def Function.arranged (function : Function) : Function :=
  { function with blocks := function.sortedBlocks }

namespace Function

theorem sortedBlocks_perm (function : Function) :
    function.sortedBlocks.Perm function.blocks :=
  List.mergeSort_perm _ _

theorem sortedBlocks_arranged (function : Function) :
    function.arranged.sortedBlocks = function.sortedBlocks :=
  mergeSort_address_mergeSort function.blocks

theorem isExported_arranged (function : Function) :
    function.arranged.isExported = function.isExported := by
  have empty : function.sortedBlocks.isEmpty = function.blocks.isEmpty :=
    function.sortedBlocks_perm.isEmpty_eq
  unfold isExported arranged
  simp only [empty]

theorem flowGraph_arranged (function : Function) :
    function.arranged.flowGraph = function.flowGraph := by
  unfold flowGraph
  rw [sortedBlocks_arranged]
  rfl

theorem mnemonics_arranged_perm (function : Function) :
    function.arranged.mnemonics.Perm function.mnemonics :=
  function.sortedBlocks_perm.flatMap_right _

theorem vertex_arranged (function : Function) : function.arranged.vertex = function.vertex := by
  have prime : primeOfMnemonics function.arranged.mnemonics =
      primeOfMnemonics function.mnemonics := by
    unfold primeOfMnemonics
    rw [Signature.additivePrime_eq_of_perm (function.mnemonics_arranged_perm.map _)]
  unfold vertex
  rw [prime]
  rfl

end Function

/-- The program with its functions by ascending address, each arranged. -/
def Program.arranged (program : Program) : Program :=
  { program with functions := program.sortedFunctions.map Function.arranged }

namespace Program

theorem sortedFunctions_perm (program : Program) :
    program.sortedFunctions.Perm program.functions :=
  List.mergeSort_perm _ _

/-- Arranging a function leaves its address, so it can be done before sorting. -/
theorem map_arranged_mergeSort (functions : List Function) :
    (functions.mergeSort fun left right => decide (left.address ≤ right.address)).map
        Function.arranged =
      (functions.map Function.arranged).mergeSort fun left right =>
        decide (left.address ≤ right.address) :=
  List.map_mergeSort fun _ _ _ _ => rfl

theorem sortedFunctions_arranged (program : Program) :
    program.arranged.sortedFunctions = program.sortedFunctions.map Function.arranged := by
  have sorted := map_arranged_mergeSort program.functions
  unfold sortedFunctions arranged
  rw [sortedFunctions, sorted, mergeSort_address_mergeSort]

theorem exported_arranged (program : Program) :
    program.arranged.exported = program.exported.map Function.arranged := by
  have same : Function.isExported ∘ Function.arranged = Function.isExported :=
    funext Function.isExported_arranged
  unfold exported
  rw [sortedFunctions_arranged, List.filter_map, same]

theorem flowGraphs_arranged (program : Program) :
    program.arranged.flowGraphs = program.flowGraphs := by
  unfold flowGraphs
  rw [exported_arranged, List.map_map]
  exact List.map_congr_left fun function _ => function.flowGraph_arranged

theorem callGraph_arranged (program : Program) :
    program.arranged.callGraph = program.callGraph := by
  have vertices : program.arranged.sortedFunctions.map Function.vertex =
      program.sortedFunctions.map Function.vertex := by
    rw [sortedFunctions_arranged, List.map_map]
    exact List.map_congr_left fun function _ => function.vertex_arranged
  unfold callGraph
  rw [vertices]
  rfl

/-- The blocks of exported functions, which the metadata counts. -/
theorem blocks_arranged_perm (program : Program) :
    (program.arranged.exported.flatMap (·.blocks)).Perm
      (program.exported.flatMap (·.blocks)) := by
  rw [exported_arranged, List.flatMap_map]
  exact List.Perm.flatMap_left _ fun function _ => function.sortedBlocks_perm

theorem counts_arranged (program : Program) : program.arranged.counts = program.counts := by
  have blocks := program.blocks_arranged_perm
  have instructions := blocks.flatMap_right (·.instructions)
  have longest := (instructions.map (·.mnemonic.length)).foldl_eq (f := max) 0
  have functions : program.arranged.exported.length = program.exported.length := by
    rw [exported_arranged, List.length_map]
  have branches : program.arranged.exported.map (·.branches.length) =
      program.exported.map (·.branches.length) := by
    rw [exported_arranged, List.map_map]
    rfl
  unfold counts
  simp only [longest, instructions.length_eq, functions, blocks.length_eq, branches]

theorem metadata_arranged (program : Program) (addressSpace : Option Int) :
    program.arranged.metadata addressSpace = program.metadata addressSpace := by
  unfold metadata
  rw [counts_arranged]
  rfl

end Program

/-! ## Programs listed in another order -/

/-- The same function with its blocks listed in another order. -/
structure Function.Reordered (left right : Function) : Prop where
  blocks : left.blocks.Perm right.blocks
  others : right = { left with blocks := right.blocks }

/-- The same program with its functions listed in another order, and each of
them reordered. -/
structure Program.Reordered (left right : Program) : Prop where
  functions : ∃ listed, left.functions.Perm listed ∧
    List.Forall₂ Function.Reordered listed right.functions
  others : right = { left with functions := right.functions }

theorem Function.Reordered.arranged_eq {left right : Function} (reordered : left.Reordered right)
    (distinct : (left.blocks.map (·.address)).Nodup) : left.arranged = right.arranged := by
  have blocks : left.sortedBlocks = right.sortedBlocks :=
    mergeSort_address_eq_of_perm reordered.blocks distinct
  unfold arranged
  rw [blocks, reordered.others]

theorem Program.map_arranged_eq {left right : List Function}
    (reordered : List.Forall₂ Function.Reordered left right)
    (distinct : ∀ function ∈ left, (function.blocks.map (·.address)).Nodup) :
    left.map Function.arranged = right.map Function.arranged := by
  induction reordered with
  | nil => rfl
  | cons first _ induction =>
      obtain ⟨here, others⟩ := List.forall_mem_cons.mp distinct
      rw [List.map_cons, List.map_cons, first.arranged_eq here, induction others]

/-- There is one arranged form of a program, in whatever order it is listed. -/
theorem Program.Reordered.arranged_eq {left right : Program} (reordered : left.Reordered right)
    (functionsDistinct : (left.functions.map (·.address)).Nodup)
    (blocksDistinct : ∀ function ∈ left.functions, (function.blocks.map (·.address)).Nodup) :
    left.arranged = right.arranged := by
  obtain ⟨listed, permuted, blocks⟩ := reordered.functions
  have sameBlocks : listed.map Function.arranged = right.functions.map Function.arranged := by
    apply map_arranged_eq blocks
    intro function member
    exact blocksDistinct function (permuted.mem_iff.mpr member)
  have arrangedDistinct : ((left.functions.map Function.arranged).map (·.address)).Nodup := by
    rwa [List.map_map]
  have functions : left.sortedFunctions.map Function.arranged =
      right.sortedFunctions.map Function.arranged := by
    unfold sortedFunctions
    rw [map_arranged_mergeSort, map_arranged_mergeSort, ← sameBlocks]
    exact mergeSort_address_eq_of_perm (permuted.map _) arrangedDistinct
  unfold arranged
  rw [functions, reordered.others]

/-- The records of a program do not depend on the order in which its functions
and their blocks are listed, and neither does anything that comes of writing
them. -/
theorem records_independent_of_order (left right : Program) (reordered : left.Reordered right)
    (functionsDistinct : (left.functions.map (·.address)).Nodup)
    (blocksDistinct : ∀ function ∈ left.functions, (function.blocks.map (·.address)).Nodup)
    (addressSpace : Option Int) :
    left.metadata addressSpace = right.metadata addressSpace ∧
      left.callGraph = right.callGraph ∧ left.flowGraphs = right.flowGraphs ∧
        ∀ listener store declared sized,
          Container.write listener (left.metadata addressSpace) left.callGraph
              { items := left.flowGraphs.map .record, declared, sized } store =
            Container.write listener (right.metadata addressSpace) right.callGraph
              { items := right.flowGraphs.map .record, declared, sized } store := by
  have arranged := reordered.arranged_eq functionsDistinct blocksDistinct
  have metadata : left.metadata addressSpace = right.metadata addressSpace := by
    rw [← left.metadata_arranged, arranged, right.metadata_arranged]
  have callGraph : left.callGraph = right.callGraph := by
    rw [← left.callGraph_arranged, arranged, right.callGraph_arranged]
  have flowGraphs : left.flowGraphs = right.flowGraphs := by
    rw [← left.flowGraphs_arranged, arranged, right.flowGraphs_arranged]
  refine ⟨metadata, callGraph, flowGraphs, ?_⟩
  intro listener store declared sized
  rw [metadata, callGraph, flowGraphs]

/-- A function of two blocks behind an imported one. -/
def descendingProgram : Program where
  name := "a"
  inputHash := [0x61]
  architecture := "x86-64"
  functions := [
    { address := 0x30, kind := FunctionKind.imported.code },
    { address := 0x10
      blocks := [⟨0x14, [{ address := 0x14, mnemonic := "ret" }]⟩,
        ⟨0x10, [{ address := 0x10, mnemonic := "jmp" }]⟩]
      branches := [⟨0x10, 0x14, BranchKind.unconditional.code⟩] }]

def ascendingProgram : Program :=
  { descendingProgram with
    functions := [
      { address := 0x10
        blocks := [⟨0x10, [{ address := 0x10, mnemonic := "jmp" }]⟩,
          ⟨0x14, [{ address := 0x14, mnemonic := "ret" }]⟩]
        branches := [⟨0x10, 0x14, BranchKind.unconditional.code⟩] },
      { address := 0x30, kind := FunctionKind.imported.code }] }

/-- Both orders make the same container. -/
theorem descendingProgram_reordered :
    descendingProgram ≠ ascendingProgram ∧
      descendingProgram.metadata none = ascendingProgram.metadata none ∧
        descendingProgram.callGraph = ascendingProgram.callGraph ∧
          descendingProgram.flowGraphs = ascendingProgram.flowGraphs ∧
            ∀ listener store declared sized,
              Container.write listener (descendingProgram.metadata none)
                  descendingProgram.callGraph
                  { items := descendingProgram.flowGraphs.map .record, declared, sized } store =
                Container.write listener (ascendingProgram.metadata none)
                  ascendingProgram.callGraph
                  { items := ascendingProgram.flowGraphs.map .record, declared, sized } store := by
  have first : Function.Reordered descendingProgram.functions[1] ascendingProgram.functions[0] :=
    ⟨.swap _ _ _, rfl⟩
  have second : Function.Reordered descendingProgram.functions[0] ascendingProgram.functions[1] :=
    ⟨.nil, rfl⟩
  have reordered : descendingProgram.Reordered ascendingProgram :=
    ⟨⟨_, .swap _ _ _, .cons first (.cons second .nil)⟩, rfl⟩
  exact ⟨by decide, records_independent_of_order _ _ reordered (by decide) (by decide) none⟩

end Disassembly

end CodeGraph
