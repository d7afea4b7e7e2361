import CodeGraph.Proofs.ProgramRecords
import Mathlib

/-!
# Signatures agree across records

The signature of a function in the call graph is added up over its blocks as
they are listed, and those of its blocks in the flow graph over sorted blocks,
with a reduction after every step.  Adding up is a homomorphism from joined lists
to reduced sums that takes no notice of an order, so both say the same.
-/

namespace CodeGraph

namespace Signature

theorem product_lt {modulus value : Nat} (small : value < modulus) (position : Nat)
    (bytes : Bytes) : product modulus position value bytes < modulus := by
  induction bytes generalizing position value with
  | nil => exact small
  | cons byte rest induction =>
      rw [product]
      apply induction
      exact Nat.mod_lt _ (Nat.zero_lt_of_lt small)

theorem mnemonicPrime_lt (mnemonic : Bytes) : mnemonicPrime mnemonic < words32 :=
  product_lt (by decide) 1 mnemonic

theorem additivePrime_lt (mnemonics : List Bytes) : additivePrime mnemonics < words64 := by
  rw [additivePrime_eq_sum]
  exact Nat.mod_lt _ (by decide)

theorem additivePrime_flatten (parts : List (List Bytes)) :
    additivePrime parts.flatten = (parts.map additivePrime).sum % words64 := by
  have reduced : parts.map additivePrime =
      (parts.map fun part => (part.map mnemonicPrime).sum).map (· % words64) := by
    rw [List.map_map]
    exact List.map_congr_left fun part _ => additivePrime_eq_sum part
  rw [additivePrime_eq_sum, List.map_flatten, List.sum_flatten, List.map_map, reduced,
    ← List.sum_nat_mod]
  rfl

end Signature

namespace Disassembly

open Signature (words32 words64)

/-! ## Sums of emitted signatures -/

theorem Function.prime_vertex_of_reordered {function listed : Function}
    (reordered : function.Reordered listed) : listed.vertex.prime = function.vertex.prime := by
  have mnemonics : listed.mnemonics.Perm function.mnemonics :=
    (reordered.blocks.flatMap_right _).symm
  change primeOfMnemonics listed.mnemonics = primeOfMnemonics function.mnemonics
  rw [primeOfMnemonics, primeOfMnemonics,
    Signature.additivePrime_eq_of_perm (mnemonics.map Utf8.encode)]

/-- The mnemonics that are signed in the flow graph, block by block. -/
def Function.signedBlocks (function : Function) : List (List Bytes) :=
  function.sortedBlocks.map fun block =>
    block.instructions.map fun insn => Utf8.encode insn.mnemonic

namespace Function

variable (function : Function)

theorem prime_vertex :
    function.vertex.prime = (Signature.additivePrime function.signedBlocks.flatten : Int) := by
  have joined : function.arranged.mnemonics.map Utf8.encode = function.signedBlocks.flatten := by
    simp [signedBlocks, mnemonics, arranged, List.flatMap_def, Function.comp_def]
  rw [← joined, ← function.vertex_arranged]
  rfl

theorem primes_blocks :
    function.flowGraph.blocks.map (·.prime) =
      (function.signedBlocks.map Signature.additivePrime).map Nat.cast := by
  simp [signedBlocks, flowGraph, Block.record, primeOfMnemonics, Function.comp_def]

theorem primes_instructions :
    (function.flowGraph.blocks.flatMap (·.instructions)).map (·.prime) =
      (function.signedBlocks.flatten.map Signature.mnemonicPrime).map Nat.cast := by
  simp [signedBlocks, flowGraph, Block.record, Insn.record, Function.comp_def,
    List.flatMap_map, List.map_flatMap, ← List.flatMap_def]

end Function

/-- The signature of a vertex is the sum of those of the blocks of a flow graph,
and of those of its instructions, in words of 64 bits. -/
structure SumsUp (vertex : CallGraph.Vertex) (graph : FlowGraph) : Prop where
  blocks : vertex.prime = (graph.blocks.map (·.prime)).sum % 2 ^ 64
  instructions : vertex.prime =
    ((graph.blocks.flatMap (·.instructions)).map (·.prime)).sum % 2 ^ 64

theorem sumsUp_flowGraph (function : Function) : SumsUp function.vertex function.flowGraph := by
  have modulus : (2 : Int) ^ 64 = (words64 : Nat) := by norm_num [words64]
  constructor
  case blocks =>
    rw [modulus, function.prime_vertex, function.primes_blocks, Signature.additivePrime_flatten,
      ← Nat.cast_list_sum, Int.natCast_mod]
  case instructions =>
    rw [modulus, function.prime_vertex, function.primes_instructions, Signature.additivePrime_eq_sum,
      ← Nat.cast_list_sum, Int.natCast_mod]

/-! ## Ranges -/

theorem fits_mnemonicPrime (mnemonic : Bytes) :
    Codec.Fits 32 (Signature.mnemonicPrime mnemonic) := by
  have small := Signature.mnemonicPrime_lt mnemonic
  rw [words32] at small
  rw [Codec.Fits]
  omega

theorem fits_primeOfMnemonics (mnemonics : List String) :
    Codec.Fits 64 (primeOfMnemonics mnemonics) := by
  have small := Signature.additivePrime_lt (mnemonics.map Utf8.encode)
  rw [words64] at small
  rw [Codec.Fits, primeOfMnemonics]
  omega

namespace Program

variable (program : Program)

theorem fits_vertices : ∀ vertex ∈ program.callGraph.vertices, Codec.Fits 64 vertex.prime := by
  intro vertex member
  obtain ⟨function, _, rfl⟩ := List.mem_map.mp member
  exact fits_primeOfMnemonics function.mnemonics

theorem fits_flowGraphs : ∀ graph ∈ program.flowGraphs, ∀ block ∈ graph.blocks,
    Codec.Fits 64 block.prime ∧
      ∀ instruction ∈ block.instructions, Codec.Fits 32 instruction.prime := by
  intro graph member block inside
  obtain ⟨function, _, rfl⟩ := List.mem_map.mp member
  obtain ⟨source, _, rfl⟩ := List.mem_map.mp inside
  refine ⟨fits_primeOfMnemonics _, ?_⟩
  intro instruction found
  obtain ⟨insn, _, rfl⟩ := List.mem_map.mp found
  exact fits_mnemonicPrime (Utf8.encode insn.mnemonic)

end Program

/-! ## One vertex and one flow graph a function -/

theorem filter_address_of_nodup {α : Type} {address : α → Int} {items : List α}
    (distinct : (items.map address).Nodup) {item : α} (member : item ∈ items) :
    items.filter (fun other => decide (address other = address item)) = [item] := by
  induction items with
  | nil => cases member
  | cons first rest induction =>
      rw [List.map_cons, List.nodup_cons] at distinct
      obtain ⟨fresh, others⟩ := distinct
      rcases List.mem_cons.mp member with rfl | later
      · have different : ∀ other ∈ rest, address other ≠ address item := by
          intro other listed same
          exact fresh (List.mem_map.mpr ⟨other, listed, same⟩)
        rw [List.filter_cons_of_pos (by simp), List.filter_eq_nil_iff.mpr (by simpa using different)]
      · have different : address first ≠ address item := by
          intro same
          exact fresh (List.mem_map.mpr ⟨item, later, same.symm⟩)
        rw [List.filter_cons_of_neg (by simpa using different), induction others later]

theorem Program.nodup_addresses_flowGraphs {program : Program}
    (distinct : (program.functions.map (·.address)).Nodup) :
    (program.flowGraphs.map (·.address)).Nodup := by
  have sorted : (program.sortedFunctions.map (·.address)).Nodup :=
    (program.sortedFunctions_perm.map _).nodup_iff.mpr distinct
  rw [program.addresses_flowGraphs]
  exact sorted.sublist (List.filter_sublist.map _)

/-- The vertex of a function and its flow graph are signed alike, in whatever
order the blocks of the function are listed, and every signature fits its field. -/
theorem signatures_agree (program : Program)
    (distinct : (program.functions.map (·.address)).Nodup) :
    (∀ function ∈ program.functions, function.isExported = true →
      ∃ vertex graph,
        program.callGraph.vertices.filter (fun other => other.address = function.address) =
            [vertex] ∧
          program.flowGraphs.filter (fun other => other.address = function.address) = [graph] ∧
            SumsUp vertex graph ∧
              ∀ listed, function.Reordered listed →
                listed.vertex.prime = vertex.prime ∧ SumsUp vertex listed.flowGraph) ∧
      (∀ vertex ∈ program.callGraph.vertices, Codec.Fits 64 vertex.prime) ∧
        ∀ graph ∈ program.flowGraphs, ∀ block ∈ graph.blocks, Codec.Fits 64 block.prime ∧
          ∀ instruction ∈ block.instructions, Codec.Fits 32 instruction.prime := by
  refine ⟨?_, program.fits_vertices, program.fits_flowGraphs⟩
  intro function member exported
  have vertices : (program.callGraph.vertices.map (·.address)).Nodup :=
    program.addresses_callGraph_perm.nodup_iff.mpr distinct
  have vertex : function.vertex ∈ program.callGraph.vertices :=
    List.mem_map_of_mem (program.sortedFunctions_perm.mem_iff.mpr member)
  have graph : function.flowGraph ∈ program.flowGraphs :=
    List.mem_map_of_mem (Program.mem_exported_iff.mpr ⟨member, exported⟩)
  refine ⟨function.vertex, function.flowGraph, filter_address_of_nodup vertices vertex,
    filter_address_of_nodup (Program.nodup_addresses_flowGraphs distinct) graph,
    sumsUp_flowGraph function, ?_⟩
  intro listed reordered
  have prime := Function.prime_vertex_of_reordered reordered
  obtain ⟨blocks, instructions⟩ := sumsUp_flowGraph listed
  exact ⟨prime, prime.symm.trans blocks, prime.symm.trans instructions⟩

/-- A function whose second block is listed first. -/
theorem descendingProgram_signed :
    (descendingProgram.functions.map (·.address)).Nodup ∧
      descendingProgram.functions[1] ∈ descendingProgram.functions ∧
        descendingProgram.functions[1].isExported = true ∧
          ∃ vertex graph,
            descendingProgram.callGraph.vertices.filter (fun other => other.address = 0x10) =
                [vertex] ∧
              descendingProgram.flowGraphs.filter (fun other => other.address = 0x10) = [graph] ∧
                SumsUp vertex graph := by
  have distinct : (descendingProgram.functions.map (·.address)).Nodup := by decide
  have member : descendingProgram.functions[1] ∈ descendingProgram.functions :=
    List.getElem_mem _
  have exported : descendingProgram.functions[1].isExported = true := rfl
  obtain ⟨agree, _⟩ := signatures_agree descendingProgram distinct
  obtain ⟨vertex, graph, onlyVertex, onlyGraph, sums, _⟩ := agree _ member exported
  exact ⟨distinct, member, exported, vertex, graph, onlyVertex, onlyGraph, sums⟩

end Disassembly

end CodeGraph
