import CodeGraph.Disassembly.Blocks
import Mathlib

/-!
# Blocks hold every instruction once

Cutting instructions into blocks neither loses nor repeats one, so what is
reported of a function, block after block, is what the decoder gave.  The call
sites of a function are the call targets of its instructions.
-/

namespace CodeGraph.Disassembly

/-! ## Cutting -/

theorem ne_nil_of_mem_cutAt {leaders : List Int} {insns group : List DecodedInsn}
    (member : group ∈ cutAt leaders insns) : group ≠ [] := by
  induction insns generalizing group with
  | nil => cases member
  | cons insn rest induction =>
      rw [cutAt] at member
      split at member
      · next next block blocks cut =>
          rw [cut] at induction
          split at member
          · rcases List.mem_cons.mp member with rfl | later
            · exact List.cons_ne_nil _ _
            · exact induction later
          · rcases List.mem_cons.mp member with rfl | later
            · exact List.cons_ne_nil _ _
            · exact induction (List.mem_cons_of_mem _ later)
      · rcases List.mem_cons.mp member with rfl | later
        · exact List.cons_ne_nil _ _
        · exact induction later

theorem flatten_cutAt (leaders : List Int) (insns : List DecodedInsn) :
    (cutAt leaders insns).flatten = insns := by
  induction insns with
  | nil => rfl
  | cons insn rest induction =>
      rw [cutAt]
      split
      · next next block blocks cut =>
          rw [cut] at induction
          split
          · rw [List.flatten_cons, induction, List.singleton_append]
          · rw [← induction]
            rfl
      · rw [List.flatten_cons, induction, List.singleton_append]

/-! ## Reports -/

/-- What is reported of the instruction holds where it is, its bytes and, if it
calls, where it goes directly. -/
structure DecodedInsn.ReportedAs (insn : DecodedInsn) (reported : Insn) : Prop where
  address : reported.address = insn.address
  mnemonic : reported.mnemonic = insn.mnemonic
  rawBytes : reported.rawBytes = insn.bytes
  callTargets : reported.callTargets = if insn.isCall then insn.directTarget?.toList else []

theorem reportedAs_reportInsn (labels functions : List Int) (strings : Int → Option Bytes)
    (insn : DecodedInsn) : insn.ReportedAs (reportInsn labels functions strings insn) := by
  refine ⟨rfl, rfl, rfl, ?_⟩
  rw [reportInsn, callTarget?]
  split
  · rfl
  · rfl

theorem exists_of_mem_reported {insns : List DecodedInsn} {reports : List Insn}
    (reported : List.Forall₂ DecodedInsn.ReportedAs insns reports) {report : Insn}
    (member : report ∈ reports) : ∃ insn ∈ insns, insn.ReportedAs report := by
  induction reported with
  | nil => cases member
  | cons first _ induction =>
      rcases List.mem_cons.mp member with rfl | later
      · exact ⟨_, List.mem_cons_self, first⟩
      · obtain ⟨insn, found, described⟩ := induction later
        exact ⟨insn, List.mem_cons_of_mem _ found, described⟩

/-- The instructions of blocks, one block after the other. -/
def instructionsOf (blocks : List Block) : List Insn :=
  blocks.flatMap (·.instructions)

/-- The blocks of groups of instructions. -/
def blocksOf (report : DecodedInsn → Insn) (groups : List (List DecodedInsn)) : List Block :=
  groups.filterMap fun group =>
    (headAddress group).map fun address => { address, instructions := group.map report }

theorem blocksOf_cons (report : DecodedInsn → Insn) (insn : DecodedInsn)
    (block : List DecodedInsn) (groups : List (List DecodedInsn)) :
    blocksOf report ((insn :: block) :: groups) =
      ⟨insn.address, (insn :: block).map report⟩ :: blocksOf report groups := rfl

/-- As every group has a first instruction, none is left out. -/
theorem instructionsOf_blocksOf (report : DecodedInsn → Insn) {groups : List (List DecodedInsn)}
    (nonempty : ∀ group ∈ groups, group ≠ []) :
    instructionsOf (blocksOf report groups) = groups.flatten.map report := by
  induction groups with
  | nil => rfl
  | cons group rest induction =>
      obtain ⟨first, others⟩ := List.forall_mem_cons.mp nonempty
      obtain ⟨insn, block, rfl⟩ := List.exists_cons_of_ne_nil first
      have later := induction others
      unfold instructionsOf at later ⊢
      rw [blocksOf_cons, List.flatMap_cons, later, List.flatten_cons, List.map_append]

section Body

variable (decode : Decoder) (code : Bytes) (entry : Int) (functions : List Int)
  (strings : Int → Option Bytes)

/-- Where the blocks of a function start. -/
def blockStarts : List Int :=
  (cutAt (leaders entry (decode code entry)) (decode code entry)).filterMap headAddress

theorem blocks_functionBody :
    (functionBody decode code entry functions strings).blocks =
      blocksOf (reportInsn (blockStarts decode code entry) functions strings)
        (cutAt (leaders entry (decode code entry)) (decode code entry)) := rfl

theorem instructionsOf_functionBody :
    instructionsOf (functionBody decode code entry functions strings).blocks =
      (decode code entry).map
        (reportInsn (blockStarts decode code entry) functions strings) := by
  rw [blocks_functionBody, instructionsOf_blocksOf _ fun _ member => ne_nil_of_mem_cutAt member,
    flatten_cutAt]

/-- The decoder's instructions are reported one by one. -/
theorem reported_functionBody :
    List.Forall₂ DecodedInsn.ReportedAs (decode code entry)
      (instructionsOf (functionBody decode code entry functions strings).blocks) := by
  rw [instructionsOf_functionBody, List.forall₂_map_right_iff]
  exact List.forall₂_same.mpr fun insn _ => reportedAs_reportInsn _ functions strings insn

theorem callSites_functionBody :
    (functionBody decode code entry functions strings).callSites =
      (instructionsOf (functionBody decode code entry functions strings).blocks).flatMap
        fun insn => insn.callTargets.map (insn.address, ·) := by
  rw [instructionsOf_functionBody, List.flatMap_map]
  simp only [functionBody, List.filterMap_eq_flatMap_toList]
  apply List.flatMap_congr
  intro insn _
  exact Option.toList_map

end Body

end CodeGraph.Disassembly
