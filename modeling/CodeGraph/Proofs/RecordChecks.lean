import CodeGraph.Container.Validation
import CodeGraph.Proofs.Sequencing
import Mathlib

/-!
# Records that agree

What checking a container reports when all its records can be read: a fault for
every repeated vertex and every call from an unknown function, and nothing else
as long as every flow graph belongs to a function that has a body.
-/

namespace CodeGraph.Container

open Sequencing

/-! ## Reading all flow graphs -/

/-- What was read is the flow graph at a position, or the fault of its record. -/
def ReadAs (reader : Reader) (position : Nat) (body : Except RecordError FlowGraph) : Prop :=
  (reader.flowGraphAt position).1 = body.mapError .record

theorem readBodies_eq_ok_iff {reader : Reader} {positions : List Nat} {bodies : Bodies} :
    (readBodies reader positions).1 = .ok bodies ↔
      List.Forall₂ (ReadAs reader) positions bodies := by
  constructor
  · intro run
    induction positions generalizing bodies with
    | nil =>
        cases run
        exact .nil
    | cons position rest induction =>
        unfold readBodies at run
        cases outcome : reader.flowGraphAt position with
        | mk result warnings =>
            have first : (reader.flowGraphAt position).1 = result := congrArg Prod.fst outcome
            rw [outcome] at run
            cases result with
            | ok graph =>
                obtain ⟨others, later, rfl⟩ := map_eq_ok_iff.mp run
                exact .cons first (induction later)
            | error failure =>
                cases failure with
                | record error =>
                    obtain ⟨others, later, rfl⟩ := map_eq_ok_iff.mp run
                    exact .cons first (induction later)
                | _ => cases run
  · intro read
    induction read with
    | nil => rfl
    | @cons position body _ _ first _ induction =>
        obtain ⟨warnings, outcome⟩ : ∃ warnings,
            reader.flowGraphAt position = (body.mapError .record, warnings) :=
          ⟨_, Prod.fst_eq_iff.mp first⟩
        unfold readBodies
        cases body with
        | error error =>
            simp only [outcome, Except.mapError, induction]
            rfl
        | ok graph =>
            simp only [outcome, Except.mapError, induction]
            rfl

section Bodies

variable {reader : Reader} {positions : List Nat} {graphs : List FlowGraph}
  (read : List.Forall₂ (fun (position : Nat) graph =>
    (reader.flowGraphAt position).1 = .ok graph) positions graphs)
include read

theorem readBodies_of_forall₂ : (readBodies reader positions).1 = .ok (graphs.map .ok) :=
  readBodies_eq_ok_iff.mpr (List.forall₂_map_right_iff.mpr read)

theorem flowGraphsAt_of_forall₂ :
    (reader.flowGraphsAt positions).1 = graphs ∧ (reader.flowGraphsAt positions).2.1 = none := by
  induction read with
  | nil => exact ⟨rfl, rfl⟩
  | @cons position graph _ _ first _ induction =>
      obtain ⟨warnings, outcome⟩ : ∃ warnings,
          reader.flowGraphAt position = (.ok graph, warnings) := ⟨_, Prod.fst_eq_iff.mp first⟩
      unfold Reader.flowGraphsAt
      simp only [outcome]
      exact ⟨congrArg (_ :: ·) induction.1, induction.2⟩

end Bodies

/-- Flow graphs that are read one by one are read at the positions of the index. -/
theorem forall₂_range_of_getElem? {α : Type} {property : Nat → α → Prop} {items : List α}
    (all : ∀ (position : Nat) item, items[position]? = some item → property position item) :
    List.Forall₂ property (List.range items.length) items := by
  apply List.forall₂_iff_get.mpr
  refine ⟨List.length_range, ?_⟩
  intro position _ inside
  have here := all position items[position] (List.getElem?_eq_getElem inside)
  simpa using here

/-! ## Vertices -/

theorem mem_duplicateVertices_iff {seen : List Int} {vertices : List CallGraph.Vertex}
    {fault : Fault} :
    fault ∈ duplicateVertices seen vertices ↔ ∃ address, fault = .duplicateVertex address ∧
      (address ∈ seen ∧ address ∈ vertices.map (·.address) ∨
        List.Duplicate address (vertices.map (·.address))) := by
  induction vertices generalizing seen with
  | nil => simp [duplicateVertices]
  | cons vertex rest induction =>
      have first : fault ∈ (if seen.contains vertex.address then
          [.duplicateVertex vertex.address] else []) ↔
            ∃ address, fault = .duplicateVertex address ∧ address ∈ seen ∧
              vertex.address = address := by
        by_cases known : vertex.address ∈ seen
        · simp [known]
        · simp [known]
      rw [duplicateVertices, List.mem_append, induction, first, ← exists_or]
      refine exists_congr fun address => ?_
      rw [List.map_cons, List.mem_cons, List.mem_cons, List.duplicate_cons_iff,
        @eq_comm _ address vertex.address]
      tauto

/-- Vertices with distinct addresses are no duplicates. -/
theorem duplicateVertices_eq_nil {vertices : List CallGraph.Vertex}
    (distinct : (vertices.map (·.address)).Nodup) : duplicateVertices [] vertices = [] := by
  apply List.eq_nil_iff_forall_not_mem.mpr
  intro fault member
  obtain ⟨address, _, ⟨impossible, _⟩ | repeated⟩ := mem_duplicateVertices_iff.mp member
  · cases impossible
  · exact List.nodup_iff_forall_not_duplicate.mp distinct address repeated

theorem lastVertex?_of_mem {graph : CallGraph} (distinct : (graph.vertices.map (·.address)).Nodup)
    {vertex : CallGraph.Vertex} (member : vertex ∈ graph.vertices) :
    lastVertex? graph vertex.address = some vertex := by
  cases found : lastVertex? graph vertex.address with
  | none =>
      have absent := List.find?_eq_none.mp found vertex (List.mem_reverse.mpr member)
      simp at absent
  | some other =>
      have same := List.find?_some found
      have listed := List.mem_reverse.mp (List.mem_of_find?_eq_some found)
      have equal := List.inj_on_of_nodup_map distinct listed member (by simpa using same)
      rw [equal]

/-! ## The report -/

/-- The flow graph belongs to a function that has a body. -/
def HasBodiedVertex (callGraph : CallGraph) (graph : FlowGraph) : Prop :=
  ∃ vertex, lastVertex? callGraph graph.address = some vertex ∧
    ∀ kind ∈ bodyless, kind.code ≠ vertex.kind

theorem checkVertex_of_bodied {callGraph : CallGraph} {graph : FlowGraph}
    (bodied : HasBodiedVertex callGraph graph) : checkVertex callGraph graph = ([], []) := by
  obtain ⟨vertex, found, kinds⟩ := bodied
  have allowed : bodyless.find? (·.code == vertex.kind) = none := by
    apply List.find?_eq_none.mpr
    intro kind member
    simpa using kinds kind member
  unfold checkVertex
  simp only [found, allowed]

/-- Counts that are declared as they are give no concern. -/
theorem checkCounts_eq_nil {metadata : Meta} {entries : Nat} {graphs : List FlowGraph}
    (declared : ∀ count : Count,
      count.declared metadata = some (count.actual entries graphs : Int)) :
    checkCounts metadata entries graphs = [] := by
  apply List.filterMap_eq_nil_iff.mpr
  intro count _
  simp only [declared count, ne_eq, not_true_eq_false, if_false]

/-- What is reported on records that all can be read and all agree. -/
theorem reportOn_of_agreeing {metadata : Meta} {callGraph : CallGraph} {graphs : List FlowGraph}
    (distinct : (callGraph.vertices.map (·.address)).Nodup)
    (bodied : ∀ graph ∈ graphs, HasBodiedVertex callGraph graph)
    (declared : ∀ count : Count,
      count.declared metadata = some (count.actual graphs.length graphs : Int)) :
    reportOn metadata callGraph (graphs.map .ok) =
      { faults := unknownCallers callGraph, concerns := [], checked := graphs.length } := by
  have read : (graphs.map Except.ok : Bodies).filterMap Except.toOption = graphs := by
    rw [List.filterMap_map]
    exact List.filterMap_some
  have checks : (graphs.map Except.ok : Bodies).map (checkBody callGraph) =
      graphs.map fun _ => ([], []) := by
    rw [List.map_map]
    apply List.map_congr_left
    intro graph member
    exact checkVertex_of_bodied (bodied graph member)
  have vertices := duplicateVertices_eq_nil distinct
  unfold reportOn
  simp only [read, checks, vertices, List.length_map, if_true, checkCounts_eq_nil declared]
  simp

theorem validate_of_readable {reader : Reader} {metadata : Meta} {callGraph : CallGraph}
    {graphs : List FlowGraph} (metadataRead : reader.metadata = .ok metadata)
    (callGraphRead : reader.callGraph = .ok callGraph)
    (bodiesRead : (readBodies reader (List.range reader.count)).1 = .ok (graphs.map .ok)) :
    (validate reader).1 = .ok (reportOn metadata callGraph (graphs.map .ok)) := by
  unfold validate
  simp only [metadataRead, callGraphRead, bodiesRead]
  rfl

end CodeGraph.Container
