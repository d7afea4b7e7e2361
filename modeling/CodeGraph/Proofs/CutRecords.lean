import CodeGraph.Proofs.CallGraphRoundTrip
import CodeGraph.Proofs.CutMessages
import CodeGraph.Proofs.FlowGraphRoundTrip
import CodeGraph.Proofs.MarkupModes
import Mathlib

/-!
# Records that are cut short

A stored record keeps its parts in order, so what is read after a cut is the
record without its last parts.  Nothing that was not written is ever read.
-/

namespace CodeGraph

/-- The same function with its first blocks, and with its first edges only if no
block is missing. -/
structure FlowGraph.IsCutOf (part graph : FlowGraph) : Prop where
  address : part.address = graph.address
  blocks_ne_nil : part.blocks ≠ []
  blocks : part.blocks <+: graph.blocks
  edges : part.edges <+: graph.edges
  complete : part.edges ≠ [] → part.blocks = graph.blocks

/-- The first vertices, and the first edges only if no vertex is missing. -/
structure CallGraph.IsCutOf (part graph : CallGraph) : Prop where
  vertices : part.vertices <+: graph.vertices
  edges : part.edges <+: graph.edges
  complete : part.edges ≠ [] → part.vertices = graph.vertices

/-- Some of the first blocks and edges. -/
def FlowGraph.cut (graph : FlowGraph) (count : Nat) : FlowGraph where
  address := graph.address
  blocks := graph.blocks.take count
  edges := graph.edges.take (count - graph.blocks.length)

/-- The first vertices and, once there are no more, edges. -/
def CallGraph.cut (graph : CallGraph) (count : Nat) : CallGraph where
  vertices := graph.vertices.take count
  edges := graph.edges.take (count - graph.vertices.length)

theorem take_eq_self_of_rest {α β : Type} {first : List α} {second : List β} {count : Nat}
    (reached : second.take (count - first.length) ≠ []) : first.take count = first := by
  apply List.take_of_length_le
  by_contra short
  apply reached
  rw [Nat.sub_eq_zero_of_le (by omega), List.take_zero]

theorem FlowGraph.isCutOf_cut {graph : FlowGraph} {count : Nat}
    (nonempty : graph.blocks.take count ≠ []) : (graph.cut count).IsCutOf graph where
  address := rfl
  blocks_ne_nil := nonempty
  blocks := List.take_prefix _ _
  edges := List.take_prefix _ _
  complete := take_eq_self_of_rest

theorem CallGraph.isCutOf_cut (graph : CallGraph) (count : Nat) :
    (graph.cut count).IsCutOf graph where
  vertices := List.take_prefix _ _
  edges := List.take_prefix _ _
  complete := take_eq_self_of_rest

theorem FlowGraph.canonical_cut (graph : FlowGraph) (count : Nat) :
    (graph.cut count).canonical = graph.canonical.cut count := by
  simp [canonical, cut, List.map_take]

namespace Codec

open Sequencing
open Wire (Field)

theorem withinLimit_of_fields? {level : Nat} {bytes : Bytes} {fields : List Field}
    (read : Wire.fields? level bytes = some fields) : ∀ field ∈ fields, FieldWithinLimit field := by
  intro field member content holds
  have payload := (Wire.storable_of_fields? read field member).payload
  rw [holds] at payload
  exact payload

/-! ## Flow graphs -/

theorem flowGraphLayout_cut (graph : FlowGraph) (count : Nat) :
    flowGraphLayout (graph.cut count) = (flowGraphLayout graph).take (count + 1) := by
  simp [flowGraphLayout, FlowGraph.cut, List.take_append, List.map_take]

theorem encodableFlowGraph_cut {graph : FlowGraph} (encodable : EncodableFlowGraph graph)
    {count : Nat} (nonempty : graph.blocks.take count ≠ []) :
    EncodableFlowGraph (graph.cut count) where
  address := encodable.address
  blocks_ne_nil := nonempty
  instructions_ne_nil block member :=
    encodable.instructions_ne_nil block (List.mem_of_mem_take member)
  blocks block member := encodable.blocks block (List.mem_of_mem_take member)
  edges edge member := encodable.edges edge (List.mem_of_mem_take member)

theorem fields?_of_decodeFlowGraph {strict : Bool} {payload : Bytes} {graph : FlowGraph}
    (returned : (decodeFlowGraph strict payload).1 = .ok graph) :
    ∃ fields, Wire.fields? 0 payload = some fields ∧ Wire.messages 2 fields ≠ [] := by
  obtain ⟨message, parsed, run⟩ := message_of_decodeFlowGraph returned
  simp only [parseFlowGraph, Option.bind_eq_bind, Option.bind_eq_some_iff, Option.pure_def,
    Option.some.injEq] at parsed
  obtain ⟨fields, read, blocks, blocksRead, edges, _, rfl⟩ := parsed
  refine ⟨fields, read, ?_⟩
  intro nothing
  rw [nothing, List.mapM_nil] at blocksRead
  cases blocksRead
  rw [run] at returned
  cases returned

/-- No flow graph is read from nothing. -/
theorem decodeFlowGraph_nil_ne_ok {strict : Bool} {graph : FlowGraph} :
    (decodeFlowGraph strict []).1 ≠ .ok graph := by
  intro returned
  obtain ⟨fields, read, blocks⟩ := fields?_of_decodeFlowGraph returned
  rw [Wire.fields?, Wire.fieldsWithin?] at read
  cases read
  exact blocks rfl

/-- A flow graph that is cut anywhere and can still be read is the original
without some of the last parts. -/
theorem isCutOf_of_decodeFlowGraph {graph found : FlowGraph} {payload : Bytes}
    (encoded : encodeFlowGraph graph = .ok payload) {strict : Bool} {size : Nat}
    (returned : (decodeFlowGraph strict (payload.take size)).1 = .ok found) :
    found.IsCutOf graph.canonical := by
  obtain ⟨encodable, rfl⟩ := encodeFlowGraph_eq_ok_iff.mp encoded
  obtain ⟨fields, read, blocks⟩ := fields?_of_decodeFlowGraph returned
  have within := withinLimit_of_fields? read
  obtain ⟨count, rfl, same⟩ := fields?_take (regular_flowGraphLayout encodable) read
  rw [same] at returned
  cases count with
  | zero => exact (blocks rfl).elim
  | succ count =>
      rw [← flowGraphLayout_cut] at returned blocks within
      have nonempty : graph.blocks.take count ≠ [] := by
        intro nothing
        have hollow : (graph.cut count).blocks = [] := nothing
        apply blocks
        rw [messages_eq]
        simp [flowGraphLayout, hollow]
      have stored := encodeFlowGraph_eq_ok_iff.mpr ⟨encodableFlowGraph_cut encodable nonempty, rfl⟩
      have limited := recordWithinLimit_of_layout (flowGraphFields_eq_ok_iff _) within
      have lenient := decodeFlowGraph_false_of_ok returned
      rw [decodeFlowGraph_lenient stored limited, FlowGraph.canonical_cut] at lenient
      obtain rfl := Except.ok.inj lenient
      apply FlowGraph.isCutOf_cut
      simpa [FlowGraph.canonical, ← List.map_take] using nonempty

/-- A whole flow graph that can be read at all is read as its canonical form. -/
theorem canonical_of_decodeFlowGraph {graph found : FlowGraph} {payload : Bytes}
    (encoded : encodeFlowGraph graph = .ok payload) {strict : Bool}
    (returned : (decodeFlowGraph strict payload).1 = .ok found) : found = graph.canonical := by
  have stored := encoded
  obtain ⟨encodable, rfl⟩ := encodeFlowGraph_eq_ok_iff.mp encoded
  obtain ⟨fields, read, _⟩ := fields?_of_decodeFlowGraph returned
  obtain rfl := fields?_eq_of_regular (regular_flowGraphLayout encodable) read
  have limited := recordWithinLimit_of_layout (flowGraphFields_eq_ok_iff graph)
    (withinLimit_of_fields? read)
  have lenient := decodeFlowGraph_false_of_ok returned
  rw [decodeFlowGraph_lenient stored limited] at lenient
  exact (Except.ok.inj lenient).symm

/-! ## Call graphs -/

theorem callGraphLayout_cut (graph : CallGraph) (count : Nat) :
    callGraphLayout (graph.cut count) = (callGraphLayout graph).take count := by
  simp [callGraphLayout, CallGraph.cut, List.take_append, List.map_take]

theorem encodableCallGraph_cut {graph : CallGraph} (encodable : EncodableCallGraph graph)
    (count : Nat) : EncodableCallGraph (graph.cut count) where
  vertices vertex member := encodable.vertices vertex (List.mem_of_mem_take member)
  edges edge member := encodable.edges edge (List.mem_of_mem_take member)

theorem fields?_of_decodeCallGraph {payload : Bytes} {graph : CallGraph}
    (returned : decodeCallGraph payload = .ok graph) :
    ∃ fields, Wire.fields? 0 payload = some fields := by
  unfold decodeCallGraph at returned
  cases parsed : parseCallGraph payload with
  | none =>
      rw [parsed] at returned
      cases returned
  | some message =>
      obtain ⟨fields, read, _⟩ := Option.bind_eq_some_iff.mp parsed
      exact ⟨fields, read⟩

/-- A call graph that is cut anywhere and can still be read is the original
without some of the last parts. -/
theorem isCutOf_of_decodeCallGraph {graph found : CallGraph} {payload : Bytes}
    (encoded : encodeCallGraph graph = .ok payload) {size : Nat}
    (returned : decodeCallGraph (payload.take size) = .ok found) : found.IsCutOf graph := by
  obtain ⟨encodable, rfl⟩ := encodeCallGraph_eq_ok_iff.mp encoded
  obtain ⟨fields, read⟩ := fields?_of_decodeCallGraph returned
  have within := withinLimit_of_fields? read
  obtain ⟨count, rfl, same⟩ := fields?_take (regular_callGraphLayout graph) read
  rw [same] at returned
  rw [← callGraphLayout_cut] at returned within
  have stored := encodeCallGraph_eq_ok_iff.mpr ⟨encodableCallGraph_cut encodable count, rfl⟩
  have limited := recordWithinLimit_of_layout (callGraphFields_eq_ok_iff _) within
  rw [decodeCallGraph_of_encoded stored limited] at returned
  obtain rfl := Except.ok.inj returned
  exact graph.isCutOf_cut count

/-- A whole call graph that can be read at all is read as it was. -/
theorem eq_of_decodeCallGraph {graph found : CallGraph} {payload : Bytes}
    (encoded : encodeCallGraph graph = .ok payload)
    (returned : decodeCallGraph payload = .ok found) : found = graph := by
  have stored := encoded
  obtain ⟨_, rfl⟩ := encodeCallGraph_eq_ok_iff.mp encoded
  obtain ⟨fields, read⟩ := fields?_of_decodeCallGraph returned
  obtain rfl := fields?_eq_of_regular (regular_callGraphLayout graph) read
  have limited := recordWithinLimit_of_layout (callGraphFields_eq_ok_iff graph)
    (withinLimit_of_fields? read)
  rw [decodeCallGraph_of_encoded stored limited] at returned
  exact (Except.ok.inj returned).symm

end Codec

end CodeGraph
