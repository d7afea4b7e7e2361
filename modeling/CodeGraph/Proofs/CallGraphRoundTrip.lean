import CodeGraph.Proofs.FieldValues
import Mathlib

/-!
# Call graphs survive writing and reading

The kind and the name mark of a vertex are always stored, so reading never
falls back on their defaults.  Calls may name functions without a vertex.
-/

namespace CodeGraph.Codec

open Sequencing
open Wire (Field)

/-! ## The stored form -/

def vertexLayout (vertex : CallGraph.Vertex) : List Field :=
  [numberField 1 vertex.address, numberField 2 vertex.prime, numberField 3 vertex.kind,
    truthField 4 vertex.hasRealName] ++
    optionalText 5 vertex.mangledName ++ optionalText 6 vertex.demangledName

def callLayout (edge : CallGraph.Edge) : List Field :=
  [numberField 1 edge.sourceFunction, numberField 2 edge.sourceInstruction,
    numberField 3 edge.target]

def callGraphLayout (graph : CallGraph) : List Field :=
  (graph.vertices.map fun vertex => messageField 1 (vertexLayout vertex)) ++
    graph.edges.map fun edge => messageField 2 (callLayout edge)

structure EncodableVertex (vertex : CallGraph.Vertex) : Prop where
  address : Fits 64 vertex.address
  prime : Fits 64 vertex.prime
  kind : 0 ≤ vertex.kind ∧ vertex.kind ≤ 4

structure EncodableCall (edge : CallGraph.Edge) : Prop where
  sourceFunction : Fits 64 edge.sourceFunction
  sourceInstruction : Fits 64 edge.sourceInstruction
  target : Fits 64 edge.target

structure EncodableCallGraph (graph : CallGraph) : Prop where
  vertices : ∀ vertex ∈ graph.vertices, EncodableVertex vertex
  edges : ∀ edge ∈ graph.edges, EncodableCall edge

theorem isFunctionKind_iff {code : Int} : isFunctionKind code = true ↔ 0 ≤ code ∧ code ≤ 4 := by
  have member : isFunctionKind code = true ↔
      0 = code ∨ 1 = code ∨ 2 = code ∨ 3 = code ∨ 4 = code := by
    simp [isFunctionKind, FunctionKind.ofCode?, FunctionKind.code]
  rw [member]
  omega

theorem vertexFields_eq_ok_iff (vertex : CallGraph.Vertex) (fields : List Field) :
    vertexFields vertex = .ok fields ↔ EncodableVertex vertex ∧ fields = vertexLayout vertex := by
  have inRange : ∀ code, isFunctionKind code = true → 0 ≤ code ∧ code < 0x80000000 := by
    intro code known
    have bounds := isFunctionKind_iff.mp known
    omega
  unfold vertexFields
  simp only [bind_eq_ok_iff, pure_eq_ok_iff, wordField_eq_ok_iff,
    enumeratorField_eq_ok_iff inRange, isFunctionKind_iff]
  constructor
  · intro accepted
    obtain ⟨_, ⟨address, rfl⟩, _, ⟨prime, rfl⟩, _, ⟨kind, rfl⟩, rfl⟩ := accepted
    exact ⟨⟨address, prime, kind⟩, rfl⟩
  · intro characterized
    obtain ⟨encodable, rfl⟩ := characterized
    exact ⟨_, ⟨encodable.address, rfl⟩, _, ⟨encodable.prime, rfl⟩, _, ⟨encodable.kind, rfl⟩, rfl⟩

theorem callFields_eq_ok_iff (edge : CallGraph.Edge) (fields : List Field) :
    callFields edge = .ok fields ↔ EncodableCall edge ∧ fields = callLayout edge := by
  unfold callFields
  simp only [bind_eq_ok_iff, pure_eq_ok_iff, wordField_eq_ok_iff]
  constructor
  · intro accepted
    obtain ⟨_, ⟨sourceFunction, rfl⟩, _, ⟨sourceInstruction, rfl⟩, _, ⟨target, rfl⟩, rfl⟩ :=
      accepted
    exact ⟨⟨sourceFunction, sourceInstruction, target⟩, rfl⟩
  · intro characterized
    obtain ⟨encodable, rfl⟩ := characterized
    exact ⟨_, ⟨encodable.sourceFunction, rfl⟩, _, ⟨encodable.sourceInstruction, rfl⟩,
      _, ⟨encodable.target, rfl⟩, rfl⟩

theorem callGraphFields_eq_ok_iff (graph : CallGraph) (fields : List Field) :
    callGraphFields graph = .ok fields ↔
      EncodableCallGraph graph ∧ fields = callGraphLayout graph := by
  unfold callGraphFields
  simp only [bind_eq_ok_iff, pure_eq_ok_iff, mapM_eq_ok_iff vertexFields_eq_ok_iff,
    mapM_eq_ok_iff callFields_eq_ok_iff]
  constructor
  · intro accepted
    obtain ⟨_, ⟨vertices, rfl⟩, _, ⟨edges, rfl⟩, rfl⟩ := accepted
    exact ⟨⟨vertices, edges⟩, by simp [callGraphLayout, Function.comp_def]⟩
  · intro characterized
    obtain ⟨encodable, rfl⟩ := characterized
    exact ⟨_, ⟨encodable.vertices, rfl⟩, _, ⟨encodable.edges, rfl⟩,
      by simp [callGraphLayout, Function.comp_def]⟩

theorem encodeCallGraph_eq (graph : CallGraph) :
    encodeCallGraph graph = ((callGraphFields graph).map Wire.encodeFields).mapError .callGraph := by
  unfold encodeCallGraph
  cases callGraphFields graph with
  | error error => rfl
  | ok fields => rfl

theorem encodeCallGraph_eq_ok_iff {graph : CallGraph} {payload : Bytes} :
    encodeCallGraph graph = .ok payload ↔
      EncodableCallGraph graph ∧ payload = Wire.encodeFields (callGraphLayout graph) := by
  rw [encodeCallGraph_eq]
  exact encoded_eq_ok_iff (callGraphFields_eq_ok_iff graph)

/-! ## Taking a stored call graph apart -/

theorem regular_vertexLayout {vertex : CallGraph.Vertex} (encodable : EncodableVertex vertex) :
    ∀ field ∈ vertexLayout vertex, Regular field := by
  have kind : Fits 32 vertex.kind := by
    have bounds := encodable.kind
    constructor
    · omega
    · norm_num
      omega
  simp only [vertexLayout, List.forall_mem_append, List.forall_mem_cons]
  exact ⟨⟨⟨regular_numberField encodable.address (by decide) (by decide),
    regular_numberField encodable.prime (by decide) (by decide),
    regular_numberField kind (by decide) (by decide), regular_truthField _ (by decide),
    by simp⟩, regular_optionalText _ (by decide)⟩, regular_optionalText _ (by decide)⟩

theorem regular_callLayout {edge : CallGraph.Edge} (encodable : EncodableCall edge) :
    ∀ field ∈ callLayout edge, Regular field := by
  simp only [callLayout, List.forall_mem_cons]
  exact ⟨regular_numberField encodable.sourceFunction (by decide) (by decide),
    regular_numberField encodable.sourceInstruction (by decide) (by decide),
    regular_numberField encodable.target (by decide) (by decide), by simp⟩

theorem regular_callGraphLayout (graph : CallGraph) :
    ∀ field ∈ callGraphLayout graph, Regular field := by
  simp only [callGraphLayout, List.forall_mem_append]
  exact ⟨regular_messages _ _ (by decide), regular_messages _ _ (by decide)⟩

def callGraphMessage (graph : CallGraph) : CallGraphMessage where
  vertices := graph.vertices.map vertexLayout
  edges := graph.edges.map callLayout

theorem parseCallGraph_layout {graph : CallGraph} (encodable : EncodableCallGraph graph)
    (within : ∀ field ∈ callGraphLayout graph, FieldWithinLimit field) :
    parseCallGraph (Wire.encodeFields (callGraphLayout graph)) = some (callGraphMessage graph) := by
  have fields := fields?_of_regular 0 (regular_callGraphLayout graph) within
  have vertexPayloads : Wire.messages 1 (callGraphLayout graph) =
      graph.vertices.map fun vertex => Wire.encodeFields (vertexLayout vertex) := by
    rw [messages_eq]
    simp [callGraphLayout]
  have edgePayloads : Wire.messages 2 (callGraphLayout graph) =
      graph.edges.map fun edge => Wire.encodeFields (callLayout edge) := by
    rw [messages_eq]
    simp [callGraphLayout]
  have vertices : (Wire.messages 1 (callGraphLayout graph)).mapM (Wire.fields? 1) =
      some (graph.vertices.map vertexLayout) := by
    rw [vertexPayloads, List.mapM_map]
    apply mapM_eq_some_of_forall
    intro vertex member
    have stored : messageField 1 (vertexLayout vertex) ∈ callGraphLayout graph :=
      List.mem_append_left _ (List.mem_map.mpr ⟨vertex, member, rfl⟩)
    exact fields?_of_regular 1 (regular_vertexLayout (encodable.vertices vertex member))
      (withinLimit_of_message (within _ stored))
  have edges : (Wire.messages 2 (callGraphLayout graph)).mapM (Wire.fields? 1) =
      some (graph.edges.map callLayout) := by
    rw [edgePayloads, List.mapM_map]
    apply mapM_eq_some_of_forall
    intro edge member
    have stored : messageField 2 (callLayout edge) ∈ callGraphLayout graph :=
      List.mem_append_right _ (List.mem_map.mpr ⟨edge, member, rfl⟩)
    exact fields?_of_regular 1 (regular_callLayout (encodable.edges edge member))
      (withinLimit_of_message (within _ stored))
  simp [parseCallGraph, fields, vertices, edges, callGraphMessage]

theorem missing_callGraphMessage (graph : CallGraph) : (callGraphMessage graph).missing = [] := by
  have vertices : ∀ item ∈ (graph.vertices.map vertexLayout).zipIdx,
      missingFields (elementPath "" "vertices" item.2)
        [("address", hasWord 1), ("prime", hasWord 2)] item.1 = [] := by
    intro item member
    obtain ⟨vertex, _, same⟩ := List.mem_map.mp (List.fst_mem_of_mem_zipIdx member)
    rw [← same]
    simp [missingFields, hasWord, word64?_eq, vertexLayout]
  have edges : ∀ item ∈ (graph.edges.map callLayout).zipIdx,
      missingFields (elementPath "" "edges" item.2)
        [("source_function_address", hasWord 1), ("source_instruction_address", hasWord 2),
          ("target_address", hasWord 3)] item.1 = [] := by
    intro item member
    obtain ⟨edge, _, same⟩ := List.mem_map.mp (List.fst_mem_of_mem_zipIdx member)
    rw [← same]
    simp [missingFields, hasWord, word64?_eq, callLayout]
  unfold CallGraphMessage.missing callGraphMessage
  rw [List.flatMap_eq_nil_iff.mpr vertices, List.flatMap_eq_nil_iff.mpr edges]
  rfl

/-! ## Reading -/

theorem vertexOfFields_layout {vertex : CallGraph.Vertex} (encodable : EncodableVertex vertex) :
    vertexOfFields (vertexLayout vertex) = .ok vertex := by
  have address : word 1 (vertexLayout vertex) = vertex.address.toNat := by
    simp [word, word64?_eq, vertexLayout]
  have prime : word 2 (vertexLayout vertex) = vertex.prime.toNat := by
    simp [word, word64?_eq, vertexLayout]
  have kind : Wire.enumerator? isFunctionKind 3 (vertexLayout vertex) = some vertex.kind := by
    have stored : numbersOf 3 (vertexLayout vertex) = [vertex.kind.toNat] := by
      simp [vertexLayout]
    have bounds := encodable.kind
    exact enumerator?_of_numbersOf stored (by omega) (by omega)
      (isFunctionKind_iff.mpr encodable.kind)
  have hasRealName : Wire.truth? 4 (vertexLayout vertex) = some vertex.hasRealName := by
    cases named : vertex.hasRealName <;> simp [Wire.truth?, word64?_eq, vertexLayout, named]
  have mangledName : Wire.bytes? 5 (vertexLayout vertex) =
      vertex.mangledName.map Utf8.encode := by
    simp [bytes?_eq, vertexLayout, getLast?_toList]
  have demangledName : Wire.bytes? 6 (vertexLayout vertex) =
      vertex.demangledName.map Utf8.encode := by
    simp [bytes?_eq, vertexLayout, getLast?_toList]
  unfold vertexOfFields
  rw [address, prime, kind, hasRealName, mangledName, demangledName, readOptionalText_encode,
    readOptionalText_encode, toNat_of_fits encodable.address, toNat_of_fits encodable.prime]
  rfl

theorem callOfFields_layout {edge : CallGraph.Edge} (encodable : EncodableCall edge) :
    callOfFields (callLayout edge) = edge := by
  have sourceFunction : word 1 (callLayout edge) = edge.sourceFunction.toNat := by
    simp [word, word64?_eq, callLayout]
  have sourceInstruction : word 2 (callLayout edge) = edge.sourceInstruction.toNat := by
    simp [word, word64?_eq, callLayout]
  have target : word 3 (callLayout edge) = edge.target.toNat := by
    simp [word, word64?_eq, callLayout]
  unfold callOfFields
  rw [sourceFunction, sourceInstruction, target, toNat_of_fits encodable.sourceFunction,
    toNat_of_fits encodable.sourceInstruction, toNat_of_fits encodable.target]

/-- A written call graph is read as it was. -/
theorem decodeCallGraph_of_encoded {graph : CallGraph} {payload : Bytes}
    (encoded : encodeCallGraph graph = .ok payload)
    (within : RecordWithinLimit (callGraphFields graph)) :
    decodeCallGraph payload = .ok graph := by
  obtain ⟨encodable, rfl⟩ := encodeCallGraph_eq_ok_iff.mp encoded
  have stored := (callGraphFields_eq_ok_iff graph _).mpr ⟨encodable, rfl⟩
  have vertices : (graph.vertices.map vertexLayout).mapM vertexOfFields =
      .ok graph.vertices := by
    have each : ∀ vertex ∈ graph.vertices,
        (vertexOfFields ∘ vertexLayout) vertex = .ok (id vertex) :=
      fun vertex member => vertexOfFields_layout (encodable.vertices vertex member)
    rw [List.mapM_map, mapM_eq_ok_of_forall each, List.map_id]
  have edges : (graph.edges.map callLayout).map callOfFields = graph.edges := by
    rw [List.map_map]
    apply map_eq_self_of_forall
    intro edge member
    exact callOfFields_layout (encodable.edges edge member)
  unfold decodeCallGraph
  rw [parseCallGraph_layout encodable (within _ stored)]
  simp only [missing_callGraphMessage, List.isEmpty_nil, if_true]
  unfold callGraphMessage
  rw [vertices, edges]
  rfl

end CodeGraph.Codec
