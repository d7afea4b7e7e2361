import CodeGraph.Proofs.AddressSearch
import CodeGraph.Proofs.CallGraphRoundTrip
import CodeGraph.Proofs.ContainerLayout
import CodeGraph.Proofs.MetadataRoundTrip
import CodeGraph.Proofs.ReaderSafety
import Mathlib

/-!
# Containers survive writing and reading

A container that was written is opened with the index that writing returned,
and every record comes back as it was given, by its place or by its address.
-/

namespace CodeGraph

namespace Container

open Sequencing

/-! ## Items -/

/-- An item stands for a flow graph: it is the record itself, or its encoding. -/
inductive Item.Represents : Item → FlowGraph → Prop
  | record (graph : FlowGraph) : Represents (.record graph) graph
  | encoded {graph : FlowGraph} {payload : Bytes}
      (written : Codec.encodeFlowGraph graph = .ok payload) :
      Represents (.encoded graph.address payload) graph

/-- What is written of a flow graph. -/
def WrittenAs (graph : FlowGraph) (flowGraph : Int × Bytes) : Prop :=
  flowGraph.1 = graph.address ∧ Codec.encodeFlowGraph graph = .ok flowGraph.2

theorem Item.Represents.writtenAs {item : Item} {graph : FlowGraph} {flowGraph : Int × Bytes}
    (represents : item.Represents graph) (encoded : item.encode = .ok flowGraph) :
    WrittenAs graph flowGraph := by
  cases represents with
  | record graph =>
      obtain ⟨payload, written, rfl⟩ := encode_record_eq_ok_iff.mp encoded
      exact ⟨rfl, written⟩
  | encoded written =>
      cases encoded
      exact ⟨rfl, written⟩

theorem forall₂_writtenAs {items : List Item} {graphs : List FlowGraph}
    {flowGraphs : List (Int × Bytes)} (represented : List.Forall₂ Item.Represents items graphs)
    (encoded : items.mapM Item.encode = .ok flowGraphs) :
    List.Forall₂ WrittenAs graphs flowGraphs := by
  induction represented generalizing flowGraphs with
  | nil =>
      obtain rfl := mapM_nil_eq_ok_iff.mp encoded
      exact .nil
  | cons represents _ induction =>
      obtain ⟨flowGraph, others, first, rest, rfl⟩ := mapM_cons_eq_ok_iff.mp encoded
      exact .cons (represents.writtenAs first) (induction rest)

theorem addresses_of_writtenAs {graphs : List FlowGraph} {flowGraphs : List (Int × Bytes)}
    (written : List.Forall₂ WrittenAs graphs flowGraphs) :
    flowGraphs.map Prod.fst = graphs.map (·.address) := by
  induction written with
  | nil => rfl
  | cons first _ induction => rw [List.map_cons, List.map_cons, first.1, induction]

theorem getElem?_of_writtenAs {graphs : List FlowGraph} {flowGraphs : List (Int × Bytes)}
    (written : List.Forall₂ WrittenAs graphs flowGraphs) {position : Nat} {graph : FlowGraph}
    (listed : graphs[position]? = some graph) :
    ∃ payload, flowGraphs[position]? = some (graph.address, payload) ∧
      Codec.encodeFlowGraph graph = .ok payload := by
  induction written generalizing position with
  | nil => cases listed
  | cons first rest induction =>
      cases position with
      | zero =>
          cases listed
          exact ⟨_, congrArg some (Prod.ext first.1 rfl), first.2⟩
      | succ position => exact induction listed

/-! ## Opening a written container -/

theorem le_offset_of_mem_entriesFrom {offset : Nat} {flowGraphs : List (Int × Bytes)}
    {entry : Entry} (member : entry ∈ entriesFrom offset flowGraphs) :
    (offset : Int) ≤ entry.offset := by
  induction flowGraphs generalizing offset with
  | nil => cases member
  | cons flowGraph rest induction =>
      rcases List.mem_cons.mp member with rfl | later
      · exact le_refl _
      · have further := induction later
        push_cast at further
        omega

namespace Contents

variable {contents : Contents} (packable : contents.index.Packable)
include packable

/-- The index and enough bytes for the metadata make a header that is trusted. -/
theorem trustedHeader_packed {rest : Bytes} (enough : contents.metadata.length ≤ rest.length) :
    TrustedHeader (contents.index.packed ++ rest) := by
  obtain ⟨header, stored⟩ := storedIndex_packed packable rest
  have headerLength : headerEnd (contents.index.packed ++ rest) = contents.headerLength := by
    rw [header, length_packed_index]
  have length : (contents.index.packed ++ rest).length = contents.headerLength + rest.length := by
    rw [List.length_append, length_packed_index]
  apply trustedHeader_iff.mpr
  refine ⟨?_, by omega, (), ?_⟩
  · rw [length, Contents.headerLength, preambleSize]
    omega
  · rw [stored, headerLength, length]
    apply checkOffsets_eq_ok_iff.mpr
    simp only [index]
    refine ⟨by omega, by omega, ?_⟩
    intro entry member
    have further := le_offset_of_mem_entriesFrom member
    push_cast at further
    omega

theorem ofStore_packed {store : Store} (faultless : store.faults = {}) {rest : Bytes}
    (holds : store.bytes = contents.index.packed ++ rest)
    (enough : contents.metadata.length ≤ rest.length) (strict : Bool) :
    Reader.ofStore store strict = .ok ⟨store, strict, store.bytes.length, contents.index⟩ := by
  apply (Reader.ofStore_eq_ok_iff faultless).mpr
  rw [holds]
  refine ⟨contents.trustedHeader_packed packable enough, ?_⟩
  rw [(storedIndex_packed packable rest).2]

theorem ofStore_bytes {store : Store} (faultless : store.faults = {})
    (holds : store.bytes = contents.bytes) (strict : Bool) :
    Reader.ofStore store strict = .ok (contents.reader store strict) := by
  have enough : contents.metadata.length ≤ contents.body.length := by
    simp only [body, List.length_append]
    omega
  have opened := contents.ofStore_packed packable faultless holds enough strict
  rw [holds] at opened
  exact opened

end Contents

/-! ## Reading the records -/

section Records

variable {contents : Contents} {store : Store} (faultless : store.faults = {})
  (holds : store.bytes = contents.bytes)
include faultless holds

theorem metadata_of_written {metadata : Meta} (strict : Bool)
    (encoded : Codec.encodeMetadata metadata = .ok contents.metadata)
    (within : Codec.RecordWithinLimit (Codec.metadataFields metadata)) :
    (contents.reader store strict).metadata = .ok metadata := by
  have place : (contents.reader store strict).index.metaOffset =
      ((contents.headerLength + (payloadsOf []).length : Nat) : Int) := rfl
  unfold Reader.metadata
  simp only [place]
  rw [Contents.recordBytes_of_split contents.records_metadata faultless holds, ok_bind,
    Codec.decodeMetadata_of_encoded encoded within, ok_mapError]

theorem callGraph_of_written {callGraph : CallGraph} (strict : Bool)
    (encoded : Codec.encodeCallGraph callGraph = .ok contents.callGraph)
    (within : Codec.RecordWithinLimit (Codec.callGraphFields callGraph)) :
    (contents.reader store strict).callGraph = .ok callGraph := by
  have place : (contents.reader store strict).index.callGraphOffset = _ :=
    contents.callGraphOffset_index
  unfold Reader.callGraph
  simp only [place]
  rw [Contents.recordBytes_of_split contents.records_callGraph faultless holds, ok_bind,
    Codec.decodeCallGraph_of_encoded encoded within, ok_mapError]

theorem flowGraphAt_of_written {graph : FlowGraph} {strict : Bool} {position : Nat}
    {payload : Bytes} (listed : contents.flowGraphs[position]? = some (graph.address, payload))
    (encoded : Codec.encodeFlowGraph graph = .ok payload)
    (within : Codec.RecordWithinLimit (Codec.flowGraphFields graph))
    (keeps : graph.KeepsOperands strict) :
    ((contents.reader store strict).flowGraphAt position).1 = .ok graph := by
  obtain ⟨front, rest, split, indexed⟩ := Contents.flowGraph_of_getElem? listed
  have decoded := Codec.decodeFlowGraph_of_keepsOperands encoded within keeps
  rw [Reader.flowGraphAt_of_getElem? indexed, Reader.flowGraphOfEntry]
  simp only [Contents.recordBytes_of_split split faultless holds]
  cases outcome : Codec.decodeFlowGraph strict payload with
  | mk result warnings =>
      have succeeded : result = .ok graph := by simpa [outcome] using decoded
      subst succeeded
      have sameMarkup : (contents.reader store strict).strict = strict := rfl
      rw [sameMarkup, outcome]
      simp only [if_true]

end Records

theorem Contents.addresses_reader (contents : Contents) (store : Store) (strict : Bool) :
    (contents.reader store strict).addresses = contents.addresses := by
  unfold Reader.addresses
  exact addresses_entriesFrom _ contents.flowGraphs

/-- Entry addresses are distinct, so that of a flow graph leads to it. -/
theorem flowGraphFor_of_written {contents : Contents} {graphs : List FlowGraph}
    (written : List.Forall₂ WrittenAs graphs contents.flowGraphs)
    (distinct : contents.addresses.Nodup) (store : Store) (strict : Bool) {position : Nat}
    {graph : FlowGraph} (listed : graphs[position]? = some graph) :
    (contents.reader store strict).flowGraphFor graph.address =
      (contents.reader store strict).flowGraphAt position := by
  have addresses : contents.addresses = graphs.map (·.address) := addresses_of_writtenAs written
  have here : contents.addresses[position]? = some graph.address := by
    rw [addresses, List.getElem?_map, listed, Option.map_some]
  apply Reader.flowGraphFor_of_nodup
  · rw [contents.addresses_reader]
    exact distinct
  · rw [contents.addresses_reader]
    exact here

/-! ## A small container -/

/-- A flow graph of one instruction. -/
def oneInstruction (address : Int) (operands : Option (List Markup.Run)) (raw : Option String) :
    FlowGraph where
  address
  blocks := [{
    prime := 1
    instructions := [{ address, prime := 1, operands, rawOperands := raw }] }]
  edges := []

theorem encodeFlowGraph_oneInstruction {address : Int} {operands : Option (List Markup.Run)}
    {raw : Option String} (fits : Codec.Fits 64 address)
    (formed : ∀ runs, operands = some runs → Markup.WellFormed runs) :
    Codec.encodeFlowGraph (oneInstruction address operands raw) =
      .ok (Wire.encodeFields (Codec.flowGraphLayout (oneInstruction address operands raw))) := by
  apply Codec.encodeFlowGraph_eq_ok_iff.mpr
  refine ⟨⟨fits, by simp [oneInstruction], by simp [oneInstruction], ?_, ?_⟩, rfl⟩
  · intro block member
    obtain rfl := List.mem_singleton.mp member
    refine ⟨by simp [Codec.Fits], ?_⟩
    intro instruction found
    obtain rfl := List.mem_singleton.mp found
    exact ⟨fits, by simp [Codec.Fits], by simp [Codec.Fits], formed, by simp, by simp⟩
  · intro edge member
    cases member

/-- Its text has an unknown marker. -/
def brokenTextFlowGraph : FlowGraph := oneInstruction 0x20 none (some "\x1beax")

def registerFlowGraph : FlowGraph := oneInstruction 0x10 (some [.ofKind .register "eax"]) none

def brokenTextPayload : Bytes := Wire.encodeFields (Codec.flowGraphLayout brokenTextFlowGraph)

def registerPayload : Bytes := Wire.encodeFields (Codec.flowGraphLayout registerFlowGraph)

theorem encode_brokenTextFlowGraph :
    Codec.encodeFlowGraph brokenTextFlowGraph = .ok brokenTextPayload :=
  encodeFlowGraph_oneInstruction (by norm_num [Codec.Fits]) (by simp)

theorem encode_registerFlowGraph :
    Codec.encodeFlowGraph registerFlowGraph = .ok registerPayload := by
  have plain : Markup.Run.Plain (.ofKind .register "eax") := by
    simp [Markup.Run.Plain, Markup.Run.ofKind, Markup.Reserved]
  apply encodeFlowGraph_oneInstruction (by norm_num [Codec.Fits])
  intro runs same
  obtain rfl := Option.some.inj same
  exact ⟨⟨plain, .inl ⟨5, by decide, rfl⟩⟩, by simp⟩

theorem length_brokenTextPayload : brokenTextPayload.length = 18 := by cbv

theorem length_registerPayload : registerPayload.length = 18 := by cbv

theorem keepsOperands_brokenTextFlowGraph : brokenTextFlowGraph.KeepsOperands false := by
  have unsplit : Markup.decode "\x1beax" = .error (.unknownMarker '\x1b' 0) := by rfl
  intro block member instruction found
  obtain rfl := List.mem_singleton.mp member
  obtain rfl := List.mem_singleton.mp found
  exact .inr ⟨rfl, rfl, _, _, rfl, unsplit⟩

theorem keepsOperands_registerFlowGraph : registerFlowGraph.KeepsOperands false := by
  intro block member instruction found
  obtain rfl := List.mem_singleton.mp member
  obtain rfl := List.mem_singleton.mp found
  exact .inl rfl

/-- A flow graph as it is and one encoded ahead, which has the smaller address. -/
def descendingSource : Source where
  items := [.record brokenTextFlowGraph, .encoded 0x10 registerPayload]

theorem write_descendingSource :
    ∃ index after,
      write (fun _ => none) {} {} descendingSource { bytes := [] } = (.ok index, after) := by
  have items : descendingSource.items.mapM Item.encode =
      .ok [(0x20, brokenTextPayload), (0x10, registerPayload)] := by
    apply mapM_cons_eq_ok_iff.mpr
    refine ⟨_, _, encode_record_eq_ok_iff.mpr ⟨_, encode_brokenTextFlowGraph, rfl⟩, ?_, rfl⟩
    apply mapM_cons_eq_ok_iff.mpr
    exact ⟨_, [], rfl, mapM_nil_eq_ok_iff.mpr rfl, rfl⟩
  have fits : ∀ address payload, .encoded address payload ∈ descendingSource.items →
      Codec.Fits 64 address := by
    intro address payload member
    obtain ⟨rfl, _⟩ : address = 0x10 ∧ payload = registerPayload := by
      simpa [descendingSource] using member
    norm_num [Codec.Fits]
  have offsets : (⟨[], [], [(0x20, brokenTextPayload), (0x10, registerPayload)]⟩ :
      Contents).WithinOffsets := by
    apply Contents.withinOffsets_iff.mpr
    refine ⟨by decide, ?_⟩
    simp [Contents.index, entriesFrom, length_brokenTextPayload, Contents.headerLength]
  exact exists_write rfl (fun _ => rfl) fits ⟨rfl, rfl, items⟩ (.inr ⟨rfl, rfl⟩) (by decide) offsets

/-! ## The round trip -/

/-- What was written is read back, whatever the position of the reading store. -/
theorem container_roundTrip (listener : Listener) (metadata : Meta) (callGraph : CallGraph)
    (source : Source) (graphs : List FlowGraph) (strict : Bool)
    (represented : List.Forall₂ Item.Represents source.items graphs)
    (keeps : ∀ graph ∈ graphs, graph.KeepsOperands strict)
    (metadataWithin : Codec.RecordWithinLimit (Codec.metadataFields metadata))
    (callGraphWithin : Codec.RecordWithinLimit (Codec.callGraphFields callGraph))
    (graphsWithin : ∀ graph ∈ graphs, Codec.RecordWithinLimit (Codec.flowGraphFields graph))
    {index : Index} {after : Progress Store}
    (written : write listener metadata callGraph source { bytes := [] } = (.ok index, after))
    (position : Nat) :
    ∃ reader, Reader.ofStore { bytes := after.store.bytes, position } strict = .ok reader ∧
      reader.index = index ∧ reader.metadata = .ok metadata ∧ reader.callGraph = .ok callGraph ∧
      reader.addresses = graphs.map (·.address) ∧
      (∀ (place : Nat) graph, graphs[place]? = some graph →
        (reader.flowGraphAt place).1 = .ok graph) ∧
      ∀ graph ∈ graphs, (reader.flowGraphFor graph.address).1 = .ok graph := by
  obtain ⟨contents, encoded, _, distinct, _, packable, _, rfl, rfl⟩ :=
    (write_eq_ok_iff rfl).mp written
  have holds : (Store.holding { bytes := [] } (contents.index.packed ++ contents.body)).bytes =
      contents.bytes := by
    simp [Store.holding, Contents.bytes]
  have parts := forall₂_writtenAs represented encoded.flowGraphs
  rw [holds]
  have opened : Reader.ofStore { bytes := contents.bytes, position } strict =
      .ok (contents.reader { bytes := contents.bytes, position } strict) :=
    Contents.ofStore_bytes packable rfl rfl strict
  have readAt : ∀ (place : Nat) graph, graphs[place]? = some graph →
      ((contents.reader { bytes := contents.bytes, position } strict).flowGraphAt place).1 =
        .ok graph := by
    intro place graph listed
    obtain ⟨payload, item, encodedGraph⟩ := getElem?_of_writtenAs parts listed
    have member := List.mem_of_getElem? listed
    exact flowGraphAt_of_written rfl rfl item encodedGraph (graphsWithin graph member)
      (keeps graph member)
  refine ⟨_, opened, rfl, metadata_of_written rfl rfl strict encoded.metadata metadataWithin,
    callGraph_of_written rfl rfl strict encoded.callGraph callGraphWithin, ?_, readAt, ?_⟩
  · rw [contents.addresses_reader]
    exact addresses_of_writtenAs parts
  · intro graph member
    obtain ⟨place, listed⟩ := List.mem_iff_getElem?.mp member
    rw [flowGraphFor_of_written parts distinct _ strict listed]
    exact readAt place graph listed

/-- Also with empty records ahead, which start where others do. -/
theorem descendingSource_roundTrip :
    ∃ index after reader,
      write (fun _ => none) {} {} descendingSource { bytes := [] } = (.ok index, after) ∧
        Reader.ofStore { bytes := after.store.bytes } false = .ok reader ∧
          reader.index = index ∧ reader.metadata = .ok {} ∧ reader.callGraph = .ok {} ∧
            (reader.flowGraphAt 0).1 = .ok brokenTextFlowGraph ∧
              (reader.flowGraphFor 0x10).1 = .ok registerFlowGraph := by
  have represented : List.Forall₂ Item.Represents descendingSource.items
      [brokenTextFlowGraph, registerFlowGraph] :=
    .cons (.record _) (.cons (.encoded encode_registerFlowGraph) .nil)
  have keeps : ∀ graph ∈ [brokenTextFlowGraph, registerFlowGraph], graph.KeepsOperands false := by
    simp [keepsOperands_brokenTextFlowGraph, keepsOperands_registerFlowGraph]
  have noMetadata : Codec.RecordWithinLimit (Codec.metadataFields {}) := by
    intro stored fields
    cases fields
    exact Codec.withinLimit_of_length (by decide)
  have noCallGraph : Codec.RecordWithinLimit (Codec.callGraphFields {}) := by
    intro stored fields
    cases fields
    exact Codec.withinLimit_of_length (by decide)
  have short : ∀ graph ∈ [brokenTextFlowGraph, registerFlowGraph],
      Codec.RecordWithinLimit (Codec.flowGraphFields graph) := by
    simp only [List.forall_mem_cons]
    refine ⟨?_, ?_, by simp⟩
    · apply Codec.recordWithinLimit_of_encoded encode_brokenTextFlowGraph
      rw [length_brokenTextPayload]
      omega
    · apply Codec.recordWithinLimit_of_encoded encode_registerFlowGraph
      rw [length_registerPayload]
      omega
  obtain ⟨index, after, written⟩ := write_descendingSource
  obtain ⟨reader, opened, sameIndex, metadata, callGraph, _, byPlace, byAddress⟩ :=
    container_roundTrip (fun _ => none) {} {} descendingSource _ false represented keeps
      noMetadata noCallGraph short written 0
  exact ⟨index, after, reader, written, opened, sameIndex, metadata, callGraph,
    byPlace 0 _ rfl, byAddress registerFlowGraph (by simp)⟩

end Container

end CodeGraph
