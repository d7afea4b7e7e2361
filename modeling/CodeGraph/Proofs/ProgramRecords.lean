import CodeGraph.Proofs.ContainerRoundTrip
import CodeGraph.Proofs.ProgramOrder
import CodeGraph.Proofs.RecordChecks
import CodeGraph.Proofs.StrictReading
import Mathlib

/-!
# The container of a program

The metadata, the call graph and the flow graphs of a program are made in
separate passes over it, and agree with each other.  So once they are written
and read back, nothing is reported on them but the calls whose source is no
function of the program.
-/

namespace CodeGraph

namespace Container

theorem offset_le_of_mem_entriesFrom {offset : Nat} {flowGraphs : List (Int × Bytes)}
    {entry : Entry} (member : entry ∈ entriesFrom offset flowGraphs) :
    entry.offset ≤ (offset + (joined flowGraphs).length : Nat) := by
  induction flowGraphs generalizing offset with
  | nil => cases member
  | cons flowGraph rest induction =>
      have length : (joined (flowGraph :: rest)).length =
          flowGraph.2.length + (joined rest).length := by simp [joined]
      rcases List.mem_cons.mp member with rfl | later
      · simp only
        omega
      · have further := induction later
        omega

end Container

namespace Disassembly

open Container (Count Index Listener Progress Reader Source Store)

/-! ## Flow graphs -/

theorem Function.length_blocks_flowGraph (function : Function) :
    function.flowGraph.blocks.length = function.blocks.length := by
  rw [Function.flowGraph, List.length_map, function.sortedBlocks_perm.length_eq]

theorem Function.numInstructions_flowGraph (function : Function) :
    function.flowGraph.numInstructions = (function.blocks.flatMap (·.instructions)).length := by
  have lengths := function.sortedBlocks_perm.map (·.instructions.length)
  rw [FlowGraph.numInstructions, Function.flowGraph, List.map_map, List.length_flatMap,
    ← lengths.sum_eq, List.sum_eq_foldr]
  simp [Function.comp_def, Block.record]

/-- Operand runs are not kept as raw text, so strict reading returns them too. -/
theorem Function.keepsOperands_flowGraph (function : Function) (strict : Bool) :
    function.flowGraph.KeepsOperands strict := by
  intro block member instruction found
  obtain ⟨source, _, rfl⟩ := List.mem_map.mp member
  obtain ⟨insn, _, rfl⟩ := List.mem_map.mp found
  exact .inl rfl

theorem Function.isExported_iff {function : Function} :
    function.isExported = true ↔
      (function.kind = FunctionKind.normal.code ∨ function.kind = FunctionKind.thunk.code) ∧
        function.blocks ≠ [] := by
  simp [Function.isExported]

namespace Program

variable {program : Program}

theorem mem_exported_iff {function : Function} :
    function ∈ program.exported ↔ function ∈ program.functions ∧ function.isExported = true := by
  rw [exported, List.mem_filter, program.sortedFunctions_perm.mem_iff]

theorem length_flowGraphs (program : Program) :
    program.flowGraphs.length = program.functions.countP (·.isExported) := by
  rw [flowGraphs, List.length_map, exported, ← List.countP_eq_length_filter,
    program.sortedFunctions_perm.countP_eq]

/-! ## Counts -/

/-- Every count of the metadata is the one of the flow graphs. -/
theorem declared_metadata (program : Program) (addressSpace : Option Int) (count : Count) :
    count.declared (program.metadata addressSpace) =
      some (count.actual program.flowGraphs.length program.flowGraphs : Int) := by
  cases count with
  | functions => simp [Count.declared, Count.actual, metadata, counts, flowGraphs]
  | basicBlocks =>
      have lengths : program.flowGraphs.map (·.blocks.length) =
          program.exported.map (·.blocks.length) := by
        rw [flowGraphs, List.map_map]
        exact List.map_congr_left fun function _ => function.length_blocks_flowGraph
      simp only [Count.declared, Count.actual, metadata, counts, lengths, List.length_flatMap,
        List.sum_eq_foldr]
  | instructions =>
      have lengths : program.flowGraphs.map (·.numInstructions) =
          program.exported.map fun function =>
            (function.blocks.flatMap (·.instructions)).length := by
        rw [flowGraphs, List.map_map]
        exact List.map_congr_left fun function _ => function.numInstructions_flowGraph
      simp only [Count.declared, Count.actual, metadata, counts, lengths, List.flatMap_assoc,
        List.length_flatMap, List.sum_eq_foldr]
  | edges =>
      have lengths : program.flowGraphs.map (·.edges.length) =
          program.exported.map (·.branches.length) := by
        rw [flowGraphs, List.map_map]
        rfl
      simp only [Count.declared, Count.actual, metadata, counts, lengths]

/-! ## Vertices -/

theorem addresses_callGraph_perm (program : Program) :
    (program.callGraph.vertices.map (·.address)).Perm (program.functions.map (·.address)) := by
  rw [callGraph, List.map_map]
  exact program.sortedFunctions_perm.map _

theorem addresses_flowGraphs (program : Program) :
    program.flowGraphs.map (·.address) = program.exported.map (·.address) := by
  rw [flowGraphs, List.map_map]
  rfl

/-- A flow graph belongs to the vertex of its function, which is a normal one
or a thunk. -/
theorem hasBodiedVertex_flowGraphs (distinct : (program.functions.map (·.address)).Nodup) :
    ∀ graph ∈ program.flowGraphs, Container.HasBodiedVertex program.callGraph graph := by
  have vertices : (program.callGraph.vertices.map (·.address)).Nodup :=
    program.addresses_callGraph_perm.nodup_iff.mpr distinct
  intro graph member
  obtain ⟨function, listed, rfl⟩ := List.mem_map.mp member
  obtain ⟨inside, exported⟩ := mem_exported_iff.mp listed
  have vertex : function.vertex ∈ program.callGraph.vertices :=
    List.mem_map_of_mem (program.sortedFunctions_perm.mem_iff.mpr inside)
  refine ⟨function.vertex, Container.lastVertex?_of_mem vertices vertex, ?_⟩
  have different : ∀ kind ∈ Container.bodyless,
      kind.code ≠ FunctionKind.normal.code ∧ kind.code ≠ FunctionKind.thunk.code := by decide
  intro kind bodyless same
  rcases (Function.isExported_iff.mp exported).1 with normal | thunk
  · exact (different kind bodyless).1 (same.trans normal)
  · exact (different kind bodyless).2 (same.trans thunk)

/-- The calls whose source is no function of the program. -/
def strayCalls (program : Program) : List CallGraph.Edge :=
  program.calls.filter fun call =>
    decide (∀ function ∈ program.functions, function.address ≠ call.sourceFunction)

theorem unknownCallers_callGraph (program : Program) :
    Container.unknownCallers program.callGraph = program.strayCalls.map .unknownCaller := by
  unfold Container.unknownCallers strayCalls
  congr 1
  apply List.filter_congr
  intro call _
  have known : program.callGraph.vertices.any (·.address == call.sourceFunction) =
      program.functions.any (·.address == call.sourceFunction) := by
    rw [callGraph, List.any_map]
    exact program.sortedFunctions_perm.any_eq
  rw [known, Bool.eq_iff_iff]
  simp

/-! ## Writing -/

/-- No length in the records of the program reaches the limit for lengths. -/
structure WithinLimits (program : Program) (addressSpace : Option Int) : Prop where
  metadata : Codec.RecordWithinLimit (Codec.metadataFields (program.metadata addressSpace))
  callGraph : Codec.RecordWithinLimit (Codec.callGraphFields program.callGraph)
  flowGraphs : ∀ graph ∈ program.flowGraphs,
    Codec.RecordWithinLimit (Codec.flowGraphFields graph)

/-- What is stored of the program. -/
def contents (program : Program) (addressSpace : Option Int) : Container.Contents where
  metadata := Wire.encodeFields (Codec.metadataLayout (program.metadata addressSpace))
  callGraph := Wire.encodeFields (Codec.callGraphLayout program.callGraph)
  flowGraphs := program.flowGraphs.map fun graph =>
    (graph.address, Wire.encodeFields (Codec.flowGraphLayout graph))

/-- All records of the program can be stored. -/
structure Encodable (program : Program) (addressSpace : Option Int) : Prop where
  metadata : Codec.EncodableMetadata (program.metadata addressSpace)
  callGraph : Codec.EncodableCallGraph program.callGraph
  flowGraphs : ∀ graph ∈ program.flowGraphs, Codec.EncodableFlowGraph graph

section Writing

variable {addressSpace : Option Int}

theorem withinLimits_of_short
    (short : (program.contents addressSpace).bytes.length < 0x80000000) :
    program.WithinLimits addressSpace := by
  simp only [contents, Container.Contents.bytes, Container.Contents.body,
    List.length_append] at short
  refine ⟨?_, ?_, ?_⟩
  · exact Codec.recordWithinLimit_of_layout (Codec.metadataFields_eq_ok_iff _)
      (Codec.withinLimit_of_length (by omega))
  · exact Codec.recordWithinLimit_of_layout (Codec.callGraphFields_eq_ok_iff _)
      (Codec.withinLimit_of_length (by omega))
  · intro graph member
    have part : (Wire.encodeFields (Codec.flowGraphLayout graph)).length ≤
        (Container.joined (program.contents addressSpace).flowGraphs).length := by
      apply List.Sublist.length_le
      exact List.sublist_flatten_of_mem (List.mem_map.mpr
        ⟨_, List.mem_map.mpr ⟨graph, member, rfl⟩, rfl⟩)
    simp only [contents] at part
    exact Codec.recordWithinLimit_of_layout (Codec.flowGraphFields_eq_ok_iff _)
      (Codec.withinLimit_of_length (by omega))

theorem encoded_contents (encodable : program.Encodable addressSpace) :
    Container.Encoded (program.metadata addressSpace) program.callGraph
      (program.flowGraphs.map .record) (program.contents addressSpace) := by
  refine ⟨Codec.encodeMetadata_eq_ok_iff.mpr ⟨encodable.metadata, rfl⟩,
    Codec.encodeCallGraph_eq_ok_iff.mpr ⟨encodable.callGraph, rfl⟩, ?_⟩
  have written : ∀ graph ∈ program.flowGraphs, Container.Item.encode (.record graph) =
      .ok (graph.address, Wire.encodeFields (Codec.flowGraphLayout graph)) := by
    intro graph member
    apply Container.encode_record_eq_ok_iff.mpr
    exact ⟨_, Codec.encodeFlowGraph_eq_ok_iff.mpr ⟨encodable.flowGraphs graph member, rfl⟩, rfl⟩
  rw [List.mapM_map]
  exact Sequencing.mapM_eq_ok_of_forall written

/-- A program whose records can be stored in less than the limit for lengths is
written. -/
theorem exists_write (distinct : (program.functions.map (·.address)).Nodup)
    (encodable : program.Encodable addressSpace)
    (short : (program.contents addressSpace).bytes.length < 0x80000000) :
    ∃ index after, Container.write (fun _ => none) (program.metadata addressSpace)
      program.callGraph { items := program.flowGraphs.map .record } { bytes := [] } =
        (.ok index, after) := by
  have addresses :
      (program.contents addressSpace).addresses = program.exported.map (·.address) := by
    rw [← addresses_flowGraphs, Container.Contents.addresses, contents, List.map_map]
    rfl
  have exported : (program.exported.map (·.address)).Nodup := by
    have sorted : (program.sortedFunctions.map (·.address)).Nodup :=
      (program.sortedFunctions_perm.map _).nodup_iff.mpr distinct
    exact sorted.sublist (List.filter_sublist.map _)
  have within : (program.contents addressSpace).WithinOffsets := by
    simp only [Container.Contents.bytes, Container.Contents.body, List.length_append,
      Container.Contents.length_packed_index] at short
    apply Container.Contents.withinOffsets_iff.mpr
    refine ⟨?_, ?_⟩
    · rw [Container.maxOffset]
      omega
    · intro entry member
      have bound := Container.offset_le_of_mem_entriesFrom member
      omega
  refine Container.exists_write rfl (fun _ => rfl) ?_ (encoded_contents encodable)
    (.inr ⟨rfl, rfl⟩) (addresses ▸ exported) within
  intro address payload member
  simp at member

end Writing

/-! ## Reading -/

/-- A reader of the container returns the records of the program. -/
structure ReadBack (program : Program) (addressSpace : Option Int) (reader : Reader) : Prop where
  metadata : reader.metadata = .ok (program.metadata addressSpace)
  callGraph : reader.callGraph = .ok program.callGraph
  flowGraphs : reader.flowGraphs.1 = program.flowGraphs ∧ reader.flowGraphs.2.1 = none
  bodies : (Container.readBodies reader (List.range reader.count)).1 =
    .ok (program.flowGraphs.map .ok)

theorem readBack_of_written {listener : Listener} {source : Source} {index : Index}
    {after : Progress Store} {addressSpace : Option Int}
    (within : program.WithinLimits addressSpace)
    (items : source.items = program.flowGraphs.map .record)
    (written : Container.write listener (program.metadata addressSpace) program.callGraph source
      { bytes := [] } = (.ok index, after)) (position : Nat) (strict : Bool) :
    ∃ reader, Reader.ofStore { bytes := after.store.bytes, position } strict = .ok reader ∧
      reader.strict = strict ∧ program.ReadBack addressSpace reader := by
  obtain ⟨contents, encoded, _, _, _, packable, _, rfl, rfl⟩ :=
    (Container.write_eq_ok_iff rfl).mp written
  have holds : (Store.holding { bytes := [] } (contents.index.packed ++ contents.body)).bytes =
      contents.bytes := by
    simp [Store.holding, Container.Contents.bytes]
  have represented : List.Forall₂ Container.Item.Represents source.items program.flowGraphs := by
    rw [items, List.forall₂_map_left_iff]
    exact List.forall₂_same.mpr fun graph _ => .record graph
  have parts := Container.forall₂_writtenAs represented encoded.flowGraphs
  rw [holds]
  have opened : Reader.ofStore { bytes := contents.bytes, position } strict =
      .ok (contents.reader { bytes := contents.bytes, position } strict) :=
    Container.Contents.ofStore_bytes packable rfl rfl strict
  have count : (contents.reader { bytes := contents.bytes, position } strict).count =
      program.flowGraphs.length := by
    have entries : (contents.reader { bytes := contents.bytes, position } strict).count =
        contents.flowGraphs.length := Container.length_entriesFrom _ _
    rw [entries, parts.length_eq]
  have read : List.Forall₂ (fun (place : Nat) graph =>
      ((contents.reader { bytes := contents.bytes, position } strict).flowGraphAt place).1 =
        .ok graph) (List.range program.flowGraphs.length) program.flowGraphs := by
    apply Container.forall₂_range_of_getElem?
    intro place graph listed
    obtain ⟨payload, item, encodedGraph⟩ := Container.getElem?_of_writtenAs parts listed
    have member := List.mem_of_getElem? listed
    obtain ⟨function, _, rfl⟩ := List.mem_map.mp member
    exact Container.flowGraphAt_of_written rfl rfl item encodedGraph
      (within.flowGraphs _ member) (function.keepsOperands_flowGraph strict)
  refine ⟨_, opened, rfl, ?_, ?_, ?_, ?_⟩
  · exact Container.metadata_of_written rfl rfl strict encoded.metadata within.metadata
  · exact Container.callGraph_of_written rfl rfl strict encoded.callGraph within.callGraph
  · rw [Reader.flowGraphs, count]
    exact Container.flowGraphsAt_of_forall₂ read
  · rw [count]
    exact Container.readBodies_of_forall₂ read

/-- What is reported on the container of a program. -/
theorem ReadBack.validate_eq {addressSpace : Option Int} {reader : Reader}
    (readBack : program.ReadBack addressSpace reader)
    (distinct : (program.functions.map (·.address)).Nodup) :
    (Container.validate reader).1 =
      .ok { faults := program.strayCalls.map .unknownCaller, concerns := [],
            checked := program.flowGraphs.length } := by
  have vertices : (program.callGraph.vertices.map (·.address)).Nodup :=
    program.addresses_callGraph_perm.nodup_iff.mpr distinct
  rw [Container.validate_of_readable readBack.metadata readBack.callGraph readBack.bodies,
    Container.reportOn_of_agreeing vertices (hasBodiedVertex_flowGraphs distinct)
      (program.declared_metadata addressSpace), unknownCallers_callGraph]

end Program

/-! ## A small program -/

/-- A call to an import, and one that no function makes. -/
def callingProgram : Program where
  name := "a"
  inputHash := [0x61]
  architecture := "x86-64"
  functions := [
    { address := 0x10
      blocks := [⟨0x10, [{ address := 0x10, mnemonic := "call", callTargets := [0x30] }]⟩] },
    { address := 0x30, kind := FunctionKind.imported.code }]
  calls := [⟨0x10, 0x10, 0x30⟩, ⟨0x20, 0x20, 0x10⟩]

theorem sortedFunctions_callingProgram :
    callingProgram.sortedFunctions = callingProgram.functions :=
  List.mergeSort_of_pairwise (by decide)

theorem exported_callingProgram : callingProgram.exported = [callingProgram.functions[0]] := by
  rw [Program.exported, sortedFunctions_callingProgram]
  rfl

theorem mnemonicPrime_call : Signature.mnemonicPrime (Utf8.encode "call") = 3495168731 := by
  decide +kernel

theorem flowGraphs_callingProgram : callingProgram.flowGraphs = [{
    address := 0x10
    blocks := [{
      prime := 3495168731
      instructions := [
        { address := 0x10, prime := 3495168731, mnemonic := some "call", callTargets := [0x30] }] }]
    edges := [] }] := by
  rw [Program.flowGraphs, exported_callingProgram]
  simp [callingProgram, Function.flowGraph, Function.sortedBlocks, Block.record, Insn.record,
    stringReference, primeOfMnemonics, Signature.additivePrime, mnemonicPrime_call,
    Signature.words64]

theorem callGraph_callingProgram : callingProgram.callGraph = {
    vertices := [
      { address := 0x10, prime := 3495168731 },
      { address := 0x30, prime := 0, kind := FunctionKind.imported.code }]
    edges := [⟨0x10, 0x10, 0x30⟩, ⟨0x20, 0x20, 0x10⟩] } := by
  rw [Program.callGraph, sortedFunctions_callingProgram]
  simp [callingProgram, Function.vertex, Function.mnemonics, primeOfMnemonics,
    Signature.additivePrime, mnemonicPrime_call, Signature.words64]

theorem metadata_callingProgram : callingProgram.metadata none = {
    inputBinary := some "a"
    inputHash := some [0x61]
    addressSpace := some 64
    architecture := some "x86-64"
    maxMnemonicLength := some 4
    numInstructions := some 1
    numFunctions := some 1
    numBasicBlocks := some 1
    numEdges := some 0 } := by
  rw [Program.metadata, Program.counts, exported_callingProgram]
  rfl

theorem encodable_callingProgram : callingProgram.Encodable none := by
  have metadata : Codec.EncodableMetadata (callingProgram.metadata none) := by
    rw [metadata_callingProgram]
    constructor <;> simp [Codec.Fits]
  have vertices : ∀ vertex ∈ callingProgram.callGraph.vertices, Codec.EncodableVertex vertex := by
    rw [callGraph_callingProgram]
    simp only [List.forall_mem_cons]
    refine ⟨?_, ?_, by simp⟩
    · constructor <;> simp [Codec.Fits, FunctionKind.code]
    · constructor <;> simp [Codec.Fits, FunctionKind.code]
  have calls : ∀ call ∈ callingProgram.callGraph.edges, Codec.EncodableCall call := by
    rw [callGraph_callingProgram]
    simp only [List.forall_mem_cons]
    refine ⟨?_, ?_, by simp⟩
    · constructor <;> simp [Codec.Fits]
    · constructor <;> simp [Codec.Fits]
  refine ⟨metadata, ⟨vertices, calls⟩, ?_⟩
  rw [flowGraphs_callingProgram]
  intro graph member
  obtain rfl := List.mem_singleton.mp member
  refine ⟨by simp [Codec.Fits], by simp, by simp, ?_, by simp⟩
  intro block found
  obtain rfl := List.mem_singleton.mp found
  refine ⟨by simp [Codec.Fits], ?_⟩
  intro instruction listed
  obtain rfl := List.mem_singleton.mp listed
  constructor <;> simp [Codec.Fits]

theorem short_contents_callingProgram :
    (callingProgram.contents none).bytes.length < 0x80000000 := by
  rw [Program.contents, metadata_callingProgram, callGraph_callingProgram,
    flowGraphs_callingProgram]
  cbv

/-! ## The report on a program -/

/-- A program whose functions have distinct addresses, written and read back by
a strict reader, gives its records again without a warning.  The report on them
holds one fault for every stray call, and no concern; it counts the normal
functions and thunks with a body. -/
theorem Program.written_program_validates (program : Program)
    (distinct : (program.functions.map (·.address)).Nodup) (addressSpace : Option Int)
    (within : program.WithinLimits addressSpace) (listener : Listener) (source : Source)
    (items : source.items = program.flowGraphs.map .record) (index : Index) (after : Progress Store)
    (written : Container.write listener (program.metadata addressSpace) program.callGraph source
      { bytes := [] } = (.ok index, after)) (position : Nat) :
    ∃ reader report, Reader.ofStore { bytes := after.store.bytes, position } true = .ok reader ∧
      reader.metadata = .ok (program.metadata addressSpace) ∧
      reader.callGraph = .ok program.callGraph ∧
      reader.flowGraphs = (program.flowGraphs, none, []) ∧
      Container.validate reader = (.ok report, []) ∧ report.concerns = [] ∧
      report.checked = (program.functions.countP fun function => decide
        ((function.kind = FunctionKind.normal.code ∨ function.kind = FunctionKind.thunk.code) ∧
          function.blocks ≠ [])) ∧
      report.faults = (program.calls.filter fun call => decide
        (∀ function ∈ program.functions, function.address ≠ call.sourceFunction)).map
          .unknownCaller ∧
      (report.ok = true ↔ ∀ call ∈ program.calls,
        ∃ function ∈ program.functions, function.address = call.sourceFunction) := by
  obtain ⟨reader, opened, strict, readBack⟩ :=
    readBack_of_written within items written position true
  have flowGraphs : reader.flowGraphs = (program.flowGraphs, none, []) :=
    Prod.ext readBack.flowGraphs.1
      (Prod.ext readBack.flowGraphs.2 (Reader.warnings_flowGraphsAt_strict strict _))
  have validated : Container.validate reader =
      (.ok ⟨program.strayCalls.map .unknownCaller, [], program.flowGraphs.length⟩, []) :=
    Prod.ext (readBack.validate_eq distinct) (Container.warnings_validate_strict strict)
  refine ⟨reader, _, opened, readBack.metadata, readBack.callGraph, flowGraphs, validated, rfl,
    ?_, rfl, ?_⟩
  · rw [program.length_flowGraphs]
    apply List.countP_congr
    intro function _
    rw [Function.isExported_iff, decide_eq_true_eq]
  · simp [Container.Report.ok, strayCalls, List.filter_eq_nil_iff]

/-- The stray call is reported, the import has no flow graph. -/
theorem callingProgram_validates :
    ∃ index after reader report,
      Container.write (fun _ => none) (callingProgram.metadata none) callingProgram.callGraph
          { items := callingProgram.flowGraphs.map .record } { bytes := [] } =
        (.ok index, after) ∧
      Reader.ofStore { bytes := after.store.bytes } true = .ok reader ∧
      reader.flowGraphs = (callingProgram.flowGraphs, none, []) ∧
      Container.validate reader = (.ok report, []) ∧ report.concerns = [] ∧
      report.checked = 1 ∧ report.faults = [.unknownCaller ⟨0x20, 0x20, 0x10⟩] ∧
      report.ok = false := by
  have distinct : (callingProgram.functions.map (·.address)).Nodup := by decide
  obtain ⟨index, after, written⟩ := Program.exists_write distinct encodable_callingProgram
    short_contents_callingProgram
  obtain ⟨reader, report, opened, _, _, flowGraphs, validated, concerns, checked, faults, _⟩ :=
    Program.written_program_validates callingProgram distinct none
      (Program.withinLimits_of_short short_contents_callingProgram) _ _ rfl index after written 0
  refine ⟨index, after, reader, report, written, opened, flowGraphs, validated, concerns,
    checked, faults, ?_⟩
  rw [Container.Report.ok, faults]
  rfl

end Disassembly

end CodeGraph
