import CodeGraph.Proofs.ContainerRoundTrip
import CodeGraph.Proofs.CutRecords
import CodeGraph.Proofs.RecordExtents
import Mathlib

/-!
# Containers that are cut short

A container of which only the first bytes are left can be opened as long as the
call graph starts in them.  Records in front of the cut are read as before, and
no record is read with anything that was not written.
-/

namespace CodeGraph.Container

open Sequencing

/-! ## Opening -/

theorem numberAt_take (data : Bytes) {place width size : Nat} (inside : place + width ≤ size) :
    numberAt (data.take size) place width = numberAt data place width := by
  rw [numberAt, numberAt, Bytes.slice, Bytes.slice, List.drop_take, List.take_take,
    min_eq_left (by omega)]

namespace Contents

/-- A reader of the first bytes of a container. -/
def cutReader (contents : Contents) (store : Store) (strict : Bool) (size : Nat) : Reader :=
  ⟨store, strict, size, contents.index⟩

variable {contents : Contents} {size : Nat}

theorem take_bytes (reached : contents.headerLength ≤ size) :
    contents.bytes.take size =
      contents.index.packed ++ contents.body.take (size - contents.headerLength) := by
  rw [bytes, List.take_append, length_packed_index, List.take_of_length_le]
  rw [length_packed_index]
  exact reached

theorem length_body (contents : Contents) :
    contents.body.length = contents.metadata.length + contents.callGraph.length +
      (joined contents.flowGraphs).length := by
  simp only [body, List.length_append]

variable (packable : contents.index.Packable)
include packable

/-- A header is trusted only if the call graph starts in the data. -/
theorem callGraphStart_le_of_trusted (inside : size ≤ contents.bytes.length)
    (trusted : TrustedHeader (contents.bytes.take size)) :
    contents.headerLength + contents.metadata.length ≤ size := by
  have length : (contents.bytes.take size).length = size := by
    rw [List.length_take, min_eq_left inside]
  have preamble := trusted.preamble
  have starts := trusted.callGraph.2
  rw [length] at preamble
  rw [length, numberAt_take _ (by omega)] at starts
  have stored := congrArg Index.callGraphOffset (storedIndex_packed packable contents.body).2
  have same : numberAt contents.bytes 4 4 = contents.headerLength + contents.metadata.length :=
    Int.ofNat_inj.mp stored
  omega

theorem ofStore_take {store : Store} (faultless : store.faults = {})
    (holds : store.bytes = contents.bytes.take size) (inside : size ≤ contents.bytes.length)
    (starts : contents.headerLength + contents.metadata.length ≤ size) (strict : Bool) :
    Reader.ofStore store strict = .ok (contents.cutReader store strict size) := by
  have length : store.bytes.length = size := by
    rw [holds, List.length_take, min_eq_left inside]
  have enough : contents.metadata.length ≤
      (contents.body.take (size - contents.headerLength)).length := by
    have body := contents.length_body
    rw [List.length_take]
    omega
  rw [take_bytes (by omega)] at holds
  rw [ofStore_packed packable faultless holds enough, length]
  rfl

/-- Data are refused as malformed exactly if the call graph would start past
their end. -/
theorem malformed_take_iff {store : Store} (faultless : store.faults = {})
    (holds : store.bytes = contents.bytes.take size) (inside : size ≤ contents.bytes.length)
    (strict : Bool) :
    (∃ fault, Reader.ofStore store strict = .error (.malformed fault)) ↔
      size < contents.headerLength + contents.metadata.length := by
  constructor
  · intro refused
    obtain ⟨fault, failed⟩ := refused
    by_contra starts
    rw [ofStore_take packable faultless holds inside (by omega)] at failed
    cases failed
  · intro early
    apply Reader.malformed_of_not_trusted faultless
    rw [holds]
    intro trusted
    have starts := callGraphStart_le_of_trusted packable inside trusted
    omega

end Contents

/-! ## What is left of a record -/

theorem split_of_mem_placementsFrom {offset : Nat} {records : List (RecordKey × Bytes)}
    {placement : Placement} (member : placement ∈ placementsFrom offset records) :
    ∃ front payload rest, records = front ++ (placement.key, payload) :: rest ∧
      placement.offset = ((offset + (payloadsOf front).length : Nat) : Int) := by
  induction records generalizing offset with
  | nil => cases member
  | cons record records induction =>
      obtain ⟨key, payload⟩ := record
      rcases List.mem_cons.mp member with rfl | later
      · exact ⟨[], payload, records, rfl, rfl⟩
      · obtain ⟨front, found, rest, rfl, starts⟩ := induction later
        refine ⟨(key, payload) :: front, found, rest, rfl, ?_⟩
        rw [starts]
        simp [payloadsOf]
        omega

namespace Contents

variable {contents : Contents} {store : Store} {size : Nat} {strict : Bool}

theorem split_of_mem_placements {placement : Placement}
    (listed : placement ∈ contents.index.placements) :
    ∃ front payload rest, contents.records = front ++ (placement.key, payload) :: rest ∧
      placement.offset =
        ((contents.headerLength + (payloadsOf front).length : Nat) : Int) := by
  rw [placements_index] at listed
  exact split_of_mem_placementsFrom listed

/-- The entry of a flow graph, and the record that it names. -/
theorem split_of_entry {position : Nat} {entry : Entry}
    (listed : contents.index.entries[position]? = some entry) :
    ∃ front payload rest, contents.flowGraphs[position]? = some (entry.address, payload) ∧
      contents.records = front ++ (.flowGraph position, payload) :: rest ∧
        entry.offset = ((contents.headerLength + (payloadsOf front).length : Nat) : Int) := by
  obtain ⟨bound, _⟩ := List.getElem?_eq_some_iff.mp listed
  rw [index, length_entriesFrom] at bound
  have stored : contents.flowGraphs[position]? =
      some ((contents.flowGraphs[position]).1, (contents.flowGraphs[position]).2) :=
    List.getElem?_eq_getElem bound
  obtain ⟨front, rest, split, indexed⟩ := flowGraph_of_getElem? stored
  rw [listed] at indexed
  obtain rfl := Option.some.inj indexed
  exact ⟨front, _, rest, stored, split, rfl⟩

section Split

variable {front rest : List (RecordKey × Bytes)} {key : RecordKey} {payload : Bytes}
  (split : contents.records = front ++ (key, payload) :: rest)
include split

theorem extent_of_split :
    (contents.reader store strict).extent
        ⟨((contents.headerLength + (payloadsOf front).length : Nat) : Int), key⟩ =
      ⟨((contents.headerLength + (payloadsOf front).length : Nat) : Int), payload.length⟩ := by
  have length := length_bytes_of_split split
  have ends := min_endOf_of_split split (le_refl contents.bytes.length)
  simp only [Reader.extent, Reader.recordEnd, reader, Request.mk.injEq, true_and]
  omega

/-- What is left of a record is fetched exactly if it starts in the data. -/
theorem recordBytes_cut_eq_ok_iff (faultless : store.faults = {})
    (holds : store.bytes = contents.bytes.take size) (inside : size ≤ contents.bytes.length)
    (fail : RecordFault → ReadError) (data : Bytes) :
    (contents.cutReader store strict size).recordBytes key
        ((contents.headerLength + (payloadsOf front).length : Nat) : Int) fail = .ok data ↔
      contents.headerLength + (payloadsOf front).length ≤ size ∧
        data = payload.take (size - (contents.headerLength + (payloadsOf front).length)) := by
  rcases Nat.lt_or_ge size (contents.headerLength + (payloadsOf front).length) with past | starts
  · have refused : (size : Int) <
        ((contents.headerLength + (payloadsOf front).length : Nat) : Int) := by omega
    rw [Reader.recordBytes, Reader.request?, cutReader, if_pos refused]
    constructor
    · intro impossible
      cases impossible
    · intro impossible
      omega
  · rw [cutReader, recordBytes_of_take split faultless holds inside starts, Except.ok.injEq]
    simp [starts, eq_comm]

end Split

end Contents

namespace Reader

/-- A flow graph that was read was decoded from the bytes of its record. -/
theorem decoded_of_flowGraphAt {reader : Reader} {position : Nat} {entry : Entry}
    {found : FlowGraph} (listed : reader.index.entries[position]? = some entry)
    (read : (reader.flowGraphAt position).1 = .ok found) :
    ∃ data, reader.recordBytes (.flowGraph position) entry.offset
        (fun fault => .record (flowGraphError position entry fault)) = .ok data ∧
      (Codec.decodeFlowGraph reader.strict data).1 = .ok found := by
  rw [flowGraphAt_of_getElem? listed, flowGraphOfEntry] at read
  simp only [flowGraphError]
  split at read
  · cases read
  · next data fetched =>
      refine ⟨data, fetched, ?_⟩
      split at read
      · cases read
      · next graph warnings decoded =>
          rw [decoded]
          split at read
          · cases read
            rfl
          · cases read

theorem decoded_of_callGraph {reader : Reader} {found : CallGraph}
    (read : reader.callGraph = .ok found) :
    ∃ data, reader.recordBytes .callGraph reader.index.callGraphOffset
        (fun fault => .record (reader.callGraphError fault)) = .ok data ∧
      Codec.decodeCallGraph data = .ok found := by
  obtain ⟨data, fetched, decoded⟩ := bind_eq_ok_iff.mp read
  exact ⟨data, fetched, mapError_eq_ok_iff.mp decoded⟩

end Reader

/-! ## Reading what is left -/

/-- What is read of a container of which only the first bytes are left: the
metadata and all records in front of the cut are as before, and the others are
read without their last parts, or not at all. -/
structure Reader.Survives (reader whole : Reader) (calls : CallGraph)
    (graphs : List FlowGraph) (size : Nat) : Prop where
  index : reader.index = whole.index
  metadata : reader.metadata = whole.metadata
  intact : ∀ placement ∈ whole.index.placements,
    (whole.extent placement).place + (whole.extent placement).size ≤ size →
      whole.SameRead reader placement.key
  byAddress : ∀ (position : Nat) (entry : Entry), whole.index.entries[position]? = some entry →
    reader.flowGraphFor entry.address = reader.flowGraphAt position
  lost : ∀ (position : Nat) (entry : Entry), whole.index.entries[position]? = some entry →
    size ≤ entry.offset →
      ∃ fault, (reader.flowGraphAt position).1 =
        .error (.record (Reader.flowGraphError position entry fault))
  flowGraph : ∀ (position : Nat) (entry : Entry) (graph : FlowGraph),
    whole.index.entries[position]? = some entry → graphs[position]? = some graph →
      (∃ fault, (reader.flowGraphAt position).1 =
          .error (.record (Reader.flowGraphError position entry fault))) ∨
        ∃ found, (reader.flowGraphAt position).1 = .ok found ∧ found.IsCutOf graph.canonical
  callGraph : (∃ fault, reader.callGraph = .error (.record (reader.callGraphError fault))) ∨
    ∃ found, reader.callGraph = .ok found ∧ found.IsCutOf calls
  originals : ∀ (position : Nat) (graph found : FlowGraph), graphs[position]? = some graph →
    (whole.flowGraphAt position).1 = .ok found → found = graph.canonical
  original : ∀ found, whole.callGraph = .ok found → found = calls

section Survives

variable {contents : Contents} {whole store : Store} {size : Nat} {strict : Bool}
  (wholeFaultless : whole.faults = {}) (wholeHolds : whole.bytes = contents.bytes)
  (faultless : store.faults = {}) (holds : store.bytes = contents.bytes.take size)
  (inside : size ≤ contents.bytes.length)

include wholeFaultless wholeHolds faultless holds inside in
theorem sameRead_of_intact {placement : Placement}
    (listed : placement ∈ contents.index.placements)
    (intact : ((contents.reader whole strict).extent placement).place +
      ((contents.reader whole strict).extent placement).size ≤ size) :
    (contents.reader whole strict).SameRead (contents.cutReader store strict size)
      placement.key := by
  obtain ⟨front, payload, rest, split, offset⟩ := Contents.split_of_mem_placements listed
  obtain ⟨_, key⟩ := placement
  subst offset
  rw [Contents.extent_of_split split] at intact
  simp only at intact
  have index : (contents.reader whole strict).index =
    (contents.cutReader store strict size).index := rfl
  refine Reader.sameRead_of_recordBytes index rfl listed ?_
  intro fail
  have kept : payload =
      payload.take (size - (contents.headerLength + (payloadsOf front).length)) :=
    (List.take_of_length_le (by omega)).symm
  rw [Contents.recordBytes_of_split split wholeFaultless wholeHolds]
  symm
  rw [Contents.recordBytes_cut_eq_ok_iff split faultless holds inside]
  exact ⟨by omega, kept⟩

include faultless holds inside in
/-- The part of a payload that a flow graph was read from after the cut. -/
theorem payload_of_flowGraphAt {position : Nat} {entry : Entry}
    (listed : contents.index.entries[position]? = some entry) {found : FlowGraph}
    (read : ((contents.cutReader store strict size).flowGraphAt position).1 = .ok found) :
    ∃ (offset : Nat) (payload : Bytes), entry.offset = (offset : Int) ∧ offset ≤ size ∧
      contents.flowGraphs[position]? = some (entry.address, payload) ∧
        (Codec.decodeFlowGraph strict (payload.take (size - offset))).1 = .ok found := by
  obtain ⟨front, payload, rest, stored, split, offset⟩ := Contents.split_of_entry listed
  obtain ⟨data, fetched, decoded⟩ := Reader.decoded_of_flowGraphAt listed read
  rw [offset, Contents.recordBytes_cut_eq_ok_iff split faultless holds inside] at fetched
  obtain ⟨starts, rfl⟩ := fetched
  exact ⟨_, payload, offset, starts, stored, decoded⟩

theorem payload_of_writtenAs {graphs : List FlowGraph}
    (written : List.Forall₂ WrittenAs graphs contents.flowGraphs) {position : Nat}
    {graph : FlowGraph} (given : graphs[position]? = some graph) {address : Int} {payload : Bytes}
    (stored : contents.flowGraphs[position]? = some (address, payload)) :
    Codec.encodeFlowGraph graph = .ok payload := by
  obtain ⟨encoded, listed, written⟩ := getElem?_of_writtenAs written given
  rw [stored] at listed
  cases listed
  exact written

include faultless holds inside in
theorem callGraph_isCutOf {callGraph found : CallGraph}
    (encoded : Codec.encodeCallGraph callGraph = .ok contents.callGraph)
    (read : (contents.cutReader store strict size).callGraph = .ok found) :
    found.IsCutOf callGraph := by
  obtain ⟨data, fetched, decoded⟩ := Reader.decoded_of_callGraph read
  have place : (contents.cutReader store strict size).index.callGraphOffset = _ :=
    contents.callGraphOffset_index
  rw [place, Contents.recordBytes_cut_eq_ok_iff contents.records_callGraph faultless holds inside]
    at fetched
  obtain ⟨_, rfl⟩ := fetched
  exact Codec.isCutOf_of_decodeCallGraph encoded decoded

include wholeFaultless wholeHolds in
theorem callGraph_eq_of_whole {callGraph found : CallGraph}
    (encoded : Codec.encodeCallGraph callGraph = .ok contents.callGraph)
    (read : (contents.reader whole strict).callGraph = .ok found) : found = callGraph := by
  obtain ⟨data, fetched, decoded⟩ := Reader.decoded_of_callGraph read
  have place : (contents.reader whole strict).index.callGraphOffset = _ :=
    contents.callGraphOffset_index
  rw [place, Contents.recordBytes_of_split contents.records_callGraph wholeFaultless wholeHolds]
    at fetched
  obtain rfl := Except.ok.inj fetched
  exact Codec.eq_of_decodeCallGraph encoded decoded

include wholeFaultless wholeHolds in
theorem flowGraph_eq_of_whole {graphs : List FlowGraph}
    (written : List.Forall₂ WrittenAs graphs contents.flowGraphs) {position : Nat}
    {graph found : FlowGraph} (given : graphs[position]? = some graph)
    (read : ((contents.reader whole strict).flowGraphAt position).1 = .ok found) :
    found = graph.canonical := by
  obtain ⟨payload, stored, encoded⟩ := getElem?_of_writtenAs written given
  obtain ⟨front, rest, split, listed⟩ := Contents.flowGraph_of_getElem? stored
  obtain ⟨data, fetched, decoded⟩ := Reader.decoded_of_flowGraphAt listed read
  rw [Contents.recordBytes_of_split split wholeFaultless wholeHolds] at fetched
  obtain rfl := Except.ok.inj fetched
  exact Codec.canonical_of_decodeFlowGraph encoded decoded

include wholeFaultless wholeHolds faultless holds inside in
theorem survives_of_writtenAs (packable : contents.index.Packable)
    (distinct : contents.addresses.Nodup) {callGraph : CallGraph} {graphs : List FlowGraph}
    (encoded : Codec.encodeCallGraph callGraph = .ok contents.callGraph)
    (written : List.Forall₂ WrittenAs graphs contents.flowGraphs)
    (starts : contents.headerLength + contents.metadata.length ≤ size) :
    (contents.cutReader store strict size).Survives (contents.reader whole strict) callGraph
      graphs size := by
  have opened := Contents.ofStore_take packable faultless holds inside starts strict
  have sound := Reader.sound_of_ofStore faultless opened
  refine ⟨rfl, ?_, ?_, ?_, ?_, ?_, ?_, ?_, ?_⟩
  · have extent : (contents.reader whole strict).extent ⟨contents.index.metaOffset, .metadata⟩ =
        ⟨contents.headerLength, contents.metadata.length⟩ :=
      Contents.extent_of_split contents.records_metadata
    have listed : (⟨contents.index.metaOffset, .metadata⟩ : Placement) ∈
        contents.index.placements := List.mem_cons_self
    have intact : ((contents.reader whole strict).extent
          ⟨contents.index.metaOffset, .metadata⟩).place +
        ((contents.reader whole strict).extent
          ⟨contents.index.metaOffset, .metadata⟩).size ≤ size := by
      rw [extent]
      simp only
      omega
    have same := sameRead_of_intact wholeFaultless wholeHolds faultless holds inside listed intact
    exact Eq.symm same
  · intro placement listed intact
    exact sameRead_of_intact wholeFaultless wholeHolds faultless holds inside listed intact
  · intro position entry listed
    have addresses : (contents.cutReader store strict size).addresses = contents.addresses :=
      addresses_entriesFrom _ contents.flowGraphs
    apply Reader.flowGraphFor_of_nodup
    · rw [addresses]
      exact distinct
    · rw [Reader.addresses, List.getElem?_map]
      exact congrArg (Option.map Entry.address) listed
  · intro position entry listed past
    rcases sound.readsRecord_flowGraphAt listed with ⟨found, read⟩ | failed
    · -- nothing is left of the payload, and no flow graph is read from nothing
      obtain ⟨offset, payload, place, starts, _, decoded⟩ :=
        payload_of_flowGraphAt faultless holds inside listed read
      rw [Nat.sub_eq_zero_of_le (by omega), List.take_zero] at decoded
      exact (Codec.decodeFlowGraph_nil_ne_ok decoded).elim
    · exact failed
  · intro position entry graph listed given
    rcases sound.readsRecord_flowGraphAt listed with ⟨found, read⟩ | failed
    · obtain ⟨offset, payload, _, _, stored, decoded⟩ :=
        payload_of_flowGraphAt faultless holds inside listed read
      have encodedGraph := payload_of_writtenAs written given stored
      exact .inr ⟨found, read, Codec.isCutOf_of_decodeFlowGraph encodedGraph decoded⟩
    · exact .inl failed
  · rcases sound.readsRecord_callGraph with ⟨found, read⟩ | failed
    · exact .inr ⟨found, read, callGraph_isCutOf faultless holds inside encoded read⟩
    · exact .inl failed
  · intro position graph found given read
    exact flowGraph_eq_of_whole wholeFaultless wholeHolds written given read
  · intro found read
    exact callGraph_eq_of_whole wholeFaultless wholeHolds encoded read

end Survives

/-- A written container that is cut anywhere is called malformed exactly if its
call graph would start past the end; otherwise it is opened, and what is left of
it is read as it was written. -/
theorem truncated_container_survives (listener : Listener) (metadata : Meta)
    (callGraph : CallGraph) (source : Source) (graphs : List FlowGraph)
    (records : source.items = graphs.map .record) {index : Index} {after : Progress Store}
    (written : write listener metadata callGraph source { bytes := [] } = (.ok index, after))
    (size : Nat) (inside : size ≤ after.store.bytes.length) (strict : Bool) (position : Nat) :
    ∃ whole, Reader.ofStore { bytes := after.store.bytes, position } strict = .ok whole ∧
      whole.index = index ∧
      ((∃ fault, Reader.ofStore { bytes := after.store.bytes.take size, position } strict =
          .error (.malformed fault)) ↔ (size : Int) < index.callGraphOffset) ∧
        (index.callGraphOffset ≤ size →
          ∃ reader, Reader.ofStore { bytes := after.store.bytes.take size, position } strict =
              .ok reader ∧ reader.Survives whole callGraph graphs size) := by
  obtain ⟨contents, encoded, _, distinct, _, packable, _, rfl, rfl⟩ :=
    (write_eq_ok_iff rfl).mp written
  have holds : (Store.holding { bytes := [] } (contents.index.packed ++ contents.body)).bytes =
      contents.bytes := by
    simp [Store.holding, Contents.bytes]
  have represented : List.Forall₂ Item.Represents source.items graphs := by
    rw [records, List.forall₂_map_left_iff]
    exact List.forall₂_same.mpr fun graph _ => .record graph
  have parts := forall₂_writtenAs represented encoded.flowGraphs
  simp only [holds] at inside ⊢
  have offset : contents.index.callGraphOffset =
    ((contents.headerLength + contents.metadata.length : Nat) : Int) := rfl
  refine ⟨_, Contents.ofStore_bytes packable rfl rfl strict, rfl, ?_, ?_⟩
  · rw [Contents.malformed_take_iff packable rfl rfl inside, offset]
    omega
  · intro starts
    rw [offset] at starts
    refine ⟨_, Contents.ofStore_take packable rfl rfl inside (by omega) strict, ?_⟩
    exact survives_of_writtenAs rfl rfl rfl rfl inside packable distinct encoded.callGraph parts
      (by omega)

/-- A container of one flow graph whose text has an unknown marker. -/
def brokenTextSource : Source where
  items := [.record brokenTextFlowGraph]

def brokenTextContents : Contents :=
  ⟨[], [], [(0x20, brokenTextPayload)]⟩

/-- It can be opened when cut in the middle of the flow graph, but not when cut
in the header. -/
theorem brokenTextSource_truncated :
    ∃ index after whole reader, write (fun _ => none) {} {} brokenTextSource { bytes := [] } =
        (.ok index, after) ∧ after.store.bytes.length = 42 ∧
      Reader.ofStore { bytes := after.store.bytes } true = .ok whole ∧
        Reader.ofStore { bytes := after.store.bytes.take 30 } true = .ok reader ∧
          reader.Survives whole {} [brokenTextFlowGraph] 30 ∧
            ∃ fault, Reader.ofStore { bytes := after.store.bytes.take 23 } true =
              .error (.malformed fault) := by
  have item : brokenTextSource.items.mapM Item.encode = .ok [(0x20, brokenTextPayload)] := by
    apply mapM_cons_eq_ok_iff.mpr
    exact ⟨_, [], encode_record_eq_ok_iff.mpr ⟨_, encode_brokenTextFlowGraph, rfl⟩,
      mapM_nil_eq_ok_iff.mpr rfl, rfl⟩
  have packable : brokenTextContents.index.Packable := by
    apply Contents.packable_index
    · intro address member
      obtain rfl := List.mem_singleton.mp member
      norm_num [Codec.Fits]
    · decide
  have written : write (fun _ => none) {} {} brokenTextSource { bytes := [] } = (.ok _, _) :=
    (write_eq_ok_iff rfl).mpr ⟨brokenTextContents, ⟨rfl, rfl, item⟩, .inr ⟨rfl, rfl⟩, by decide,
      by decide, packable, fun _ _ => rfl, rfl, rfl⟩
  have length : (Store.holding { bytes := [] }
      (brokenTextContents.index.packed ++ brokenTextContents.body)).bytes.length = 42 := by
    simp [Store.holding, Contents.length_packed_index, Contents.length_body, Contents.headerLength,
      brokenTextContents, joined, length_brokenTextPayload]
  have middle := truncated_container_survives _ {} {} _ [brokenTextFlowGraph] rfl written 30
    (by rw [length]; decide) true 0
  have header := truncated_container_survives _ {} {} _ [brokenTextFlowGraph] rfl written 23
    (by rw [length]; decide) true 0
  obtain ⟨whole, opened, _, _, survives⟩ := middle
  obtain ⟨_, _, _, malformed, _⟩ := header
  obtain ⟨reader, cut, survives⟩ := survives (by decide)
  exact ⟨_, _, whole, reader, written, length, opened, cut, survives, malformed.mpr (by decide)⟩

end CodeGraph.Container
