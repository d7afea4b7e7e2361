import CodeGraph.Proofs.ReaderOpening
import CodeGraph.Proofs.RecordLayout
import CodeGraph.Proofs.WriterRefinement
import Mathlib

/-!
# Records of a written container

A written container starts with its own index, and its records lie in the order
of that index.  So a reader cuts out of it exactly the payload that was written
for a record, also when records are empty and start at the same place.
-/

namespace CodeGraph.Container

/-! ## The index of a written container -/

/-- Data that start with a packed index store that index. -/
theorem storedIndex_packed {index : Index} (packable : index.Packable) (rest : Bytes) :
    headerEnd (index.packed ++ rest) = index.packed.length ∧
      storedIndex (index.packed ++ rest) = index := by
  have length := Index.length_packed index
  have complete : preambleSize ≤ (index.packed ++ rest).length := by
    rw [List.length_append, length]
    omega
  have preamble := unpackPreamble_slice complete
  rw [slice_packed_preamble, unpackPreamble_packedPreamble packable] at preamble
  simp only [Except.ok.injEq, Preamble.mk.injEq] at preamble
  obtain ⟨metaOffset, callGraphOffset, count⟩ := preamble
  have header : headerEnd (index.packed ++ rest) = index.packed.length := by
    rw [headerEnd_eq, ← count, length]
  have inside : headerEnd (index.packed ++ rest) ≤ (index.packed ++ rest).length := by
    rw [header, List.length_append]
    omega
  have entries := unpackEntries_slice inside
  rw [header, slice_packed_entries, ← count, unpackEntries_packedEntries packable.entries]
    at entries
  have entriesStored : (storedIndex (index.packed ++ rest)).entries = index.entries :=
    (Except.ok.inj entries).symm
  have metaStored : (storedIndex (index.packed ++ rest)).metaOffset = index.metaOffset := by
    rw [← Int.toNat_of_nonneg packable.metaOffset.1, metaOffset]
    rfl
  have callGraphStored :
      (storedIndex (index.packed ++ rest)).callGraphOffset = index.callGraphOffset := by
    rw [← Int.toNat_of_nonneg packable.callGraphOffset.1, callGraphOffset]
    rfl
  refine ⟨header, ?_⟩
  calc storedIndex (index.packed ++ rest)
      = ⟨(storedIndex (index.packed ++ rest)).metaOffset,
          (storedIndex (index.packed ++ rest)).callGraphOffset,
          (storedIndex (index.packed ++ rest)).entries⟩ := rfl
    _ = ⟨index.metaOffset, index.callGraphOffset, index.entries⟩ := by
        rw [metaStored, callGraphStored, entriesStored]
    _ = index := rfl

/-! ## Records in a row -/

/-- Where records start that lie one after the other from an offset on. -/
def placementsFrom : Nat → List (RecordKey × Bytes) → List Placement
  | _, [] => []
  | offset, (key, payload) :: rest =>
      ⟨offset, key⟩ :: placementsFrom (offset + payload.length) rest

/-- The payloads of records in a row. -/
def payloadsOf (records : List (RecordKey × Bytes)) : Bytes :=
  (records.map Prod.snd).flatten

theorem placementsFrom_append (offset : Nat) (first second : List (RecordKey × Bytes)) :
    placementsFrom offset (first ++ second) =
      placementsFrom offset first ++ placementsFrom (offset + (payloadsOf first).length) second := by
  induction first generalizing offset with
  | nil => simp [placementsFrom, payloadsOf]
  | cons record rest induction =>
      simp [placementsFrom, payloadsOf, induction, Nat.add_assoc]

theorem keys_placementsFrom (offset : Nat) (records : List (RecordKey × Bytes)) :
    (placementsFrom offset records).map (·.key) = records.map Prod.fst := by
  induction records generalizing offset with
  | nil => rfl
  | cons record rest induction => simp [placementsFrom, induction]

theorem le_offset_of_mem_placementsFrom {offset : Nat} {records : List (RecordKey × Bytes)}
    {placement : Placement} (member : placement ∈ placementsFrom offset records) :
    (offset : Int) ≤ placement.offset := by
  induction records generalizing offset with
  | nil => cases member
  | cons record rest induction =>
      rcases List.mem_cons.mp member with rfl | later
      · exact le_refl _
      · have further := induction later
        push_cast at further
        omega

/-- Records whose ranks ascend are in order. -/
theorem placementsFrom_pairwise (offset : Nat) {records : List (RecordKey × Bytes)}
    (ranked : (records.map Prod.fst).Pairwise fun left right => left.rank ≤ right.rank) :
    (placementsFrom offset records).Pairwise fun left right => left.before right = true := by
  induction records generalizing offset with
  | nil => exact List.Pairwise.nil
  | cons record rest induction =>
      obtain ⟨first, others⟩ := List.pairwise_cons.mp ranked
      apply List.pairwise_cons.mpr
      refine ⟨?_, induction _ others⟩
      intro placement member
      have further := le_offset_of_mem_placementsFrom member
      have key : placement.key ∈ rest.map Prod.fst := by
        rw [← keys_placementsFrom (offset + record.2.length) rest]
        exact List.mem_map_of_mem member
      have rank := first placement.key key
      rw [Placement.before_iff]
      push_cast at further
      simp only
      omega

/-- The records of flow graphs, counted from a position on. -/
def flowGraphRecords (position : Nat) (flowGraphs : List (Int × Bytes)) :
    List (RecordKey × Bytes) :=
  (flowGraphs.zipIdx position).map fun item => (.flowGraph item.2, item.1.2)

theorem payloadsOf_flowGraphRecords (position : Nat) (flowGraphs : List (Int × Bytes)) :
    payloadsOf (flowGraphRecords position flowGraphs) = joined flowGraphs := by
  induction flowGraphs generalizing position with
  | nil => rfl
  | cons flowGraph rest induction =>
      have others := induction (position + 1)
      simp only [payloadsOf, flowGraphRecords, joined, List.zipIdx_cons, List.map_cons,
        List.flatten_cons] at others ⊢
      rw [others]

theorem flowGraphRecords_append (position : Nat) (first second : List (Int × Bytes)) :
    flowGraphRecords position (first ++ second) =
      flowGraphRecords position first ++ flowGraphRecords (position + first.length) second := by
  simp [flowGraphRecords, List.zipIdx_append]

theorem placements_entriesFrom (offset position : Nat) (flowGraphs : List (Int × Bytes)) :
    ((entriesFrom offset flowGraphs).zipIdx position).map
        (fun item => (⟨item.1.offset, .flowGraph item.2⟩ : Placement)) =
      placementsFrom offset (flowGraphRecords position flowGraphs) := by
  induction flowGraphs generalizing offset position with
  | nil => rfl
  | cons flowGraph rest induction =>
      have others := induction (offset + flowGraph.2.length) (position + 1)
      simp only [entriesFrom, flowGraphRecords, placementsFrom, List.zipIdx_cons,
        List.map_cons] at others ⊢
      rw [others]

theorem entriesFrom_append (offset : Nat) (first second : List (Int × Bytes)) :
    entriesFrom offset (first ++ second) =
      entriesFrom offset first ++ entriesFrom (offset + (joined first).length) second := by
  induction first generalizing offset with
  | nil => simp [entriesFrom, joined]
  | cons flowGraph rest induction => simp [entriesFrom, joined, induction, Nat.add_assoc]

namespace Contents

/-- The records of a container in the order in which they are written. -/
def records (contents : Contents) : List (RecordKey × Bytes) :=
  (.metadata, contents.metadata) :: (.callGraph, contents.callGraph) ::
    flowGraphRecords 0 contents.flowGraphs

theorem body_eq (contents : Contents) : contents.body = payloadsOf contents.records := by
  rw [body, ← payloadsOf_flowGraphRecords 0, List.append_assoc]
  rfl

theorem placements_index (contents : Contents) :
    contents.index.placements = placementsFrom contents.headerLength contents.records := by
  simp only [Index.placements, index, records, placementsFrom]
  congr 2
  exact placements_entriesFrom _ 0 contents.flowGraphs

theorem records_ranked (contents : Contents) :
    (contents.records.map Prod.fst).Pairwise fun left right => left.rank ≤ right.rank := by
  have positions : (contents.flowGraphs.zipIdx.map Prod.snd).Pairwise (· < ·) := by
    rw [List.zipIdx_map_snd]
    exact List.pairwise_lt_range'
  have flowGraphs : (contents.flowGraphs.zipIdx.map fun item =>
      RecordKey.flowGraph item.2).Pairwise fun left right => left.rank ≤ right.rank := by
    rw [List.pairwise_map] at positions ⊢
    apply positions.imp
    intro left right less
    simp only [RecordKey.rank]
    omega
  have keys : contents.records.map Prod.fst = .metadata :: .callGraph ::
      contents.flowGraphs.zipIdx.map fun item => RecordKey.flowGraph item.2 := by
    simp [records, flowGraphRecords, Function.comp_def]
  rw [keys]
  apply List.pairwise_cons.mpr
  constructor
  · intro key _
    exact Nat.zero_le _
  · apply List.pairwise_cons.mpr
    refine ⟨?_, flowGraphs⟩
    intro key member
    obtain ⟨item, _, rfl⟩ := List.mem_map.mp member
    simp only [RecordKey.rank]
    omega

theorem layout_index (contents : Contents) :
    contents.index.layout = placementsFrom contents.headerLength contents.records := by
  have ordered := placementsFrom_pairwise contents.headerLength contents.records_ranked
  rw [← placements_index] at ordered
  rw [Index.layout_of_pairwise ordered, placements_index]

theorem records_metadata (contents : Contents) :
    contents.records = [] ++ (.metadata, contents.metadata) ::
      (.callGraph, contents.callGraph) :: flowGraphRecords 0 contents.flowGraphs := rfl

theorem records_callGraph (contents : Contents) :
    contents.records = [(.metadata, contents.metadata)] ++
      (.callGraph, contents.callGraph) :: flowGraphRecords 0 contents.flowGraphs := rfl

/-- The call graph lies behind the metadata. -/
theorem callGraphOffset_index (contents : Contents) :
    contents.index.callGraphOffset =
      ((contents.headerLength + (payloadsOf [(.metadata, contents.metadata)]).length : Nat) :
        Int) := by
  simp [index, payloadsOf]

/-- The bytes of a written container. -/
def bytes (contents : Contents) : Bytes :=
  contents.index.packed ++ contents.body

/-- A reader of the bytes of a container. -/
def reader (contents : Contents) (store : Store) (strict : Bool) : Reader :=
  ⟨store, strict, contents.bytes.length, contents.index⟩

section Reading

variable {contents : Contents} {front rest : List (RecordKey × Bytes)} {key : RecordKey}
  {payload : Bytes} (split : contents.records = front ++ (key, payload) :: rest)
include split

theorem bytes_of_split :
    contents.bytes =
      (contents.index.packed ++ payloadsOf front) ++ (payload ++ payloadsOf rest) := by
  rw [bytes, body_eq, split]
  simp [payloadsOf]

theorem layout_of_split :
    contents.index.layout =
      placementsFrom contents.headerLength front ++
        ⟨(contents.headerLength + (payloadsOf front).length : Nat), key⟩ ::
          placementsFrom (contents.headerLength + (payloadsOf front).length + payload.length)
            rest := by
  rw [layout_index, split, placementsFrom_append, placementsFrom]

theorem length_bytes_of_split :
    contents.bytes.length = contents.headerLength + (payloadsOf front).length + payload.length +
      (payloadsOf rest).length := by
  rw [bytes_of_split split]
  simp only [List.length_append, length_packed_index]
  omega

/-- A record ends behind its payload, or with the data if they are cut off. -/
theorem min_endOf_of_split {size : Nat} (inside : size ≤ contents.bytes.length) :
    min (endOf size key contents.index.layout) (size : Int) =
      (min (contents.headerLength + (payloadsOf front).length + payload.length) size : Nat) := by
  have ends := Index.endOf_layout (layout_of_split split) size
  have length := length_bytes_of_split split
  simp only at ends
  rw [ends]
  cases rest with
  | nil =>
      have all : (payloadsOf []).length = 0 := rfl
      simp only [placementsFrom, List.head?_nil, Option.map_none, Option.getD_none]
      omega
  | cons next others =>
      simp only [placementsFrom, List.head?_cons, Option.map_some, Option.getD_some]
      omega

/-- What is left of a payload in the first bytes of a container. -/
theorem slice_take_of_split (size : Nat) :
    Bytes.slice (contents.bytes.take size) (contents.headerLength + (payloadsOf front).length)
        (min payload.length (size - (contents.headerLength + (payloadsOf front).length))) =
      payload.take (size - (contents.headerLength + (payloadsOf front).length)) := by
  have place : contents.headerLength + (payloadsOf front).length =
      (contents.index.packed ++ payloadsOf front).length := by
    rw [List.length_append, length_packed_index]
  rw [place, bytes_of_split split, Bytes.slice, List.drop_take, List.drop_left, List.take_take,
    min_assoc, min_self, List.take_append_of_le_length (min_le_left _ _), min_comm,
    ← List.take_take, List.take_length]

/-- A reader of the first bytes of a container cuts out what is left of the
payload of a record. -/
theorem recordBytes_of_take {store : Store} (faultless : store.faults = {}) {size : Nat}
    (holds : store.bytes = contents.bytes.take size) (inside : size ≤ contents.bytes.length)
    (starts : contents.headerLength + (payloadsOf front).length ≤ size) (strict : Bool)
    (fail : RecordFault → ReadError) :
    (⟨store, strict, size, contents.index⟩ : Reader).recordBytes key
        ((contents.headerLength + (payloadsOf front).length : Nat) : Int) fail =
      .ok (payload.take (size - (contents.headerLength + (payloadsOf front).length))) := by
  have total : store.bytes.length = size := by
    rw [holds, List.length_take, min_eq_left inside]
  have within : ¬ (size : Int) <
      ((contents.headerLength + (payloadsOf front).length : Nat) : Int) := by
    omega
  have length : ((min (contents.headerLength + (payloadsOf front).length + payload.length) size :
      Nat) - ((contents.headerLength + (payloadsOf front).length : Nat) : Int)).toNat =
        min payload.length (size - (contents.headerLength + (payloadsOf front).length)) := by
    omega
  rw [Reader.recordBytes, Reader.request?, if_neg within, Reader.recordEnd]
  simp only [min_endOf_of_split split inside, length, Int.toNat_natCast]
  have cutOut := slice_take_of_split split size
  rw [← holds] at cutOut
  subst total
  rw [readAt_of_faultless faultless, cutOut]

/-- A reader cuts out the payload of every record. -/
theorem recordBytes_of_split {store : Store} (faultless : store.faults = {})
    (holds : store.bytes = contents.bytes) (strict : Bool) (fail : RecordFault → ReadError) :
    (contents.reader store strict).recordBytes key
      ((contents.headerLength + (payloadsOf front).length : Nat) : Int) fail = .ok payload := by
  have length := length_bytes_of_split split
  have whole : store.bytes = contents.bytes.take contents.bytes.length := by
    rw [holds, List.take_length]
  have read := recordBytes_of_take split faultless whole (le_refl _) (by omega) strict fail
  rw [List.take_of_length_le (by omega)] at read
  exact read

end Reading

/-- The record of a flow graph, and its entry in the index. -/
theorem flowGraph_of_getElem? {contents : Contents} {position : Nat} {address : Int}
    {payload : Bytes} (listed : contents.flowGraphs[position]? = some (address, payload)) :
    ∃ front rest, contents.records = front ++ (.flowGraph position, payload) :: rest ∧
      contents.index.entries[position]? =
        some ⟨address, (contents.headerLength + (payloadsOf front).length : Nat)⟩ := by
  obtain ⟨bound, same⟩ := List.getElem?_eq_some_iff.mp listed
  have parts : contents.flowGraphs = contents.flowGraphs.take position ++
      (address, payload) :: contents.flowGraphs.drop (position + 1) := by
    rw [← same, List.getElem_cons_drop, List.take_append_drop]
  have length : (contents.flowGraphs.take position).length = position := by
    rw [List.length_take]
    omega
  refine ⟨(.metadata, contents.metadata) :: (.callGraph, contents.callGraph) ::
    flowGraphRecords 0 (contents.flowGraphs.take position),
    flowGraphRecords (position + 1) (contents.flowGraphs.drop (position + 1)), ?_, ?_⟩
  · rw [records]
    conv_lhs => rw [parts, flowGraphRecords_append, length, Nat.zero_add]
    rfl
  · have before : payloadsOf ((.metadata, contents.metadata) ::
        (.callGraph, contents.callGraph) ::
          flowGraphRecords 0 (contents.flowGraphs.take position)) =
        contents.metadata ++ (contents.callGraph ++
          joined (contents.flowGraphs.take position)) := by
      rw [← payloadsOf_flowGraphRecords 0]
      rfl
    have offset : contents.headerLength + contents.metadata.length + contents.callGraph.length +
        (joined (contents.flowGraphs.take position)).length =
          contents.headerLength + (contents.metadata ++ (contents.callGraph ++
            joined (contents.flowGraphs.take position))).length := by
      simp only [List.length_append]
      omega
    have entries : contents.index.entries =
        entriesFrom (contents.headerLength + contents.metadata.length +
          contents.callGraph.length) (contents.flowGraphs.take position ++
            (address, payload) :: contents.flowGraphs.drop (position + 1)) := by
      rw [← parts]
      rfl
    rw [entries, entriesFrom_append, entriesFrom, offset, before,
      List.getElem?_append_right (by rw [length_entriesFrom, length]), length_entriesFrom, length,
      Nat.sub_self, List.getElem?_cons_zero]

end Contents

end CodeGraph.Container
