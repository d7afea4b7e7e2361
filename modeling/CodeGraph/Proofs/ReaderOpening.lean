import CodeGraph.Container.Reader
import CodeGraph.Proofs.Sequencing
import Mathlib

/-!
# Opening a container

Whether data can be opened as a container depends on its header and index
alone, and so does the index of the open container.  Data that cannot be opened
is malformed; a store without faults gives no other reason.
-/

namespace CodeGraph.Container

open Sequencing

/-! ## Headers -/

/-- The number that some bytes of data stand for. -/
def numberAt (data : Bytes) (place size : Nat) : Nat :=
  (data.slice place size).toNat

/-- The number of flow graphs that the header declares. -/
def declaredCount (data : Bytes) : Nat :=
  numberAt data 8 4

/-- Where the header ends. -/
def headerEnd (data : Bytes) : Nat :=
  12 + declaredCount data * 12

def storedEntry (data : Bytes) (position : Nat) : Entry where
  address := numberAt data (12 + position * 12) 8
  offset := numberAt data (12 + position * 12 + 8) 4

/-- The index that data start with. -/
def storedIndex (data : Bytes) : Index where
  metaOffset := numberAt data 0 4
  callGraphOffset := numberAt data 4 4
  entries := (List.range (declaredCount data)).map (storedEntry data)

/-- The header is complete and no record starts inside it; metadata and call
graph start in the data. -/
structure TrustedHeader (data : Bytes) : Prop where
  preamble : 12 ≤ data.length
  header : headerEnd data ≤ data.length
  metadata : headerEnd data ≤ numberAt data 0 4 ∧ numberAt data 0 4 ≤ data.length
  callGraph : headerEnd data ≤ numberAt data 4 4 ∧ numberAt data 4 4 ≤ data.length
  flowGraphs : ∀ position < declaredCount data,
    headerEnd data ≤ numberAt data (12 + position * 12 + 8) 4

/-! ## Reads -/

theorem slice_slice (data : Bytes) (place : Nat) {size offset length : Nat}
    (inside : offset + length ≤ size) :
    (data.slice place size).slice offset length = data.slice (place + offset) length := by
  simp only [Bytes.slice, List.drop_take, List.take_take, List.drop_drop]
  rw [min_eq_left (by omega)]

section Faultless

variable {store : Store} (faultless : store.faults = {})
include faultless

theorem read_of_faultless (place size : Nat) :
    store.read place size = .ok (store.bytes.slice place size) := by
  simp [Store.read, Store.actual, faultless]

theorem size_of_faultless : store.size = .ok store.bytes.length := by
  simp [Store.size, Store.reported, faultless]

/-- Reads of data whose size is known are never short. -/
theorem readAt_of_faultless (place size : Nat) :
    readAt store store.bytes.length place size = .ok (store.bytes.slice place size) := by
  have complete : ¬ ((store.bytes.slice place size).length < size ∧
      place + size ≤ store.bytes.length) := by
    rw [Bytes.length_slice]
    omega
  simp only [readAt, read_of_faultless faultless, if_neg complete]

end Faultless

/-! ## The index -/

theorem takeEntries_eq_map (count : Nat) (data : Bytes) :
    takeEntries count data = (List.range count).map fun position =>
      ⟨(data.slice (position * entrySize) 8).toNat,
        (data.slice (position * entrySize + 8) 4).toNat⟩ := by
  induction count generalizing data with
  | zero => rfl
  | succ count induction =>
      rw [takeEntries, induction, List.range_succ_eq_map, List.map_cons, List.map_map]
      have shifted : ∀ position, entrySize + position * entrySize = (position + 1) * entrySize := by
        intro position
        rw [Nat.succ_mul, Nat.add_comm]
      simp only [Nat.zero_mul, Nat.zero_add, Function.comp_def, Bytes.slice, List.drop_drop,
        Nat.succ_eq_add_one, ← shifted, Nat.add_assoc]

theorem unpackPreamble_of_short {data : Bytes} (short : data.length < preambleSize) :
    unpackPreamble (data.slice 0 preambleSize) = .error (.truncated data.length) := by
  have length : (data.slice 0 preambleSize).length = data.length := by
    rw [Bytes.length_slice]
    omega
  rw [unpackPreamble, length, if_pos short]

theorem unpackPreamble_slice {data : Bytes} (complete : preambleSize ≤ data.length) :
    unpackPreamble (data.slice 0 preambleSize) =
      .ok ⟨numberAt data 0 4, numberAt data 4 4, declaredCount data⟩ := by
  have length : (data.slice 0 preambleSize).length = preambleSize := by
    rw [Bytes.length_slice]
    omega
  rw [unpackPreamble, length, if_neg (lt_irrefl _), slice_slice data 0 (by decide),
    slice_slice data 0 (by decide), slice_slice data 0 (by decide)]
  rfl

/-- The header is as long as the sizes of its parts say. -/
theorem headerEnd_eq (data : Bytes) :
    headerEnd data = preambleSize + declaredCount data * entrySize := rfl

theorem unpackEntries_slice {data : Bytes} (header : headerEnd data ≤ data.length) :
    unpackEntries (data.slice preambleSize (headerEnd data - preambleSize))
      (declaredCount data) = .ok (storedIndex data).entries := by
  have size : headerEnd data - preambleSize = declaredCount data * entrySize :=
    Nat.add_sub_cancel_left _ _
  have length : (data.slice preambleSize (headerEnd data - preambleSize)).length =
      declaredCount data * entrySize := by
    rw [Bytes.length_slice, size]
    rw [headerEnd_eq] at header
    omega
  have complete : ¬ ((declaredCount data * entrySize : Nat) : Int) <
      (declaredCount data : Int) * entrySize := by
    push_cast
    exact lt_irrefl _
  rw [unpackEntries, length, if_neg complete, Int.toNat_natCast, takeEntries_eq_map, size]
  congr 1
  apply List.map_congr_left
  intro position member
  have bound : position < declaredCount data := List.mem_range.mp member
  have inside : position * entrySize + entrySize ≤ declaredCount data * entrySize := by
    rw [← Nat.succ_mul]
    exact Nat.mul_le_mul_right entrySize bound
  unfold entrySize at inside ⊢
  rw [slice_slice data preambleSize (by omega), slice_slice data preambleSize (by omega),
    ← Nat.add_assoc]
  rfl

theorem find?_early_eq_none_iff {entries : List Entry} {bound : Nat} :
    (entries.zipIdx.find? fun (entry, _) => entry.offset < bound) = none ↔
      ∀ entry ∈ entries, bound ≤ entry.offset := by
  rw [List.find?_eq_none]
  constructor
  · intro late entry member
    obtain ⟨position, found⟩ := List.mem_iff_getElem?.mp member
    have notEarly := late (entry, position) (List.mk_mem_zipIdx_iff_getElem?.mpr found)
    simpa using notEarly
  · intro late item member
    have notEarly := late item.1 (List.fst_mem_of_mem_zipIdx member)
    simpa using notEarly

theorem checkOffsets_eq_ok_iff {index : Index} {bound total : Nat} {done : Unit} :
    checkOffsets index bound total = .ok done ↔
      (bound ≤ index.metaOffset ∧ index.metaOffset ≤ total) ∧
        (bound ≤ index.callGraphOffset ∧ index.callGraphOffset ≤ total) ∧
          ∀ entry ∈ index.entries, bound ≤ entry.offset := by
  unfold checkOffsets
  simp only [Bool.or_eq_true, decide_eq_true_eq]
  by_cases outside : index.metaOffset < bound ∨ total < index.metaOffset
  · rw [if_pos outside]
    constructor
    · intro impossible
      cases impossible
    · intro within
      omega
  · rw [if_neg outside]
    by_cases outsideCallGraph : index.callGraphOffset < bound ∨ total < index.callGraphOffset
    · rw [if_pos outsideCallGraph]
      constructor
      · intro impossible
        cases impossible
      · intro within
        omega
    · rw [if_neg outsideCallGraph]
      have records : (bound ≤ index.metaOffset ∧ index.metaOffset ≤ total) ∧
          bound ≤ index.callGraphOffset ∧ index.callGraphOffset ≤ total := by
        omega
      rw [← find?_early_eq_none_iff]
      cases index.entries.zipIdx.find? fun (entry, _) => entry.offset < bound with
      | some item => simp
      | none => simp [records]

/-- All that reading the index checks, in the order of the checks. -/
theorem readIndex_of_faultless {store : Store} (faultless : store.faults = {}) :
    readIndex store store.bytes.length =
      let data := store.bytes
      if data.length < preambleSize then
        .error (.malformed (.header (.truncated data.length)))
      else if data.length < headerEnd data then
        .error (.malformed (.indexPastEnd (declaredCount data) (headerEnd data) data.length))
      else
        ((checkOffsets (storedIndex data) (headerEnd data) data.length).mapError .malformed).map
          fun _ => storedIndex data := by
  unfold readIndex
  simp only [readAt_of_faultless faultless, ok_bind]
  by_cases short : store.bytes.length < preambleSize
  · rw [unpackPreamble_of_short short, if_pos short]
    rfl
  · rw [unpackPreamble_slice (not_lt.mp short), if_neg short, ok_mapError, ok_bind]
    change (if store.bytes.length < headerEnd store.bytes then _ else _) = _
    by_cases past : store.bytes.length < headerEnd store.bytes
    · rw [if_pos past, if_pos past]
      rfl
    · rw [if_neg past, if_neg past]
      change ((unpackEntries (store.bytes.slice preambleSize
        (headerEnd store.bytes - preambleSize)) (declaredCount store.bytes)).mapError _ >>= _) = _
      rw [unpackEntries_slice (not_lt.mp past), ok_mapError, ok_bind]
      change ((checkOffsets (storedIndex store.bytes) (headerEnd store.bytes)
        store.bytes.length).mapError _ >>= fun _ => pure (storedIndex store.bytes)) = _
      cases checkOffsets (storedIndex store.bytes) (headerEnd store.bytes) store.bytes.length with
      | error error => rfl
      | ok checked => rfl

theorem trustedHeader_iff {data : Bytes} :
    TrustedHeader data ↔ preambleSize ≤ data.length ∧ headerEnd data ≤ data.length ∧
      ∃ done, checkOffsets (storedIndex data) (headerEnd data) data.length = .ok done := by
  have entries : (∀ entry ∈ (storedIndex data).entries, (headerEnd data : Int) ≤ entry.offset) ↔
      ∀ position < declaredCount data,
        headerEnd data ≤ numberAt data (12 + position * 12 + 8) 4 := by
    simp [storedIndex, storedEntry]
  have records : (headerEnd data : Int) ≤ (storedIndex data).metaOffset ∧
        (storedIndex data).metaOffset ≤ data.length ↔
      headerEnd data ≤ numberAt data 0 4 ∧ numberAt data 0 4 ≤ data.length := by
    simp [storedIndex]
  have callGraph : (headerEnd data : Int) ≤ (storedIndex data).callGraphOffset ∧
        (storedIndex data).callGraphOffset ≤ data.length ↔
      headerEnd data ≤ numberAt data 4 4 ∧ numberAt data 4 4 ≤ data.length := by
    simp [storedIndex]
  simp only [checkOffsets_eq_ok_iff, records, callGraph, entries, exists_const]
  constructor
  · intro trusted
    exact ⟨trusted.preamble, trusted.header, trusted.metadata, trusted.callGraph,
      trusted.flowGraphs⟩
  · intro parts
    obtain ⟨preamble, header, metadata, callGraph, flowGraphs⟩ := parts
    exact ⟨preamble, header, metadata, callGraph, flowGraphs⟩

theorem readIndex_eq_ok_iff {store : Store} (faultless : store.faults = {}) {index : Index} :
    readIndex store store.bytes.length = .ok index ↔
      TrustedHeader store.bytes ∧ index = storedIndex store.bytes := by
  rw [readIndex_of_faultless faultless, trustedHeader_iff]
  by_cases short : store.bytes.length < preambleSize
  · simp [short]
  · by_cases past : store.bytes.length < headerEnd store.bytes
    · simp [short, past]
    · simp only [if_neg short, if_neg past, map_eq_ok_iff, mapError_eq_ok_iff, not_lt.mp short,
        not_lt.mp past, true_and, exists_and_right]

/-! ## Opening -/

namespace Reader

theorem ofStore_of_faultless {store : Store} (faultless : store.faults = {}) (strict : Bool) :
    ofStore store strict = (readIndex store store.bytes.length).map fun index =>
      { store, strict, size := store.bytes.length, index } := by
  unfold ofStore
  rw [size_of_faultless faultless, ok_mapError, ok_bind]
  cases readIndex store store.bytes.length with
  | error error => rfl
  | ok index => rfl

/-- Data are opened exactly if their header can be trusted. -/
theorem ofStore_eq_ok_iff {store : Store} (faultless : store.faults = {}) {strict : Bool}
    {reader : Reader} :
    ofStore store strict = .ok reader ↔
      TrustedHeader store.bytes ∧
        reader = ⟨store, strict, store.bytes.length, storedIndex store.bytes⟩ := by
  simp only [ofStore_of_faultless faultless, map_eq_ok_iff, readIndex_eq_ok_iff faultless]
  constructor
  · intro opened
    obtain ⟨index, ⟨trusted, rfl⟩, rfl⟩ := opened
    exact ⟨trusted, rfl⟩
  · intro trusted
    obtain ⟨trusted, rfl⟩ := trusted
    exact ⟨_, ⟨trusted, rfl⟩, rfl⟩

theorem malformed_of_ofStore_eq_error {store : Store} (faultless : store.faults = {})
    {strict : Bool} {error : ReadError} (failed : ofStore store strict = .error error) :
    ∃ fault, error = .malformed fault := by
  rw [ofStore_of_faultless faultless, map_eq_error_iff, readIndex_of_faultless faultless] at failed
  simp only at failed
  split at failed
  · cases failed
    exact ⟨_, rfl⟩
  · split at failed
    · cases failed
      exact ⟨_, rfl⟩
    · obtain ⟨fault, _, same⟩ := mapError_eq_error_iff.mp (map_eq_error_iff.mp failed)
      exact ⟨fault, same⟩

theorem malformed_of_not_trusted {store : Store} (faultless : store.faults = {})
    (untrusted : ¬ TrustedHeader store.bytes) (strict : Bool) :
    ∃ fault, ofStore store strict = .error (.malformed fault) := by
  cases outcome : ofStore store strict with
  | ok reader => exact (untrusted ((ofStore_eq_ok_iff faultless).mp outcome).1).elim
  | error error =>
      obtain ⟨fault, rfl⟩ := malformed_of_ofStore_eq_error faultless outcome
      exact ⟨fault, rfl⟩

end Reader

end CodeGraph.Container
