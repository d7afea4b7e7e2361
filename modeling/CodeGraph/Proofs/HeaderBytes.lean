import CodeGraph.Proofs.ContainerLayout
import Mathlib

/-!
# Headers byte for byte

Packing an index and reading a header are inverse to one another.  An index is read
again from all data that start with it in packed form, and the index that is read of
a complete header is packed to the same bytes.  A header that is cut is refused.
-/

namespace CodeGraph.Container

open Index

/-- The index that the words in front of it and its entries make. -/
def Preamble.index (preamble : Preamble) (entries : List Entry) : Index where
  metaOffset := preamble.metaOffset
  callGraphOffset := preamble.callGraphOffset
  entries := entries

structure Preamble.Announces (preamble : Preamble) (index : Index) : Prop where
  metaOffset : (preamble.metaOffset : Int) = index.metaOffset
  callGraphOffset : (preamble.callGraphOffset : Int) = index.callGraphOffset
  count : preamble.count = index.entries.length

/-- The words that data start with. -/
def storedPreamble (data : Bytes) : Preamble where
  metaOffset := numberAt data 0 4
  callGraphOffset := numberAt data 4 4
  count := declaredCount data

theorem index_storedPreamble (data : Bytes) :
    (storedPreamble data).index (storedIndex data).entries = storedIndex data := rfl

theorem announces_storedPreamble (data : Bytes) :
    (storedPreamble data).Announces (storedIndex data) := by
  refine ⟨rfl, rfl, ?_⟩
  rw [storedIndex, List.length_map, List.length_range]
  rfl

theorem headerSize_count (data : Bytes) :
    headerSize (storedPreamble data).count = headerEnd data := by
  rw [headerSize, headerEnd]
  push_cast
  rfl

/-! ## Words -/

theorem wordFits_slice (data : Bytes) (place width : Nat) :
    WordFits width (data.slice place width).toNat := by
  have short : (data.slice place width).length ≤ width := by
    rw [Bytes.length_slice]
    exact min_le_left _ _
  have fits : Bytes.capacity (data.slice place width).length ≤ Bytes.capacity width :=
    Nat.pow_le_pow_right (by norm_num) short
  have small := (Bytes.toNat_lt_capacity (data.slice place width)).trans_le fits
  rw [WordFits]
  omega

theorem packedWord_slice {data : Bytes} {place width : Nat}
    (inside : place + width ≤ data.length) :
    packedWord width (data.slice place width).toNat = data.slice place width := by
  have whole : (data.slice place width).length = width := by
    rw [Bytes.length_slice]
    omega
  have stored := Bytes.littleEndian_toNat (data.slice place width)
  rwa [whole] at stored

theorem slice_append_slice (data : Bytes) (place left right : Nat) :
    data.slice place left ++ data.slice (place + left) right = data.slice place (left + right) := by
  simp only [Bytes.slice, ← List.drop_drop, List.take_add]

/-! ## Reading -/

theorem unpackPreamble_of_complete {data : Bytes} (complete : preambleSize ≤ data.length) :
    unpackPreamble data = .ok (storedPreamble data) := by
  rw [unpackPreamble, if_neg (not_lt.mpr complete)]
  rfl

theorem takeEntries_drop_preamble (data : Bytes) :
    takeEntries (declaredCount data) (data.drop preambleSize) = (storedIndex data).entries := by
  rw [takeEntries_eq_map, storedIndex]
  apply List.map_congr_left
  intro position _
  simp only [storedEntry, numberAt, Bytes.slice, List.drop_drop, Nat.add_assoc, preambleSize,
    entrySize]

theorem missing_iff {data : Bytes} (preamble : preambleSize ≤ data.length) :
    ((data.drop preambleSize).length : Int) < ((storedPreamble data).count : Int) * entrySize ↔
      data.length < headerEnd data := by
  have count : (storedPreamble data).count = declaredCount data := rfl
  rw [List.length_drop, headerEnd_eq, count]
  omega

theorem unpackEntries_of_complete {data : Bytes} (complete : headerEnd data ≤ data.length) :
    unpackEntries (data.drop preambleSize) (storedPreamble data).count =
      .ok (storedIndex data).entries := by
  have preamble : preambleSize ≤ data.length := (Nat.le_add_right _ _).trans complete
  rw [unpackEntries, if_neg ((missing_iff preamble).not.mpr (not_lt.mpr complete)),
    Int.toNat_natCast]
  exact congrArg _ (takeEntries_drop_preamble data)

theorem unpackEntries_of_cut {data : Bytes} (preamble : preambleSize ≤ data.length)
    (cut : data.length < headerEnd data) :
    unpackEntries (data.drop preambleSize) (storedPreamble data).count =
      .error (.missingEntries (storedPreamble data).count (data.length - preambleSize)) := by
  rw [unpackEntries, if_pos ((missing_iff preamble).mpr cut), List.length_drop]

/-! ## Packing what was read -/

theorem packedEntries_takeEntries {count : Nat} {data : Bytes}
    (complete : count * entrySize ≤ data.length) :
    packedEntries (takeEntries count data) = data.take (count * entrySize) := by
  induction count generalizing data with
  | zero =>
      rw [Nat.zero_mul, List.take_zero]
      rfl
  | succ count induction =>
      rw [Nat.succ_mul] at complete ⊢
      have room : entrySize ≤ data.length := by omega
      have others : count * entrySize ≤ (data.drop entrySize).length := by
        rw [List.length_drop]
        omega
      have address : packedWord 8 (data.slice 0 8).toNat = data.slice 0 8 := by
        apply packedWord_slice
        exact le_trans (by decide) room
      have offset : packedWord 4 (data.slice 8 4).toNat = data.slice 8 4 := packedWord_slice room
      have entry : data.slice 0 8 ++ data.slice 8 4 = data.take entrySize :=
        slice_append_slice data 0 8 4
      calc
        packedEntries (takeEntries (count + 1) data)
            = (packedWord 8 (data.slice 0 8).toNat ++ packedWord 4 (data.slice 8 4).toNat) ++
                packedEntries (takeEntries count (data.drop entrySize)) := rfl
        _ = data.take entrySize ++ (data.drop entrySize).take (count * entrySize) := by
          rw [address, offset, entry, induction others]
        _ = data.take (count * entrySize + entrySize) := by
          rw [Nat.add_comm, List.take_add]

theorem packable_storedIndex (data : Bytes) : (storedIndex data).Packable := by
  constructor
  case metaOffset => exact wordFits_slice data 0 4
  case callGraphOffset => exact wordFits_slice data 4 4
  case count =>
    rw [← (announces_storedPreamble data).count]
    exact wordFits_slice data 8 4
  case entries =>
    intro entry member
    obtain ⟨position, _, rfl⟩ := List.mem_map.mp member
    exact ⟨wordFits_slice data _ 8, wordFits_slice data _ 4⟩

theorem packedPreamble_storedIndex {data : Bytes} (complete : preambleSize ≤ data.length) :
    (storedIndex data).packedPreamble = data.take preambleSize := by
  unfold preambleSize at complete ⊢
  have metaOffset : packedWord 4 (numberAt data 0 4) = data.slice 0 4 := by
    apply packedWord_slice
    omega
  have callGraphOffset : packedWord 4 (numberAt data 4 4) = data.slice 4 4 := by
    apply packedWord_slice
    omega
  have count : packedWord 4 (declaredCount data) = data.slice 8 4 := packedWord_slice complete
  have offsets : data.slice 0 4 ++ data.slice 4 4 = data.slice 0 8 :=
    slice_append_slice data 0 4 4
  have words : data.slice 0 8 ++ data.slice 8 4 = data.take 12 := slice_append_slice data 0 8 4
  calc
    (storedIndex data).packedPreamble
        = packedWord 4 (numberAt data 0 4) ++ packedWord 4 (numberAt data 4 4) ++
            packedWord 4 (declaredCount data) := by
      rw [packedPreamble, ← (announces_storedPreamble data).count]
      rfl
    _ = data.take 12 := by
      rw [metaOffset, callGraphOffset, count, offsets, words]

/-- A complete header is packed again from what is read of it. -/
theorem packed_storedIndex {data : Bytes} (complete : headerEnd data ≤ data.length) :
    (storedIndex data).packed = data.take (headerEnd data) := by
  have behind : declaredCount data * entrySize ≤ (data.drop preambleSize).length := by
    rw [List.length_drop]
    rw [headerEnd_eq] at complete
    omega
  have preamble : preambleSize ≤ data.length := (Nat.le_add_right _ _).trans complete
  rw [packed, packedPreamble_storedIndex preamble, ← takeEntries_drop_preamble,
    packedEntries_takeEntries behind, ← List.take_add]
  rfl

/-! ## Both directions -/

/-- Every index whose numbers fit their words is packed into a header of its size,
which is read again whatever follows it.  What is read of a complete header is packed
to the bytes of that header, and a header that is cut is refused. -/
theorem header_codec_exact :
    (∀ index : Index, index.Packable →
      ∃ header, index.pack? = some header ∧
        (header.length : Int) = headerSize index.entries.length ∧
        ∀ rest, ∃ preamble, unpackPreamble (header ++ rest) = .ok preamble ∧
          preamble.Announces index ∧
          unpackEntries ((header ++ rest).drop preambleSize) preamble.count =
            .ok index.entries) ∧
    (∀ data : Bytes, preambleSize ≤ data.length →
      ∃ preamble, unpackPreamble data = .ok preamble ∧
        (headerSize preamble.count ≤ data.length →
          ∃ entries, unpackEntries (data.drop preambleSize) preamble.count = .ok entries ∧
            (preamble.index entries).pack? =
              some (data.take (headerSize preamble.count).toNat)) ∧
        (data.length < headerSize preamble.count →
          unpackEntries (data.drop preambleSize) preamble.count =
            .error (.missingEntries preamble.count (data.length - preambleSize)))) ∧
    ∀ data : Bytes, data.length < preambleSize →
      unpackPreamble data = .error (.truncated data.length) := by
  refine ⟨?_, ?_, ?_⟩
  · intro index packable
    refine ⟨index.packed, pack?_eq_some_iff.mpr ⟨packable, rfl⟩, ?_, ?_⟩
    · rw [length_packed, headerSize]
      push_cast
      rfl
    · intro rest
      obtain ⟨header, stored⟩ := storedIndex_packed packable rest
      have complete : headerEnd (index.packed ++ rest) ≤ (index.packed ++ rest).length := by
        rw [header, List.length_append]
        exact Nat.le_add_right _ _
      have announces := announces_storedPreamble (index.packed ++ rest)
      have entries := unpackEntries_of_complete complete
      rw [stored] at announces entries
      refine ⟨_, unpackPreamble_of_complete ?_, announces, entries⟩
      exact (Nat.le_add_right _ _).trans complete
  · intro data preamble
    refine ⟨storedPreamble data, unpackPreamble_of_complete preamble, ?_, ?_⟩
    · intro complete
      rw [headerSize_count, Nat.cast_le] at complete
      refine ⟨_, unpackEntries_of_complete complete, ?_⟩
      rw [index_storedPreamble, headerSize_count, Int.toNat_natCast]
      exact pack?_eq_some_iff.mpr ⟨packable_storedIndex data, (packed_storedIndex complete).symm⟩
    · intro cut
      rw [headerSize_count, Nat.cast_lt] at cut
      exact unpackEntries_of_cut preamble cut
  · intro data short
    rw [unpackPreamble, if_pos short]

/-- An index in no order, with the largest offset that a header holds. -/
def crossedIndex : Index where
  metaOffset := 40
  callGraphOffset := 36
  entries := [⟨0x401000, maxOffset⟩, ⟨0x10, 41⟩]

theorem packable_crossedIndex : crossedIndex.Packable := by
  refine ⟨?_, ?_, ?_, ?_⟩
  · exact ⟨by decide, by decide⟩
  · exact ⟨by decide, by decide⟩
  · exact ⟨by decide, by decide⟩
  · intro entry member
    rcases List.mem_pair.mp member with rfl | rfl
    · exact ⟨⟨by decide, by decide⟩, ⟨by decide, by decide⟩⟩
    · exact ⟨⟨by decide, by decide⟩, ⟨by decide, by decide⟩⟩

/-- A header for one entry, with two bytes behind it. -/
def padded : Bytes :=
  [24, 0, 0, 0, 25, 0, 0, 0, 1, 0, 0, 0] ++ List.replicate 14 255

/-- A header that ends early is refused at either place. -/
theorem crossedIndex_exact :
    (∃ header preamble, crossedIndex.pack? = some header ∧ (header.length : Int) = 36 ∧
      unpackPreamble (header ++ [7]) = .ok preamble ∧
        unpackEntries ((header ++ [7]).drop preambleSize) preamble.count =
          .ok crossedIndex.entries) ∧
    (∃ preamble entries, unpackPreamble padded = .ok preamble ∧
      unpackEntries (padded.drop preambleSize) preamble.count = .ok entries ∧
        (preamble.index entries).pack? = some (padded.take 24)) ∧
    (∃ preamble, unpackPreamble (padded.take 23) = .ok preamble ∧
      unpackEntries ((padded.take 23).drop preambleSize) preamble.count =
        .error (.missingEntries 1 11)) ∧
    unpackPreamble (padded.take 11) = .error (.truncated 11) := by
  obtain ⟨packs, reads, refuses⟩ := header_codec_exact
  refine ⟨?_, ?_, ?_, refuses (padded.take 11) (by decide)⟩
  · obtain ⟨header, packed, size, readBack⟩ := packs crossedIndex packable_crossedIndex
    obtain ⟨preamble, read, _, entries⟩ := readBack [7]
    exact ⟨header, preamble, packed, size, read, entries⟩
  · obtain ⟨preamble, read, whole, _⟩ := reads padded (by decide)
    have words : unpackPreamble padded = .ok ⟨24, 25, 1⟩ := rfl
    obtain rfl := Except.ok.inj (read.symm.trans words)
    obtain ⟨entries, readEntries, again⟩ := whole (by decide)
    exact ⟨_, entries, read, readEntries, again⟩
  · obtain ⟨preamble, read, _, cut⟩ := reads (padded.take 23) (by decide)
    have words : unpackPreamble (padded.take 23) = .ok ⟨24, 25, 1⟩ := rfl
    obtain rfl := Except.ok.inj (read.symm.trans words)
    exact ⟨_, read, cut (by decide)⟩

end CodeGraph.Container
