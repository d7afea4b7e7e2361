import CodeGraph.Container.Index
import CodeGraph.Proofs.Sequencing
import Mathlib

/-!
# Packed indexes

An index is packed exactly when its numbers fit their words.  A packed index
has the size that its number of entries calls for, and reading its preamble and
its entries gives the index back, whatever data follows.
-/

namespace CodeGraph.Container

open Sequencing

namespace Index

/-! ## What can be packed -/

def WordFits (width : Nat) (value : Int) : Prop :=
  0 ≤ value ∧ value < Bytes.capacity width

structure PackableEntry (entry : Entry) : Prop where
  address : WordFits 8 entry.address
  offset : WordFits 4 entry.offset

structure Packable (index : Index) : Prop where
  metaOffset : WordFits 4 index.metaOffset
  callGraphOffset : WordFits 4 index.callGraphOffset
  count : WordFits 4 index.entries.length
  entries : ∀ entry ∈ index.entries, PackableEntry entry

def packedWord (width : Nat) (value : Int) : Bytes :=
  Bytes.littleEndian width value.toNat

def packedPreamble (index : Index) : Bytes :=
  packedWord 4 index.metaOffset ++ packedWord 4 index.callGraphOffset ++
    packedWord 4 index.entries.length

def packedEntry (entry : Entry) : Bytes :=
  packedWord 8 entry.address ++ packedWord 4 entry.offset

def packedEntries (entries : List Entry) : Bytes :=
  (entries.map packedEntry).flatten

def packed (index : Index) : Bytes :=
  index.packedPreamble ++ packedEntries index.entries

theorem word?_eq_some_iff {width : Nat} {value : Int} {word : Bytes} :
    word? width value = some word ↔ WordFits width value ∧ word = packedWord width value := by
  unfold word? WordFits packedWord
  by_cases fits : 0 ≤ value ∧ value < Bytes.capacity width
  · simp [fits, eq_comm]
  · simp [fits]

theorem packEntry?_eq_some_iff (entry : Entry) (word : Bytes) :
    packEntry? entry = some word ↔ PackableEntry entry ∧ word = packedEntry entry := by
  unfold packEntry?
  simp only [Option.bind_eq_bind, Option.bind_eq_some_iff, Option.pure_def,
    Option.some.injEq, word?_eq_some_iff]
  constructor
  · intro found
    obtain ⟨_, ⟨address, rfl⟩, _, ⟨offset, rfl⟩, rfl⟩ := found
    exact ⟨⟨address, offset⟩, rfl⟩
  · intro described
    obtain ⟨packable, rfl⟩ := described
    exact ⟨_, ⟨packable.address, rfl⟩, _, ⟨packable.offset, rfl⟩, rfl⟩

theorem pack?_eq_some_iff {index : Index} {header : Bytes} :
    index.pack? = some header ↔ index.Packable ∧ header = index.packed := by
  simp only [pack?, Option.bind_eq_bind, Option.bind_eq_some_iff, Option.pure_def,
    Option.some.injEq, word?_eq_some_iff, mapM_eq_some_iff packEntry?_eq_some_iff]
  constructor
  · intro found
    obtain ⟨_, ⟨metaOffset, rfl⟩, _, ⟨callGraphOffset, rfl⟩, _, ⟨count, rfl⟩,
      _, ⟨entries, rfl⟩, rfl⟩ := found
    exact ⟨⟨metaOffset, callGraphOffset, count, entries⟩, rfl⟩
  · intro described
    obtain ⟨packable, rfl⟩ := described
    exact ⟨_, ⟨packable.metaOffset, rfl⟩, _, ⟨packable.callGraphOffset, rfl⟩,
      _, ⟨packable.count, rfl⟩, _, ⟨packable.entries, rfl⟩, rfl⟩

/-! ## Sizes -/

@[simp] theorem length_packedWord (width : Nat) (value : Int) :
    (packedWord width value).length = width :=
  Bytes.length_littleEndian width value.toNat

@[simp] theorem length_packedPreamble (index : Index) :
    index.packedPreamble.length = preambleSize := by
  simp [packedPreamble, preambleSize]

@[simp] theorem length_packedEntry (entry : Entry) : (packedEntry entry).length = entrySize := by
  simp [packedEntry, entrySize]

@[simp] theorem length_packedEntries (entries : List Entry) :
    (packedEntries entries).length = entries.length * entrySize := by
  induction entries with
  | nil => rfl
  | cons entry entries induction =>
      have split : packedEntries (entry :: entries) =
          packedEntry entry ++ packedEntries entries := rfl
      rw [split, List.length_append, induction, length_packedEntry, List.length_cons,
        Nat.succ_mul, Nat.add_comm]

theorem length_packed (index : Index) :
    index.packed.length = preambleSize + index.entries.length * entrySize := by
  rw [packed, List.length_append, length_packedPreamble, length_packedEntries]

/-! ## Reading back -/

theorem toNat_packedWord {width : Nat} {value : Int} (fits : WordFits width value) :
    (packedWord width value).toNat = value.toNat := by
  have bounds := fits
  unfold WordFits at bounds
  have small : value.toNat < Bytes.capacity width := by omega
  exact Bytes.toNat_littleEndian width value.toNat small

end Index

open Index

/-- A slice in the middle of data. -/
theorem slice_append (front middle rest : Bytes) {offset size : Nat}
    (place : front.length = offset) (length : middle.length = size) :
    (front ++ (middle ++ rest)).slice offset size = middle := by
  rw [Bytes.slice, List.drop_left' place, List.take_left' length]

theorem takeEntries_packedEntries {entries : List Entry}
    (packable : ∀ entry ∈ entries, PackableEntry entry) (rest : Bytes) :
    takeEntries entries.length (packedEntries entries ++ rest) = entries := by
  induction entries with
  | nil => rfl
  | cons entry entries induction =>
      obtain ⟨first, others⟩ := List.forall_mem_cons.mp packable
      have parts : packedEntries (entry :: entries) ++ rest =
          packedWord 8 entry.address ++
            (packedWord 4 entry.offset ++ (packedEntries entries ++ rest)) := by
        simp [packedEntries, packedEntry]
      have address : (packedEntries (entry :: entries) ++ rest).slice 0 8 =
          packedWord 8 entry.address := by
        rw [parts]
        exact slice_append [] _ _ rfl (length_packedWord 8 _)
      have offset : (packedEntries (entry :: entries) ++ rest).slice 8 4 =
          packedWord 4 entry.offset := by
        rw [parts]
        exact slice_append _ _ _ (length_packedWord 8 _) (length_packedWord 4 _)
      have behind : (packedEntries (entry :: entries) ++ rest).drop entrySize =
          packedEntries entries ++ rest := by
        rw [parts, ← List.append_assoc]
        exact List.drop_left' (length_packedEntry entry)
      rw [List.length_cons, takeEntries, address, offset, behind, induction others,
        toNat_packedWord first.address, toNat_packedWord first.offset,
        Int.toNat_of_nonneg first.address.1, Int.toNat_of_nonneg first.offset.1]

theorem unpackPreamble_packedPreamble {index : Index} (packable : index.Packable) :
    unpackPreamble index.packedPreamble =
      .ok ⟨index.metaOffset.toNat, index.callGraphOffset.toNat, index.entries.length⟩ := by
  have metaOffset : index.packedPreamble.slice 0 4 = packedWord 4 index.metaOffset := by
    have parts := slice_append [] (packedWord 4 index.metaOffset)
      (packedWord 4 index.callGraphOffset ++ packedWord 4 index.entries.length) rfl
        (length_packedWord 4 _)
    simpa [packedPreamble] using parts
  have callGraphOffset : index.packedPreamble.slice 4 4 =
      packedWord 4 index.callGraphOffset := by
    have parts := slice_append (packedWord 4 index.metaOffset)
      (packedWord 4 index.callGraphOffset) (packedWord 4 index.entries.length)
        (length_packedWord 4 _) (length_packedWord 4 _)
    simpa [packedPreamble] using parts
  have count : index.packedPreamble.slice 8 4 = packedWord 4 index.entries.length := by
    have place : (packedWord 4 index.metaOffset ++
        packedWord 4 index.callGraphOffset).length = 8 := by
      simp
    have parts := slice_append _ (packedWord 4 index.entries.length) [] place
      (length_packedWord 4 _)
    simpa [packedPreamble] using parts
  have complete : ¬ index.packedPreamble.length < preambleSize := by
    rw [length_packedPreamble]
    exact lt_irrefl preambleSize
  rw [unpackPreamble, if_neg complete, metaOffset, callGraphOffset, count,
    toNat_packedWord packable.metaOffset, toNat_packedWord packable.callGraphOffset,
    toNat_packedWord packable.count, Int.toNat_natCast]

theorem unpackEntries_packedEntries {entries : List Entry}
    (packable : ∀ entry ∈ entries, PackableEntry entry) :
    unpackEntries (packedEntries entries) entries.length = .ok entries := by
  have complete : ¬ ((packedEntries entries).length : Int) < (entries.length : Int) * entrySize := by
    rw [length_packedEntries]
    push_cast
    exact lt_irrefl _
  have taken := takeEntries_packedEntries packable []
  rw [List.append_nil] at taken
  rw [unpackEntries, if_neg complete, Int.toNat_natCast, taken]

/-! ## Data that start with an index -/

theorem slice_packed_preamble (index : Index) (rest : Bytes) :
    (index.packed ++ rest).slice 0 preambleSize = index.packedPreamble := by
  rw [packed, List.append_assoc]
  exact slice_append [] _ _ rfl (length_packedPreamble index)

theorem slice_packed_entries (index : Index) (rest : Bytes) :
    (index.packed ++ rest).slice preambleSize (index.packed.length - preambleSize) =
      packedEntries index.entries := by
  have size : (packedEntries index.entries).length = index.packed.length - preambleSize := by
    rw [length_packed, length_packedEntries, Nat.add_sub_cancel_left]
  rw [packed] at size ⊢
  rw [List.append_assoc]
  exact slice_append _ _ _ (length_packedPreamble index) size

end CodeGraph.Container
