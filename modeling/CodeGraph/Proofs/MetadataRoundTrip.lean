import CodeGraph.Proofs.FieldValues
import Mathlib

/-!
# Metadata survives writing and reading

Every field of a metadata record may be absent; an absent value and a value
that is zero or empty are stored differently, so both come back as they were.
-/

namespace CodeGraph.Codec

open Sequencing
open Wire (Field)

/-! ## The stored form -/

def metadataLayout (metadata : Meta) : List Field :=
  optionalText 1 metadata.inputBinary ++ optionalBytes 2 metadata.inputHash ++
    optionalNumberField 3 metadata.addressSpace ++ optionalText 4 metadata.architecture ++
      optionalNumberField 5 metadata.maxMnemonicLength ++
        optionalNumberField 6 metadata.numInstructions ++
          optionalNumberField 7 metadata.numFunctions ++
            optionalNumberField 8 metadata.numBasicBlocks ++
              optionalNumberField 9 metadata.numEdges

structure EncodableMetadata (metadata : Meta) : Prop where
  addressSpace : ∀ value, metadata.addressSpace = some value → Fits 32 value
  maxMnemonicLength : ∀ value, metadata.maxMnemonicLength = some value → Fits 32 value
  numInstructions : ∀ value, metadata.numInstructions = some value → Fits 32 value
  numFunctions : ∀ value, metadata.numFunctions = some value → Fits 32 value
  numBasicBlocks : ∀ value, metadata.numBasicBlocks = some value → Fits 32 value
  numEdges : ∀ value, metadata.numEdges = some value → Fits 32 value

theorem metadataFields_eq_ok_iff (metadata : Meta) (fields : List Field) :
    metadataFields metadata = .ok fields ↔
      EncodableMetadata metadata ∧ fields = metadataLayout metadata := by
  unfold metadataFields
  simp only [bind_eq_ok_iff, pure_eq_ok_iff, optionalWord_eq_ok_iff]
  constructor
  · intro accepted
    obtain ⟨_, ⟨addressSpace, rfl⟩, _, ⟨maxMnemonicLength, rfl⟩, _, ⟨numInstructions, rfl⟩,
      _, ⟨numFunctions, rfl⟩, _, ⟨numBasicBlocks, rfl⟩, _, ⟨numEdges, rfl⟩, rfl⟩ := accepted
    exact ⟨⟨addressSpace, maxMnemonicLength, numInstructions, numFunctions, numBasicBlocks,
      numEdges⟩, rfl⟩
  · intro characterized
    obtain ⟨encodable, rfl⟩ := characterized
    exact ⟨_, ⟨encodable.addressSpace, rfl⟩, _, ⟨encodable.maxMnemonicLength, rfl⟩,
      _, ⟨encodable.numInstructions, rfl⟩, _, ⟨encodable.numFunctions, rfl⟩,
      _, ⟨encodable.numBasicBlocks, rfl⟩, _, ⟨encodable.numEdges, rfl⟩, rfl⟩

theorem encodeMetadata_eq (metadata : Meta) :
    encodeMetadata metadata = ((metadataFields metadata).map Wire.encodeFields).mapError .metadata := by
  unfold encodeMetadata
  cases metadataFields metadata with
  | error error => rfl
  | ok fields => rfl

theorem encodeMetadata_eq_ok_iff {metadata : Meta} {payload : Bytes} :
    encodeMetadata metadata = .ok payload ↔
      EncodableMetadata metadata ∧ payload = Wire.encodeFields (metadataLayout metadata) := by
  rw [encodeMetadata_eq]
  exact encoded_eq_ok_iff (metadataFields_eq_ok_iff metadata)

theorem regular_metadataLayout {metadata : Meta} (encodable : EncodableMetadata metadata) :
    ∀ field ∈ metadataLayout metadata, Regular field := by
  simp only [metadataLayout, List.forall_mem_append]
  exact ⟨⟨⟨⟨⟨⟨⟨⟨regular_optionalText _ (by decide), regular_optionalBytes _ (by decide)⟩,
    regular_optionalNumber encodable.addressSpace (by decide) (by decide)⟩,
    regular_optionalText _ (by decide)⟩,
    regular_optionalNumber encodable.maxMnemonicLength (by decide) (by decide)⟩,
    regular_optionalNumber encodable.numInstructions (by decide) (by decide)⟩,
    regular_optionalNumber encodable.numFunctions (by decide) (by decide)⟩,
    regular_optionalNumber encodable.numBasicBlocks (by decide) (by decide)⟩,
    regular_optionalNumber encodable.numEdges (by decide) (by decide)⟩

/-! ## Reading -/

theorem map_ofNat_mod_of_fits {value : Option Int}
    (fits : ∀ present, value = some present → Fits 32 present) :
    (value.map Int.toNat).map (fun stored => Int.ofNat (stored % 0x100000000)) = value := by
  cases value with
  | none => rfl
  | some present =>
      have stored := fits present rfl
      simp only [Option.map_some, toNat_mod_of_fits stored, Int.ofNat_eq_natCast,
        toNat_of_fits stored]

theorem optionalNumber_of_numbersOf {number : Nat} {fields : List Field} {value : Option Int}
    (stored : numbersOf number fields = value.toList.map Int.toNat)
    (fits : ∀ present, value = some present → Fits 32 present) :
    optionalNumber number fields = value := by
  unfold optionalNumber Wire.word32?
  rw [word64?_eq, stored, List.getLast?_map, getLast?_toList, Option.map_map]
  exact map_ofNat_mod_of_fits fits

/-- A written metadata record is read as it was. -/
theorem decodeMetadata_of_encoded {metadata : Meta} {payload : Bytes}
    (encoded : encodeMetadata metadata = .ok payload)
    (within : RecordWithinLimit (metadataFields metadata)) :
    decodeMetadata payload = .ok metadata := by
  obtain ⟨encodable, rfl⟩ := encodeMetadata_eq_ok_iff.mp encoded
  have stored := (metadataFields_eq_ok_iff metadata _).mpr ⟨encodable, rfl⟩
  have inputBinary : Wire.bytes? 1 (metadataLayout metadata) =
      metadata.inputBinary.map Utf8.encode := by
    simp [bytes?_eq, metadataLayout, getLast?_toList]
  have inputHash : Wire.bytes? 2 (metadataLayout metadata) = metadata.inputHash := by
    simp [bytes?_eq, metadataLayout, getLast?_toList]
  have architecture : Wire.bytes? 4 (metadataLayout metadata) =
      metadata.architecture.map Utf8.encode := by
    simp [bytes?_eq, metadataLayout, getLast?_toList]
  have addressSpace : optionalNumber 3 (metadataLayout metadata) =
      metadata.addressSpace :=
    optionalNumber_of_numbersOf (by simp [metadataLayout]) encodable.addressSpace
  have maxMnemonicLength : optionalNumber 5 (metadataLayout metadata) =
      metadata.maxMnemonicLength :=
    optionalNumber_of_numbersOf (by simp [metadataLayout]) encodable.maxMnemonicLength
  have numInstructions : optionalNumber 6 (metadataLayout metadata) =
      metadata.numInstructions :=
    optionalNumber_of_numbersOf (by simp [metadataLayout]) encodable.numInstructions
  have numFunctions : optionalNumber 7 (metadataLayout metadata) =
      metadata.numFunctions :=
    optionalNumber_of_numbersOf (by simp [metadataLayout]) encodable.numFunctions
  have numBasicBlocks : optionalNumber 8 (metadataLayout metadata) =
      metadata.numBasicBlocks :=
    optionalNumber_of_numbersOf (by simp [metadataLayout]) encodable.numBasicBlocks
  have numEdges : optionalNumber 9 (metadataLayout metadata) =
      metadata.numEdges :=
    optionalNumber_of_numbersOf (by simp [metadataLayout]) encodable.numEdges
  unfold decodeMetadata
  rw [fields?_of_regular 0 (regular_metadataLayout encodable) (within _ stored)]
  simp only [metadataOfFields, inputBinary, inputHash, architecture, readOptionalText_encode,
    addressSpace, maxMnemonicLength, numInstructions, numFunctions, numBasicBlocks, numEdges]
  rfl

end CodeGraph.Codec
