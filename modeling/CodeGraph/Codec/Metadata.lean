import CodeGraph.Codec.Value

/-!
# The metadata record

Nine fields that may each be absent.
-/

namespace CodeGraph.Codec

open Wire (Field)

/-- The fields of a metadata record, in the order of their numbers. -/
def metadataFields (metadata : Meta) : Except ValueError (List Field) := do
  let addressSpace ← optionalWord 32 3 metadata.addressSpace
  let maxMnemonicLength ← optionalWord 32 5 metadata.maxMnemonicLength
  let numInstructions ← optionalWord 32 6 metadata.numInstructions
  let numFunctions ← optionalWord 32 7 metadata.numFunctions
  let numBasicBlocks ← optionalWord 32 8 metadata.numBasicBlocks
  let numEdges ← optionalWord 32 9 metadata.numEdges
  return optionalText 1 metadata.inputBinary ++ optionalBytes 2 metadata.inputHash ++
    addressSpace ++ optionalText 4 metadata.architecture ++ maxMnemonicLength ++
    numInstructions ++ numFunctions ++ numBasicBlocks ++ numEdges

/-- The payload of a metadata record. -/
def encodeMetadata (metadata : Meta) : Except EncodeError Bytes :=
  match metadataFields metadata with
  | .ok fields => .ok (Wire.encodeFields fields)
  | .error error => .error (.metadata error)

/-- The number in a 32-bit field. -/
def optionalNumber (number : Nat) (fields : List Field) : Option Int :=
  (Wire.word32? number fields).map Int.ofNat

/-- The metadata record that a message holds. -/
def metadataOfFields (fields : List Field) : Except DecodeError Meta := do
  let inputBinary ← readOptionalText "input_binary" (Wire.bytes? 1 fields)
  let architecture ← readOptionalText "architecture_name" (Wire.bytes? 4 fields)
  return {
    inputBinary
    inputHash := Wire.bytes? 2 fields
    addressSpace := optionalNumber 3 fields
    architecture
    maxMnemonicLength := optionalNumber 5 fields
    numInstructions := optionalNumber 6 fields
    numFunctions := optionalNumber 7 fields
    numBasicBlocks := optionalNumber 8 fields
    numEdges := optionalNumber 9 fields }

/-- Reads a metadata record. -/
def decodeMetadata (payload : Bytes) : Except DecodeError Meta :=
  match Wire.fields? 0 payload with
  | none => .error (.corrupt .metadata)
  | some fields => metadataOfFields fields

end CodeGraph.Codec
