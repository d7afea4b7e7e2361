import CodeGraph.Proofs.CallGraphRoundTrip
import CodeGraph.Proofs.DecodedFlowGraph
import CodeGraph.Proofs.MetadataRoundTrip
import Mathlib

/-!
# Metadata and call graphs of any origin can be written again

What is read from a payload passes every check of the writer, in whatever way
the payload stores it: fields in any order or repeated, unknown fields and
members, values left to their defaults.  The record then comes back unchanged.
-/

namespace CodeGraph.Codec

open Sequencing
open Wire (Field)

/-! ## Metadata -/

theorem fits_optionalNumber {number : Nat} {fields : List Field} :
    ∀ value, optionalNumber number fields = some value → Fits 32 value := by
  intro value found
  obtain ⟨stored, read, rfl⟩ := Option.map_eq_some_iff.mp found
  have bounds := fits_word32 number fields
  rw [word32, read] at bounds
  exact bounds

theorem encodable_of_metadataOfFields {fields : List Field} {metadata : Meta}
    (read : metadataOfFields fields = .ok metadata) : EncodableMetadata metadata := by
  unfold metadataOfFields at read
  simp only [bind_eq_ok_iff, pure_eq_ok_iff] at read
  obtain ⟨inputBinary, _, architecture, _, rfl⟩ := read
  exact ⟨fits_optionalNumber, fits_optionalNumber, fits_optionalNumber, fits_optionalNumber,
    fits_optionalNumber, fits_optionalNumber⟩

/-- Text is stored in the bytes that it was read from. -/
theorem encode_of_readOptionalText {name : String} {stored : Option Bytes} {text : Option String}
    (read : readOptionalText name stored = .ok text) : text.map Utf8.encode = stored := by
  cases stored with
  | none =>
      obtain rfl := Except.ok.inj read
      rfl
  | some bytes =>
      obtain ⟨given, found, rfl⟩ := map_eq_ok_iff.mp read
      unfold readText at found
      cases decoded : Utf8.decode bytes with
      | error offset =>
          rw [decoded] at found
          cases found
      | ok characters =>
          rw [decoded] at found
          obtain rfl := Except.ok.inj found
          rw [Option.map_some, Utf8.encode_of_decode decoded]

theorem withinLimit_of_bytes? {number : Nat} {fields : List Field} {content : Bytes}
    (storable : ∀ field ∈ fields, field.Storable) (found : Wire.bytes? number fields = some content) :
    content.length < 0x80000000 := by
  obtain ⟨field, member, holds⟩ := List.mem_filterMap.mp (List.mem_of_getLast? found)
  have payload := (storable field member).payload
  unfold Wire.Field.delimited? at holds
  split at holds
  · next stored =>
      rw [stored] at payload
      split at holds
      · obtain rfl := Option.some.inj holds
        exact payload
      · cases holds
  · cases holds

theorem withinLimit_optionalBytes {number source : Nat} {fields : List Field}
    (storable : ∀ field ∈ fields, field.Storable) :
    ∀ field ∈ optionalBytes number (Wire.bytes? source fields), FieldWithinLimit field := by
  intro field member content holds
  obtain ⟨stored, found, rfl⟩ := List.mem_map.mp member
  cases holds
  exact withinLimit_of_bytes? storable (Option.mem_toList.mp found)

theorem withinLimit_optionalText {number source : Nat} {fields : List Field} {name : String}
    {text : Option String} (storable : ∀ field ∈ fields, field.Storable)
    (read : readOptionalText name (Wire.bytes? source fields) = .ok text) :
    ∀ field ∈ optionalText number text, FieldWithinLimit field := by
  have same : optionalText number text = optionalBytes number (Wire.bytes? source fields) := by
    rw [← encode_of_readOptionalText read]
    cases text with
    | none => rfl
    | some given => rfl
  rw [same]
  exact withinLimit_optionalBytes storable

theorem withinLimit_optionalNumberField {number : Nat} {value : Option Int} :
    ∀ field ∈ optionalNumberField number value, FieldWithinLimit field := by
  intro field member content holds
  obtain ⟨present, _, rfl⟩ := List.mem_map.mp member
  cases holds

/-- No byte string of a metadata record is longer than where it was read from. -/
theorem withinLimit_of_metadataOfFields {fields : List Field} {metadata : Meta}
    (storable : ∀ field ∈ fields, field.Storable)
    (read : metadataOfFields fields = .ok metadata) :
    ∀ field ∈ metadataLayout metadata, FieldWithinLimit field := by
  unfold metadataOfFields at read
  simp only [bind_eq_ok_iff, pure_eq_ok_iff] at read
  obtain ⟨inputBinary, inputRead, architecture, architectureRead, rfl⟩ := read
  simp only [metadataLayout, List.forall_mem_append]
  exact ⟨⟨⟨⟨⟨⟨⟨⟨withinLimit_optionalText storable inputRead, withinLimit_optionalBytes storable⟩,
    withinLimit_optionalNumberField⟩, withinLimit_optionalText storable architectureRead⟩,
    withinLimit_optionalNumberField⟩, withinLimit_optionalNumberField⟩,
    withinLimit_optionalNumberField⟩, withinLimit_optionalNumberField⟩,
    withinLimit_optionalNumberField⟩

/-- A metadata record that is read is written again, and read from that as well. -/
theorem encoded_of_decodeMetadata {payload : Bytes} {metadata : Meta}
    (decoded : decodeMetadata payload = .ok metadata) :
    ∃ again, encodeMetadata metadata = .ok again ∧ decodeMetadata again = .ok metadata := by
  unfold decodeMetadata at decoded
  cases parsed : Wire.fields? 0 payload with
  | none =>
      rw [parsed] at decoded
      cases decoded
  | some fields =>
      rw [parsed] at decoded
      have encodable := encodable_of_metadataOfFields decoded
      have encoded := encodeMetadata_eq_ok_iff.mpr ⟨encodable, rfl⟩
      have within := withinLimit_of_metadataOfFields (Wire.storable_of_fields? parsed) decoded
      have recordWithin := recordWithinLimit_of_layout (metadataFields_eq_ok_iff metadata) within
      exact ⟨_, encoded, decodeMetadata_of_encoded encoded recordWithin⟩

/-! ## Call graphs -/

structure CallGraphMessage.Storable (message : CallGraphMessage) : Prop where
  vertices : ∀ fields ∈ message.vertices, ∀ field ∈ fields, field.Storable
  edges : ∀ fields ∈ message.edges, ∀ field ∈ fields, field.Storable

theorem storable_of_parseCallGraph {payload : Bytes} {message : CallGraphMessage}
    (parsed : parseCallGraph payload = some message) : message.Storable := by
  simp only [parseCallGraph, Option.bind_eq_bind, Option.bind_eq_some_iff, Option.pure_def,
    Option.some.injEq] at parsed
  obtain ⟨fields, _, vertices, verticesRead, edges, edgesRead, rfl⟩ := parsed
  exact ⟨forall_of_mapM_eq_some (fun _ _ => Wire.storable_of_fields?) verticesRead,
    forall_of_mapM_eq_some (fun _ _ => Wire.storable_of_fields?) edgesRead⟩

theorem encodable_of_vertexOfFields {fields : List Field} {vertex : CallGraph.Vertex}
    (storable : ∀ field ∈ fields, field.Storable) (read : vertexOfFields fields = .ok vertex) :
    EncodableVertex vertex := by
  unfold vertexOfFields at read
  simp only [bind_eq_ok_iff, pure_eq_ok_iff] at read
  obtain ⟨mangledName, _, demangledName, _, rfl⟩ := read
  refine ⟨fits_word storable 1, fits_word storable 2, isFunctionKind_iff.mp ?_⟩
  exact known_getD_enumerator? (by rfl) 3 fields

theorem encodable_callOfFields {fields : List Field}
    (storable : ∀ field ∈ fields, field.Storable) : EncodableCall (callOfFields fields) :=
  ⟨fits_word storable 1, fits_word storable 2, fits_word storable 3⟩

theorem encodable_of_decodeCallGraph {payload : Bytes} {graph : CallGraph}
    (decoded : decodeCallGraph payload = .ok graph) : EncodableCallGraph graph := by
  unfold decodeCallGraph at decoded
  cases parsed : parseCallGraph payload with
  | none =>
      rw [parsed] at decoded
      cases decoded
  | some message =>
      simp only [parsed] at decoded
      split at decoded
      · have storable := storable_of_parseCallGraph parsed
        simp only [bind_eq_ok_iff, pure_eq_ok_iff] at decoded
        obtain ⟨vertices, verticesRead, rfl⟩ := decoded
        constructor
        · intro vertex member
          obtain ⟨fields, found, read⟩ := exists_item_of_mapM_eq_ok verticesRead member
          exact encodable_of_vertexOfFields (storable.vertices fields found) read
        · intro edge member
          obtain ⟨fields, found, rfl⟩ := List.mem_map.mp member
          exact encodable_callOfFields (storable.edges fields found)
      · cases decoded

/-! ## Both ways -/

/-- Metadata and call graphs come back as they were written.  A record that was
read from any payload is written again, in bytes from which it is read once
more and which writing it a second time repeats.  Names of a call graph are kept
inside of its vertices, which always store their kind and name mark, so a vertex
that nearly fills its payload can grow past the limit for a length. -/
theorem metadata_callGraph_roundTrip :
    (∀ metadata payload, encodeMetadata metadata = .ok payload →
      RecordWithinLimit (metadataFields metadata) → decodeMetadata payload = .ok metadata) ∧
    (∀ graph payload, encodeCallGraph graph = .ok payload →
      RecordWithinLimit (callGraphFields graph) → decodeCallGraph payload = .ok graph) ∧
    (∀ payload metadata, decodeMetadata payload = .ok metadata →
      ∃ again, encodeMetadata metadata = .ok again ∧ decodeMetadata again = .ok metadata ∧
        ∀ second, decodeMetadata again = .ok second → encodeMetadata second = .ok again) ∧
    ∀ payload graph, decodeCallGraph payload = .ok graph →
      ∃ again, encodeCallGraph graph = .ok again ∧
        (RecordWithinLimit (callGraphFields graph) → decodeCallGraph again = .ok graph ∧
          ∀ second, decodeCallGraph again = .ok second → encodeCallGraph second = .ok again) := by
  refine ⟨?_, ?_, ?_, ?_⟩
  · intro metadata payload encoded within
    exact decodeMetadata_of_encoded encoded within
  · intro graph payload encoded within
    exact decodeCallGraph_of_encoded encoded within
  · intro payload metadata decoded
    obtain ⟨again, encoded, same⟩ := encoded_of_decodeMetadata decoded
    refine ⟨again, encoded, same, ?_⟩
    intro second read
    rw [same, Except.ok.injEq] at read
    rw [← read, encoded]
  · intro payload graph decoded
    have encoded := encodeCallGraph_eq_ok_iff.mpr ⟨encodable_of_decodeCallGraph decoded, rfl⟩
    refine ⟨_, encoded, ?_⟩
    intro within
    have same := decodeCallGraph_of_encoded encoded within
    refine ⟨same, ?_⟩
    intro second read
    rw [same, Except.ok.injEq] at read
    rw [← read, encoded]

/-- A count of more than 32 bits, a name that is stored twice, an unknown field,
an address space of zero and an empty hash. -/
def foreignMetadataPayload : Bytes :=
  [48, 133, 128, 128, 128, 16, 10, 1, 97, 10, 1, 98, 160, 1, 1, 24, 0, 18, 0]

def foreignMetadata : Meta where
  inputBinary := some "b"
  inputHash := some []
  addressSpace := some 0
  numInstructions := some 5

/-- A call in front of the vertices, and a vertex whose fields are out of order,
with an empty name and without a kind. -/
def foreignCallGraphPayload : Bytes :=
  [18, 6, 24, 7, 16, 6, 8, 5, 10, 6, 16, 3, 8, 5, 42, 0]

def foreignCallGraph : CallGraph where
  vertices := [{ address := 5, prime := 3, mangledName := some "" }]
  edges := [⟨5, 6, 7⟩]

theorem foreignRecords_roundTrip :
    (∃ again, encodeMetadata foreignMetadata = .ok again ∧ again ≠ foreignMetadataPayload ∧
      decodeMetadata again = .ok foreignMetadata) ∧
    ∃ again, encodeCallGraph foreignCallGraph = .ok again ∧ again ≠ foreignCallGraphPayload ∧
      decodeCallGraph again = .ok foreignCallGraph := by
  obtain ⟨_, _, metadataSurvives, callGraphSurvives⟩ := metadata_callGraph_roundTrip
  have metadataRead : decodeMetadata foreignMetadataPayload = .ok foreignMetadata := by cbv
  have callGraphRead : decodeCallGraph foreignCallGraphPayload = .ok foreignCallGraph := by cbv
  obtain ⟨first, metadataWritten, metadataSame, _⟩ := metadataSurvives _ _ metadataRead
  obtain ⟨second, callGraphWritten, settles⟩ := callGraphSurvives _ _ callGraphRead
  obtain ⟨_, rfl⟩ := encodeMetadata_eq_ok_iff.mp metadataWritten
  obtain ⟨_, rfl⟩ := encodeCallGraph_eq_ok_iff.mp callGraphWritten
  have metadataLength : (Wire.encodeFields (metadataLayout foreignMetadata)).length = 9 := by cbv
  have callGraphLength : (Wire.encodeFields (callGraphLayout foreignCallGraph)).length = 20 := by
    cbv
  have within := recordWithinLimit_of_layout (callGraphFields_eq_ok_iff foreignCallGraph)
    (withinLimit_of_length (by omega))
  refine ⟨⟨_, metadataWritten, ?_, metadataSame⟩, _, callGraphWritten, ?_, (settles within).1⟩
  · intro same
    rw [same] at metadataLength
    cases metadataLength
  · intro same
    rw [same] at callGraphLength
    cases callGraphLength

end CodeGraph.Codec
