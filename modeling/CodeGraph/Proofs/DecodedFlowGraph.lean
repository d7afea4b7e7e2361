import CodeGraph.Proofs.FlowGraphRoundTrip
import CodeGraph.Proofs.WireReading
import Mathlib

/-!
# Flow graphs of any origin can be written again

A payload need not come from this writer: its fields may be in any order,
repeated, packed, unknown or left to their defaults.  Whatever record is read
from it passes every check of the writer, and reading what is written then
returns the same record as long as the operand text was valid.
-/

namespace CodeGraph.Codec

open Sequencing
open Wire (Field IsWord)

/-! ## What a reading can return -/

/-- A reading that returns has added warnings that are as described. -/
def Adds {α : Type} (reading : Reading α) (described : α → List Warning → Prop) : Prop :=
  ∀ given value after, reading.run.run given = (.ok value, after) →
    ∃ added, after = given ++ added ∧ described value added

section Adds

variable {α β : Type}

theorem adds_pure {value : α} {described : α → List Warning → Prop} (holds : described value []) :
    Adds (pure value) described := by
  intro given result after returned
  cases returned
  exact ⟨[], (List.append_nil given).symm, holds⟩

theorem adds_throw (error : DecodeError) (described : α → List Warning → Prop) :
    Adds (throw error) described := by
  intro given value after impossible
  cases impossible

theorem adds_warn (warning : Warning) : Adds (warn warning) fun _ added => added = [warning] := by
  intro given value after returned
  cases returned
  exact ⟨_, rfl, rfl⟩

theorem adds_bind {first : Reading α} {next : α → Reading β} {middle : α → List Warning → Prop}
    {described : β → List Warning → Prop} (firstAdds : Adds first middle)
    (nextAdds : ∀ value earlier, middle value earlier →
      Adds (next value) fun result later => described result (earlier ++ later)) :
    Adds (first >>= next) described := by
  intro given result after returned
  simp only [ExceptT.run_bind, StateT.run_bind] at returned
  cases outcome : first.run.run given with
  | mk reached between =>
      rw [outcome] at returned
      cases reached with
      | error error => cases returned
      | ok value =>
          obtain ⟨earlier, rfl, fits⟩ := firstAdds given value between outcome
          obtain ⟨later, rfl, holds⟩ := nextAdds value earlier fits _ _ _ returned
          exact ⟨earlier ++ later, List.append_assoc _ _ _, holds⟩

theorem adds_lift_bind {checked : Except DecodeError α} {next : α → Reading β}
    {described : β → List Warning → Prop}
    (nextAdds : ∀ value, checked = .ok value → Adds (next value) described) :
    Adds (liftM checked >>= next) described := by
  intro given result after returned
  cases checked with
  | error error => cases returned
  | ok value => exact nextAdds value rfl given result after returned

theorem Adds.imp {reading : Reading α} {described weaker : α → List Warning → Prop}
    (adds : Adds reading described)
    (implies : ∀ value added, described value added → weaker value added) :
    Adds reading weaker := by
  intro given value after returned
  obtain ⟨added, same, holds⟩ := adds given value after returned
  exact ⟨added, same, implies value added holds⟩

theorem adds_mapM_forall {step : α → Reading β} {items : List α} {property : β → Prop}
    (all : ∀ item ∈ items, Adds (step item) fun value _ => property value) :
    Adds (items.mapM step) fun values _ =>
      values.length = items.length ∧ ∀ value ∈ values, property value := by
  induction items with
  | nil =>
      rw [List.mapM_nil]
      exact adds_pure ⟨rfl, by simp⟩
  | cons item items induction =>
      obtain ⟨head, tail⟩ := List.forall_mem_cons.mp all
      rw [List.mapM_cons]
      refine adds_bind head ?_
      intro value _ holds
      refine adds_bind (induction tail) ?_
      intro values _ rest
      refine adds_pure ⟨?_, List.forall_mem_cons.mpr ⟨holds, rest.2⟩⟩
      rw [List.length_cons, List.length_cons, rest.1]

end Adds

/-! ## Messages of any origin -/

structure InstructionMessage.Storable (message : InstructionMessage) : Prop where
  fields : ∀ field ∈ message.fields, field.Storable
  callTargets : ∀ target ∈ message.callTargets, IsWord target

structure BlockMessage.Storable (message : BlockMessage) : Prop where
  fields : ∀ field ∈ message.fields, field.Storable
  instructions : ∀ instruction ∈ message.instructions, instruction.Storable

structure FlowGraphMessage.Storable (message : FlowGraphMessage) : Prop where
  fields : ∀ field ∈ message.fields, field.Storable
  blocks : ∀ block ∈ message.blocks, block.Storable
  edges : ∀ fields ∈ message.edges, ∀ field ∈ fields, field.Storable

theorem storable_of_parseInstruction {payload : Bytes} {message : InstructionMessage}
    (parsed : parseInstruction payload = some message) : message.Storable := by
  simp only [parseInstruction, Option.bind_eq_bind, Option.bind_eq_some_iff, Option.pure_def,
    Option.some.injEq] at parsed
  obtain ⟨fields, fieldsRead, callTargets, targetsRead, comments, _, rfl⟩ := parsed
  have storable := Wire.storable_of_fields? fieldsRead
  exact ⟨storable, Wire.isWord_of_words? storable targetsRead⟩

theorem storable_of_parseBlock {payload : Bytes} {message : BlockMessage}
    (parsed : parseBlock payload = some message) : message.Storable := by
  simp only [parseBlock, Option.bind_eq_bind, Option.bind_eq_some_iff, Option.pure_def,
    Option.some.injEq] at parsed
  obtain ⟨fields, fieldsRead, instructions, instructionsRead, rfl⟩ := parsed
  exact ⟨Wire.storable_of_fields? fieldsRead,
    forall_of_mapM_eq_some (fun _ _ => storable_of_parseInstruction) instructionsRead⟩

theorem storable_of_parseFlowGraph {payload : Bytes} {message : FlowGraphMessage}
    (parsed : parseFlowGraph payload = some message) : message.Storable := by
  simp only [parseFlowGraph, Option.bind_eq_bind, Option.bind_eq_some_iff, Option.pure_def,
    Option.some.injEq] at parsed
  obtain ⟨fields, fieldsRead, blocks, blocksRead, edges, edgesRead, rfl⟩ := parsed
  exact ⟨Wire.storable_of_fields? fieldsRead,
    forall_of_mapM_eq_some (fun _ _ => storable_of_parseBlock) blocksRead,
    forall_of_mapM_eq_some (fun _ _ => Wire.storable_of_fields?) edgesRead⟩

/-! ## Numbers -/

theorem fits_of_isWord {value : Nat} (isWord : IsWord value) : Fits 64 value :=
  ⟨Int.natCast_nonneg value, by norm_num; omega⟩

theorem fits_word {fields : List Field} (storable : ∀ field ∈ fields, field.Storable)
    (number : Nat) : Fits 64 (word number fields) := by
  apply fits_of_isWord
  unfold word
  cases found : Wire.word64? number fields with
  | none => decide
  | some value => exact Wire.isWord_of_word64? storable found

theorem fits_word32 (number : Nat) (fields : List Field) : Fits 32 (word32 number fields) := by
  have small : word32 number fields < 0x100000000 := by
    unfold word32 Wire.word32?
    cases Wire.word64? number fields with
    | none => decide
    | some value => exact Nat.mod_lt value (by decide)
  exact ⟨Int.natCast_nonneg _, by norm_num; omega⟩

/-! ## Comments and branches -/

/-- Every word unpacks to a comment that can be packed. -/
theorem valid_of_commentOfFields {fields : List Field} {comment : Comment}
    (read : commentOfFields fields = .ok comment) : comment.Valid := by
  unfold commentOfFields at read
  simp only [bind_eq_ok_iff, pure_eq_ok_iff] at read
  obtain ⟨text, _, rfl⟩ := read
  constructor <;> simp only [Comment.unpackFlags, Comment.reservedBits] <;> omega

/-- An enumeration field gives a member, or else its default is one. -/
theorem known_getD_enumerator? {known : Int → Bool} {fallback : Int}
    (member : known fallback = true) (number : Nat) (fields : List Field) :
    known ((Wire.enumerator? known number fields).getD fallback) = true := by
  cases found : Wire.enumerator? known number fields with
  | none => exact member
  | some kind => exact List.of_mem_filter (List.mem_of_getLast? found)

theorem encodable_branchOfFields {fields : List Field}
    (storable : ∀ field ∈ fields, field.Storable) : EncodableBranch (branchOfFields fields) := by
  refine ⟨fits_word storable 1, fits_word storable 2, isBranchKind_iff.mp ?_⟩
  exact known_getD_enumerator? (by rfl) 3 fields

/-! ## Operands -/

/-- Bytes that are absent or valid text. -/
def Textual (stored : Option Bytes) : Prop :=
  ∀ bytes, stored = some bytes → ∃ text, Utf8.decode bytes = .ok text

/-- Operands that the writer accepts and the reader returns as they are. -/
def Operands.Kept (strict : Bool) (operands : Operands) : Prop :=
  operands.raw? = none ∨
    strict = false ∧ operands.runs? = none ∧
      ∃ text error, operands.raw? = some text ∧ Markup.decode text = .error error

theorem wellFormed_of_splitOperands {stored : Bytes} {runs : List Markup.Run}
    (split : splitOperands stored = .ok runs) : Markup.WellFormed runs := by
  unfold splitOperands at split
  cases decoded : Utf8.decode stored with
  | error offset =>
      rw [decoded] at split
      cases split
  | ok text =>
      rw [decoded] at split
      exact (Markup.wellFormed_of_decode split).1

/-- Raw text that was valid cannot be split when it is read again either. -/
theorem decode_of_splitOperands_eq_error {stored : Bytes} {error : Markup.DecodeError}
    (split : splitOperands stored = .error error) (textual : Textual (some stored)) :
    Markup.decode (String.ofList (Utf8.decodeCharsLossy escapeByte stored)) = .error error := by
  obtain ⟨text, decoded⟩ := textual stored rfl
  rw [Utf8.decodeCharsLossy_of_decode escapeByte decoded, String.ofList_toList]
  unfold splitOperands at split
  rw [decoded] at split
  exact split

theorem adds_acceptedOperands (strict : Bool) (address : Nat) (stored : Option Bytes) :
    Adds (readOperands strict address stored) fun operands _ =>
      (∀ runs, operands.runs? = some runs → Markup.WellFormed runs) ∧
        (Textual stored → operands.Kept strict) := by
  cases stored with
  | none => exact adds_pure ⟨by simp [Operands.runs?], fun _ => .inl rfl⟩
  | some stored =>
      unfold readOperands
      cases split : splitOperands stored with
      | ok runs =>
          simp only [split]
          refine adds_pure ⟨?_, fun _ => .inl rfl⟩
          intro others same
          cases same
          exact wellFormed_of_splitOperands split
      | error error =>
          simp only [split]
          cases strict with
          | true => exact adds_throw _ _
          | false =>
              refine adds_bind (adds_warn _) ?_
              intro _ _ _
              refine adds_pure ⟨by simp [Operands.runs?], ?_⟩
              intro textual
              exact .inr ⟨rfl, rfl, _, _, rfl, decode_of_splitOperands_eq_error split textual⟩

/-! ## Records -/

def BlockMessage.Textual (message : BlockMessage) : Prop :=
  ∀ instruction ∈ message.instructions, Codec.Textual (Wire.bytes? 5 instruction.fields)

def FlowGraphMessage.Textual (message : FlowGraphMessage) : Prop :=
  ∀ block ∈ message.blocks, block.Textual

theorem adds_encodableInstruction (strict : Bool) {message : InstructionMessage}
    (storable : message.Storable) :
    Adds (instructionOfMessage strict message) fun instruction _ =>
      EncodableInstruction instruction ∧
        (Textual (Wire.bytes? 5 message.fields) → instruction.KeepsOperands strict) := by
  unfold instructionOfMessage
  refine adds_bind (adds_acceptedOperands strict _ _) ?_
  intro operands _ holds
  refine adds_lift_bind fun mnemonic _ => ?_
  refine adds_lift_bind fun comments read => ?_
  refine adds_pure ⟨?_, holds.2⟩
  have valid : ∀ comment ∈ comments, comment.Valid :=
    forall_of_mapM_eq_ok (fun _ _ => valid_of_commentOfFields) read
  have callTargets : ∀ target ∈ message.callTargets.map Int.ofNat, Fits 64 target := by
    intro target member
    obtain ⟨value, found, rfl⟩ := List.mem_map.mp member
    exact fits_of_isWord (storable.callTargets value found)
  exact ⟨fits_word storable.fields 1, fits_word32 2 _, fits_word32 3 _, holds.1, callTargets,
    valid⟩

theorem adds_encodableBlock (strict : Bool) (address position : Nat) {message : BlockMessage}
    (storable : message.Storable) :
    Adds (blockOfMessage strict address position message) fun block _ =>
      (EncodableBlock block ∧ block.instructions ≠ []) ∧
        (message.Textual → ∀ instruction ∈ block.instructions, instruction.KeepsOperands strict) := by
  unfold blockOfMessage
  cases instructions : message.instructions with
  | nil => exact adds_throw _ _
  | cons first rest =>
      have each : ∀ instruction ∈ first :: rest,
          Adds (instructionOfMessage strict instruction) fun read _ =>
            EncodableInstruction read ∧ (message.Textual → read.KeepsOperands strict) := by
        intro instruction member
        rw [← instructions] at member
        refine (adds_encodableInstruction strict (storable.instructions _ member)).imp ?_
        intro read _ holds
        exact ⟨holds.1, fun textual => holds.2 (textual instruction member)⟩
      refine adds_bind (adds_mapM_forall each) ?_
      intro read _ holds
      refine adds_pure ⟨⟨⟨fits_word storable.fields 1, fun _ member => (holds.2 _ member).1⟩, ?_⟩,
        fun textual _ member => (holds.2 _ member).2 textual⟩
      exact List.ne_nil_of_length_eq_add_one holds.1

/-- Whatever record is read, the writer accepts it. -/
theorem adds_encodableFlowGraph (strict : Bool) {message : FlowGraphMessage}
    (storable : message.Storable) :
    Adds (flowGraphOfMessage strict message) fun graph _ =>
      EncodableFlowGraph graph ∧ (message.Textual → graph.KeepsOperands strict) := by
  unfold flowGraphOfMessage
  cases blocks : message.blocks with
  | nil => exact adds_throw _ _
  | cons first rest =>
      have each : ∀ item ∈ (first :: rest).zipIdx,
          Adds (blockOfMessage strict (word 1 message.fields) item.2 item.1) fun block _ =>
            (EncodableBlock block ∧ block.instructions ≠ []) ∧ (message.Textual →
              ∀ instruction ∈ block.instructions, instruction.KeepsOperands strict) := by
        intro item member
        have found := List.fst_mem_of_mem_zipIdx member
        rw [← blocks] at found
        refine (adds_encodableBlock strict _ item.2 (storable.blocks _ found)).imp ?_
        intro block _ holds
        exact ⟨holds.1, fun textual => holds.2 (textual item.1 found)⟩
      refine adds_bind (adds_mapM_forall each) ?_
      intro read _ holds
      have edges : ∀ edge ∈ message.edges.map branchOfFields, EncodableBranch edge := by
        intro edge member
        obtain ⟨fields, found, rfl⟩ := List.mem_map.mp member
        exact encodable_branchOfFields (storable.edges fields found)
      have nonempty : read ≠ [] := by
        apply List.ne_nil_of_length_eq_add_one
        rw [holds.1, List.length_zipIdx, List.length_cons]
      refine adds_pure ⟨⟨fits_word storable.fields 1, nonempty, ?_, ?_, edges⟩, ?_⟩
      · exact fun block member => (holds.2 block member).1.2
      · exact fun block member => (holds.2 block member).1.1
      · exact fun textual block member => (holds.2 block member).2 textual

/-- The operand text that counts of every instruction in a payload is valid. -/
def TextualOperands (payload : Bytes) : Prop :=
  ∀ message, parseFlowGraph payload = some message → message.Textual

/-- What is returned was read from the message that the payload holds. -/
theorem message_of_decodeFlowGraph {strict : Bool} {payload : Bytes} {graph : FlowGraph}
    (decoded : (decodeFlowGraph strict payload).1 = .ok graph) :
    ∃ message, parseFlowGraph payload = some message ∧
      decodeFlowGraph strict payload = (flowGraphOfMessage strict message).run.run [] := by
  unfold decodeFlowGraph at decoded ⊢
  cases parsed : parseFlowGraph payload with
  | none =>
      rw [parsed] at decoded
      cases decoded
  | some message =>
      refine ⟨message, rfl, ?_⟩
      simp only [parsed] at decoded ⊢
      by_cases complete : message.missing.isEmpty
      · rw [if_pos complete]
      · rw [if_neg complete] at decoded
        cases decoded

theorem encodable_of_decodeFlowGraph {strict : Bool} {payload : Bytes} {graph : FlowGraph}
    (decoded : (decodeFlowGraph strict payload).1 = .ok graph) :
    EncodableFlowGraph graph ∧ (TextualOperands payload → graph.KeepsOperands strict) := by
  obtain ⟨message, parsed, run⟩ := message_of_decodeFlowGraph decoded
  rw [run] at decoded
  obtain ⟨_, _, holds⟩ := adds_encodableFlowGraph strict (storable_of_parseFlowGraph parsed)
    [] graph _ (Prod.ext decoded rfl)
  exact ⟨holds.1, fun textual => holds.2 (textual message parsed)⟩

/-- A payload of any origin that is read leniently is written again.  What is
written is read as a record that is stored in the same bytes, and as the same
record if the operand text was valid.  A byte string that reaches the limit for
a length is outside of what a message can hold. -/
theorem foreignPayload_survives (payload : Bytes) (graph : FlowGraph)
    (decoded : (decodeFlowGraph false payload).1 = .ok graph) :
    ∃ again, encodeFlowGraph graph = .ok again ∧
      (RecordWithinLimit (flowGraphFields graph) →
        (∃ second, (decodeFlowGraph false again).1 = .ok second ∧
          encodeFlowGraph second = .ok again) ∧
        (TextualOperands payload → (decodeFlowGraph false again).1 = .ok graph)) := by
  obtain ⟨encodable, keeps⟩ := encodable_of_decodeFlowGraph decoded
  have encoded := encodeFlowGraph_eq_ok_iff.mpr ⟨encodable, rfl⟩
  refine ⟨_, encoded, ?_⟩
  intro within
  constructor
  · exact ⟨graph.canonical, decodeFlowGraph_lenient encoded within,
      encodeFlowGraph_canonical encoded⟩
  · intro textual
    exact decodeFlowGraph_of_keepsOperands encoded within (keeps textual)

/-- A payload with the edge first, an unknown field, an address that is stored
twice, packed call targets, a branch without a kind, a reserved comment bit and
operand text with an unknown marker. -/
def foreignPayload : Bytes :=
  [26, 4, 8, 5, 16, 5, 72, 1, 8, 7, 18, 25, 18, 21, 8, 5, 16, 2, 42, 4, 27, 101, 97, 120, 58, 2, 1, 2,
    66, 5, 10, 1, 99, 16, 21, 8, 3, 8, 5]

def foreignFlowGraph : FlowGraph where
  address := 5
  blocks := [{
    prime := 3
    instructions := [{
      address := 5, prime := 2, rawOperands := some "\x1beax", callTargets := [1, 2]
      comments := [{ text := "c", repeatable := 1, kind := 2, reserved := 0x10 }] }] }]
  edges := [⟨5, 5, 3⟩]

theorem decode_foreignPayload :
    (decodeFlowGraph false foreignPayload).1 = .ok foreignFlowGraph := by
  cbv

theorem textual_foreignPayload : TextualOperands foreignPayload := by
  intro message parsed
  have stored : ((parseFlowGraph foreignPayload).map fun message =>
      message.blocks.map fun block =>
        block.instructions.map fun instruction => Wire.bytes? 5 instruction.fields) =
          some [[some [27, 101, 97, 120]]] := by
    cbv
  rw [parsed, Option.map_some, Option.some.injEq] at stored
  intro block member instruction found bytes same
  have blockStored := List.mem_map_of_mem (f := fun block : BlockMessage =>
    block.instructions.map fun instruction => Wire.bytes? 5 instruction.fields) member
  rw [stored, List.mem_singleton] at blockStored
  have instructionStored := List.mem_map_of_mem (f := fun instruction : InstructionMessage =>
    Wire.bytes? 5 instruction.fields) found
  rw [blockStored, List.mem_singleton, same, Option.some.injEq] at instructionStored
  subst instructionStored
  exact ⟨"\x1beax", by cbv⟩

/-- It is written in the usual form, and the record is read from that as well. -/
theorem foreignPayload_normalized :
    ∃ again, encodeFlowGraph foreignFlowGraph = .ok again ∧ again ≠ foreignPayload ∧
      (decodeFlowGraph false again).1 = .ok foreignFlowGraph := by
  obtain ⟨again, encoded, survives⟩ :=
    foreignPayload_survives foreignPayload foreignFlowGraph decode_foreignPayload
  obtain ⟨_, rfl⟩ := encodeFlowGraph_eq_ok_iff.mp encoded
  have length : (Wire.encodeFields (flowGraphLayout foreignFlowGraph)).length = 37 := by cbv
  have within := recordWithinLimit_of_encoded encoded (by omega)
  refine ⟨_, encoded, ?_, (survives within).2 textual_foreignPayload⟩
  intro same
  rw [same] at length
  cases length

end CodeGraph.Codec
