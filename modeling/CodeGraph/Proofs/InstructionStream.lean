import CodeGraph.Disassembly.Blocks
import CodeGraph.Proofs.Sequencing
import Mathlib

/-!
# Instructions in a row

A decoder gives instructions that follow one another without a gap: each has
the bytes that the code goes on with, and the next one starts behind it.  So
their addresses ascend and lie in the code.
-/

namespace CodeGraph.Disassembly

open Sequencing

/-- Instructions that follow one another in code that lies at an address. -/
inductive Consecutive : Bytes → Int → List DecodedInsn → Prop where
  | nil (code : Bytes) (address : Int) : Consecutive code address []
  | cons {code : Bytes} {address : Int} {insn : DecodedInsn} {rest : List DecodedInsn} :
      insn.address = address → insn.bytes ≠ [] → insn.bytes <+: code →
      Consecutive (code.drop insn.bytes.length) insn.finish rest →
      Consecutive code address (insn :: rest)

/-- What a table decodes is consecutive. -/
theorem consecutive_decodeTable (table : List TableRow) (code : Bytes) (address : Int) :
    Consecutive code address (decodeTable table code address) := by
  fun_induction decodeTable table code address with
  | case1 code address missing => exact .nil code address
  | case2 code address row found fits induction =>
      have length : (code.take row.size).length = row.size := by
        rw [List.length_take]
        omega
      refine .cons rfl ?_ ⟨_, List.take_append_drop _ _⟩ ?_
      · rw [ne_eq, ← List.length_eq_zero_iff, length]
        omega
      · simp only [DecodedInsn.finish, length]
        exact induction
  | case3 code address row found short => exact .nil code address

namespace Consecutive

theorem inside {code : Bytes} {address : Int} {insns : List DecodedInsn}
    (consecutive : Consecutive code address insns) :
    ∀ insn ∈ insns, address ≤ insn.address ∧ insn.address < address + code.length := by
  induction consecutive with
  | nil => exact List.forall_mem_nil _
  | @cons code address insn rest here nonempty part _ induction =>
      have size := List.length_pos_iff.mpr nonempty
      have fits := part.length_le
      rw [List.forall_mem_cons]
      refine ⟨by omega, ?_⟩
      intro later member
      obtain ⟨lower, upper⟩ := induction later member
      rw [DecodedInsn.finish] at lower upper
      rw [List.length_drop] at upper
      omega

theorem ascending {code : Bytes} {address : Int} {insns : List DecodedInsn}
    (consecutive : Consecutive code address insns) :
    (insns.map (·.address)).Pairwise (· < ·) := by
  rw [List.pairwise_map]
  induction consecutive with
  | nil => exact .nil
  | cons _ nonempty _ remaining induction =>
      have size := List.length_pos_iff.mpr nonempty
      refine .cons ?_ induction
      intro later member
      obtain ⟨lower, _⟩ := remaining.inside later member
      rw [DecodedInsn.finish] at lower
      omega

/-- Every address names one instruction. -/
theorem eq_of_address {code : Bytes} {address : Int} {insns : List DecodedInsn}
    (consecutive : Consecutive code address insns) {left right : DecodedInsn}
    (leftMember : left ∈ insns) (rightMember : right ∈ insns)
    (same : left.address = right.address) : left = right :=
  List.inj_on_of_nodup_map (consecutive.ascending.imp ne_of_lt) leftMember rightMember same

theorem bytes_of_code {code : Bytes} {address : Int} {insns : List DecodedInsn}
    (consecutive : Consecutive code address insns) : insns.flatMap (·.bytes) <+: code := by
  induction consecutive with
  | nil code => exact ⟨code, rfl⟩
  | @cons code address insn rest _ _ part _ induction =>
      obtain ⟨later, rfl⟩ := part
      rw [List.drop_left] at induction
      rw [List.flatMap_cons]
      exact (List.prefix_append_right_inj _).mpr induction

end Consecutive

/-! ## Numbers in operands -/

/-- The token is no decimal number, or names a register, or is short enough to be
read. -/
def OperandText.Readable (registers : List String) (token : List Char) : Prop :=
  token.all isDecimalDigit = true → String.ofList token ∉ registers → token.length ≤ 4300

/-- All numbers in the operand text of the instruction can be read. -/
def DecodedInsn.Readable (insn : DecodedInsn) : Prop :=
  ∀ token ∈ OperandText.tokens insn.operandText.toList,
    OperandText.Readable insn.registers (stripBlanks token)

theorem OperandText.checkNumber_eq_ok_iff {registers : List String} {token : List Char} :
    checkNumber registers token = .ok () ↔ Readable registers token := by
  rw [checkNumber, Readable, Numeral.checkLength, Numeral.digitLimit]
  by_cases digits : token.all isDecimalDigit = true
  · by_cases named : String.ofList token ∈ registers
    · simp [named]
    · simp [digits, named]
  · simp [digits]

theorem checkOperands_eq_ok_iff {insns : List DecodedInsn} :
    checkOperands insns = .ok () ↔ ∀ insn ∈ insns, insn.Readable := by
  rw [checkOperands, forM_eq_ok_iff]
  simp only [OperandText.checkNumbers, forM_eq_ok_iff, OperandText.checkNumber_eq_ok_iff]
  rfl

theorem readBody_eq_ok_iff {decode : Decoder} {code : Bytes} {entry : Int} {functions : List Int}
    {strings : Int → Option Bytes} {body : Body} :
    readBody decode code entry functions strings = .ok body ↔
      (∀ insn ∈ decode code entry, insn.Readable) ∧
        body = functionBody decode code entry functions strings := by
  rw [readBody, bind_eq_ok_iff, ← checkOperands_eq_ok_iff]
  simp only [pure_eq_ok_iff]
  constructor
  · intro read
    obtain ⟨_, checked, same⟩ := read
    exact ⟨checked, same⟩
  · intro described
    obtain ⟨checked, same⟩ := described
    exact ⟨(), checked, same⟩

theorem readBody_of_unread {decode : Decoder} {code : Bytes} {entry : Int} {functions : List Int}
    {strings : Int → Option Bytes} {insn : DecodedInsn} {rest : List DecodedInsn}
    {fault : Numeral.IntegerFault} (decoded : decode code entry = insn :: rest)
    (unread : OperandText.checkNumbers insn.registers insn.operandText = .error fault) :
    readBody decode code entry functions strings = .error fault := by
  rw [readBody, decoded]
  change (OperandText.checkNumbers insn.registers insn.operandText >>= _) >>= _ = _
  rw [unread]
  rfl

/-! ### Numbers of many digits -/

namespace OperandText

theorem not_blank_of_isWordChar {character : Char} (word : isWordChar character = true) :
    isBlank character = false ∧ isSeparator character = false ∧ isBracket character = false := by
  simpa [isWordChar, and_assoc] using word

/-- A text without blanks and signs is one token. -/
theorem tokens_of_word {text : List Char} (nonempty : text ≠ [])
    (word : ∀ character ∈ text, isWordChar character = true) : tokens text = [text] := by
  obtain ⟨first, rest, rfl⟩ := List.exists_cons_of_ne_nil nonempty
  obtain ⟨firstWord, restWord⟩ := List.forall_mem_cons.mp word
  obtain ⟨notBlank, notSeparator, notBracket⟩ := not_blank_of_isWordChar firstWord
  have next : nextToken (first :: rest) = (first :: rest, []) := by
    simp [nextToken, notBlank, notSeparator, notBracket, List.takeWhile_eq_self_iff.mpr restWord,
      List.dropWhile_eq_nil_iff.mpr restWord]
  rw [tokens, dif_neg nonempty, next, tokens, dif_pos rfl]

theorem stripBlanks_of_word {text : List Char}
    (word : ∀ character ∈ text, isWordChar character = true) : stripBlanks text = text := by
  have kept : ∀ part : List Char, (∀ character ∈ part, isWordChar character = true) →
      part.dropWhile isBlank = part := by
    intro part all
    cases part with
    | nil => rfl
    | cons first rest =>
        obtain ⟨notBlank, _⟩ := not_blank_of_isWordChar (all first List.mem_cons_self)
        rw [List.dropWhile_cons_of_neg (by simp [notBlank])]
  rw [stripBlanks, kept text word, kept text.reverse, List.reverse_reverse]
  intro character member
  exact word character (List.mem_reverse.mp member)

end OperandText

/-- Digits of a number are read as one number, however many they are. -/
theorem OperandText.checkNumbers_of_digits {registers : List String} {digits : List Char}
    (nonempty : digits ≠ []) (word : ∀ character ∈ digits, isWordChar character = true) :
    checkNumbers registers (String.ofList digits) = checkNumber registers digits := by
  rw [checkNumbers, String.toList_ofList, tokens_of_word nonempty word]
  change (checkNumber registers (stripBlanks digits) >>= fun _ => pure ()) = _
  rw [stripBlanks_of_word word]
  exact bind_pure _

end CodeGraph.Disassembly
