import CodeGraph.Codec.FlowGraph
import CodeGraph.Proofs.CommentFlags
import Mathlib

/-!
# Flag words as bits

A flag word may be any number, also a negative one, which stands for its
two's complement bits.  The parts that are taken from it are its bits under a
mask each, and so nothing of the low 32 bits is lost.
-/

namespace CodeGraph.Comment

/-! ## Masks -/

theorem testBit_toNat_emod (value : Int) (width bit : Nat) :
    (value % 2 ^ width).toNat.testBit bit = (decide (bit < width) && value.testBit bit) := by
  cases value with
  | ofNat number =>
      have natural : (Int.ofNat number % 2 ^ width).toNat = number % 2 ^ width := by
        rw [Int.ofNat_eq_natCast]
        norm_cast
      rw [natural, Nat.testBit_mod_two_pow]
      rfl
  | negSucc number =>
      have small : number % 2 ^ width < 2 ^ width := Nat.mod_lt _ (Nat.two_pow_pos width)
      have natural : (Int.negSucc number % 2 ^ width).toNat =
          2 ^ width - (number % 2 ^ width + 1) := by
        have power : (2 : Int) ^ width = ((2 ^ width : Nat) : Int) := by norm_cast
        rw [power, Int.negSucc_emod number (by exact_mod_cast Nat.two_pow_pos width), ← Int.natCast_emod]
        omega
      rw [natural, Nat.testBit_two_pow_sub_succ small, Nat.testBit_mod_two_pow]
      change _ = (decide (bit < width) && !number.testBit bit)
      cases decide (bit < width) <;> rfl

theorem testBit_ediv (value : Int) (low bit : Nat) :
    (value / 2 ^ low).testBit bit = value.testBit (bit + low) := by
  cases value with
  | ofNat number =>
      have natural : Int.ofNat number / 2 ^ low = Int.ofNat (number / 2 ^ low) := by
        rw [Int.ofNat_eq_natCast]
        norm_cast
      rw [natural]
      exact Nat.testBit_div_two_pow number bit
  | negSucc number =>
      have negative : Int.negSucc number / 2 ^ low = Int.negSucc (number / 2 ^ low) := by
        rw [Int.negSucc_ediv number (by positivity), Int.negSucc_eq]
        norm_cast
      rw [negative]
      exact congrArg Bool.not (Nat.testBit_div_two_pow number bit)

theorem exists_land_eq (value : Int) (mask : Nat) :
    ∃ masked : Nat, Int.land value mask = masked ∧
      ∀ bit, masked.testBit bit = (value.testBit bit && mask.testBit bit) := by
  obtain ⟨masked, same⟩ : ∃ masked : Nat, Int.land value mask = masked := by
    cases value with
    | ofNat number => exact ⟨_, rfl⟩
    | negSucc number => exact ⟨_, rfl⟩
  refine ⟨masked, same, ?_⟩
  intro bit
  have bits := Int.testBit_land value mask bit
  rw [same] at bits
  exact bits

/-- A mask of neighbouring bits selects what lies between two powers of two. -/
theorem land_field (value : Int) (low width : Nat) :
    Int.land value ((2 ^ low * (2 ^ width - 1) : Nat) : Int) =
      2 ^ low * (value / 2 ^ low % 2 ^ width) := by
  obtain ⟨masked, same, bits⟩ := exists_land_eq value (2 ^ low * (2 ^ width - 1))
  have between : 0 ≤ value / 2 ^ low % 2 ^ width := Int.emod_nonneg _ (by positivity)
  have natural : (2 : Int) ^ low * (value / 2 ^ low % 2 ^ width) =
      ((2 ^ low * (value / 2 ^ low % 2 ^ width).toNat : Nat) : Int) := by
    push_cast
    rw [Int.toNat_of_nonneg between]
  rw [same, natural]
  congr 1
  apply Nat.eq_of_testBit_eq
  intro bit
  rw [bits, Nat.testBit_two_pow_mul, Nat.testBit_two_pow_mul, Nat.testBit_two_pow_sub_one,
    testBit_toNat_emod, testBit_ediv]
  by_cases above : low ≤ bit
  · rw [Nat.sub_add_cancel above]
    cases value.testBit bit <;> simp [above]
  · simp [above]

theorem land_or (value : Int) (left right : Nat) :
    Int.land value ((left ||| right : Nat) : Int) =
      (((Int.land value left).toNat ||| (Int.land value right).toNat : Nat) : Int) := by
  obtain ⟨both, same, bits⟩ := exists_land_eq value (left ||| right)
  obtain ⟨first, sameFirst, bitsFirst⟩ := exists_land_eq value left
  obtain ⟨second, sameSecond, bitsSecond⟩ := exists_land_eq value right
  rw [same, sameFirst, sameSecond, Int.toNat_natCast, Int.toNat_natCast]
  congr 1
  apply Nat.eq_of_testBit_eq
  intro bit
  rw [Nat.testBit_or, bits, bitsFirst, bitsSecond, Nat.testBit_or]
  exact Bool.and_or_distrib_left _ _ _

theorem land_reservedMask (flags : Int) : Int.land flags reservedMask = reservedBits flags := by
  have field := land_field flags 4 12
  norm_num at field
  rw [reservedMask, reservedBits, mul_comm]
  exact field

theorem land_word (flags : Int) : Int.land flags 0xFFFFFFFF = flags % 0x100000000 := by
  have field := land_field flags 0 32
  norm_num at field
  exact field

/-- The bits of the three properties, which lie on both sides of the reserved ones. -/
theorem land_properties (flags : Int) :
    Int.land flags 0xFFFF000F = flags % 0x10 + 0x10000 * (flags / 0x10000 % 0x10000) := by
  have low := land_field flags 0 4
  have high := land_field flags 16 16
  norm_num at low high
  have mask : (0xFFFF000F : Int) = ((0xFFFF0000 ||| 0xF : Nat) : Int) := rfl
  rw [mask, land_or]
  push_cast
  rw [low, high]
  have small : (flags % 0x10).toNat < 2 ^ 16 := by omega
  have shifted : (0x10000 * (flags / 0x10000 % 0x10000)).toNat =
      2 ^ 16 * (flags / 0x10000 % 0x10000).toNat := by omega
  rw [shifted, ← Nat.two_pow_add_eq_or_of_lt small]
  omega

/-! ## Reserved bits -/

/-- A negative number has bits as far up as one looks. -/
theorem exists_testBit_of_neg {bits : Int} (negative : bits < 0) (low : Nat) :
    ∃ bit, low ≤ bit ∧ bits.testBit bit = true := by
  obtain ⟨number, rfl⟩ := Int.eq_negSucc_of_lt_zero negative
  have clear : number.testBit (number + low) = false := by
    apply Nat.testBit_lt_two_pow
    exact (Nat.lt_two_pow_self).trans_le (Nat.pow_le_pow_right (by omega) (Nat.le_add_right _ _))
  exact ⟨number + low, Nat.le_add_left _ _, congrArg Bool.not clear⟩

theorem testBit_reservedMask (bit : Nat) :
    reservedMask.testBit bit = decide (4 ≤ bit ∧ bit < 16) := by
  have mask : reservedMask = 2 ^ 4 * (2 ^ 12 - 1) := rfl
  rw [mask, Nat.testBit_two_pow_mul, Nat.testBit_two_pow_sub_one, ← Bool.decide_and]
  apply decide_eq_decide.mpr
  omega

/-- A number consists of reserved bits exactly if it has no other bit set. -/
theorem reservedBits_eq_self_iff {bits : Int} :
    reservedBits bits = bits ↔ ∀ bit, bits.testBit bit = true → 4 ≤ bit ∧ bit < 16 := by
  rw [← land_reservedMask]
  constructor
  · intro same bit set
    have masked := Int.testBit_land bits reservedMask bit
    rw [same, set, Bool.true_and] at masked
    have inside : reservedMask.testBit bit = true := masked.symm
    rw [testBit_reservedMask] at inside
    exact of_decide_eq_true inside
  · intro inside
    have nonnegative : 0 ≤ bits := by
      by_contra negative
      obtain ⟨bit, high, set⟩ := exists_testBit_of_neg (not_le.mp negative) 16
      have low := (inside bit set).2
      omega
    obtain ⟨number, rfl⟩ := Int.eq_ofNat_of_zero_le nonnegative
    obtain ⟨masked, same, maskedBits⟩ := exists_land_eq number reservedMask
    rw [same]
    congr 1
    apply Nat.eq_of_testBit_eq
    intro bit
    rw [maskedBits, testBit_reservedMask]
    change (number.testBit bit && _) = number.testBit bit
    cases set : number.testBit bit with
    | false => rfl
    | true =>
        rw [Bool.true_and]
        exact decide_eq_true (inside bit set)

/-! ## Words and comments -/

/-- The comment that a text and a flag word make. -/
def ofFlags (text : String) (flags : Int) : Comment where
  text := text
  repeatable := (unpackFlags flags).repeatable
  kind := (unpackFlags flags).kind
  operand := (unpackFlags flags).operand
  reserved := reservedBits flags

theorem commentOfFields_eq (fields : List Wire.Field) :
    Codec.commentOfFields fields =
      (Codec.readText "comment" ((Wire.bytes? 1 fields).getD [])).map fun text =>
        ofFlags text ((Wire.word32? 2 fields).getD 0 : Nat) := by
  cases read : Codec.readText "comment" ((Wire.bytes? 1 fields).getD []) with
  | error error =>
      unfold Codec.commentOfFields
      rw [read]
      rfl
  | ok text =>
      unfold Codec.commentOfFields
      rw [read]
      rfl

theorem packFlags_unpackFlags (flags : Int) :
    ∃ word : Nat,
      packFlags (unpackFlags flags).repeatable (unpackFlags flags).kind
          (unpackFlags flags).operand = .ok word ∧
        word = Int.land flags 0xFFFF000F := by
  refine ⟨_, packFlags_eq_ok_iff.mpr ⟨⟨?_, ?_, ?_⟩, rfl⟩, ?_⟩
  · simp only [unpackFlags]
    omega
  · simp only [unpackFlags]
    omega
  · simp only [unpackFlags]
    omega
  · rw [land_properties]
    simp only [unpackFlags, Int.toNat_natCast]
    omega

theorem valid_ofFlags (text : String) (flags : Int) : (ofFlags text flags).Valid := by
  constructor
  · simp only [ofFlags, unpackFlags]
    omega
  · simp only [ofFlags, unpackFlags]
    omega
  · simp only [ofFlags, unpackFlags]
    omega
  · simp only [ofFlags, reservedBits]
    omega

theorem flags_ofFlags (text : String) (flags : Int) :
    ∃ word : Nat, (ofFlags text flags).flags = .ok word ∧ word = Int.land flags 0xFFFFFFFF := by
  refine ⟨_, flags_eq_ok_iff.mpr ⟨valid_ofFlags text flags, rfl⟩, ?_⟩
  rw [land_word]
  simp only [word, ofFlags, unpackFlags, reservedBits, Int.toNat_natCast]
  omega

/-- Some part of a comment has no place in a flag word. -/
def Overflows (comment : Comment) : Prop :=
  ¬(comment.repeatable = 0 ∨ comment.repeatable = 1) ∨
    ¬(0 ≤ comment.kind ∧ comment.kind ≤ 7) ∨
      ¬(0 ≤ comment.operand ∧ comment.operand ≤ 0xFFFF) ∨
        ∃ bit, comment.reserved.testBit bit = true ∧ ¬(4 ≤ bit ∧ bit < 16)

theorem not_overflows_iff {comment : Comment} : ¬ comment.Overflows ↔ comment.Valid := by
  rw [Overflows, not_or, not_not, not_or, not_not, not_or, not_not]
  constructor
  · intro fits
    obtain ⟨repeatable, kind, operand, reserved⟩ := fits
    refine ⟨repeatable, kind, operand, reservedBits_eq_self_iff.mpr ?_⟩
    intro bit set
    by_contra outside
    exact reserved ⟨bit, set, outside⟩
  · intro valid
    refine ⟨valid.repeatable, valid.kind, valid.operand, ?_⟩
    intro found
    obtain ⟨bit, set, outside⟩ := found
    exact outside (reservedBits_eq_self_iff.mp valid.reserved bit set)

/-- The parts of a comment are those that its flag word holds. -/
structure RecoveredFrom (comment : Comment) (word : Nat) : Prop where
  repeatable : (unpackFlags word).repeatable = comment.repeatable
  kind : (unpackFlags word).kind = comment.kind
  operand : (unpackFlags word).operand = comment.operand
  reserved : reservedBits word = comment.reserved

theorem recoveredFrom_word {comment : Comment} (valid : comment.Valid) :
    comment.RecoveredFrom comment.word := by
  have truth : 0 ≤ comment.repeatable := by
    have repeatable := valid.repeatable
    omega
  refine ⟨?_, ?_, ?_, reservedBits_word valid⟩
  · rw [unpackFlags_word valid]
    exact Int.toNat_of_nonneg truth
  · rw [unpackFlags_word valid]
    exact Int.toNat_of_nonneg valid.kind.1
  · rw [unpackFlags_word valid]
    exact Int.toNat_of_nonneg valid.operand.1

/-- Whatever number is taken for a flag word, its low 32 bits are those of the
comment made of it, and what is packed of the three properties alone are their
bits.  A comment has a flag word, which gives back all its parts, unless one of
them has no place there. -/
theorem flagWords_lossless :
    (∀ flags : Int,
      (∃ word : Nat,
        packFlags (unpackFlags flags).repeatable (unpackFlags flags).kind
            (unpackFlags flags).operand = .ok word ∧
          word = Int.land flags 0xFFFF000F) ∧
        ∀ text,
          (ofFlags text flags).reserved = Int.land flags 0xFFF0 ∧
            ∃ word : Nat, (ofFlags text flags).flags = .ok word ∧
              word = Int.land flags 0xFFFFFFFF) ∧
      (∀ fields, Codec.commentOfFields fields =
        (Codec.readText "comment" ((Wire.bytes? 1 fields).getD [])).map fun text =>
          ofFlags text ((Wire.word32? 2 fields).getD 0 : Nat)) ∧
        ∀ comment : Comment,
          (comment.Overflows ∧ ∃ error, comment.flags = .error error) ∨
            (¬ comment.Overflows ∧ ∃ word, comment.flags = .ok word ∧ word < 0x100000000 ∧
              comment.RecoveredFrom word) := by
  refine ⟨?_, commentOfFields_eq, ?_⟩
  · intro flags
    refine ⟨packFlags_unpackFlags flags, ?_⟩
    intro text
    exact ⟨(land_reservedMask flags).symm, flags_ofFlags text flags⟩
  · intro comment
    by_cases overflows : comment.Overflows
    · left
      refine ⟨overflows, ?_⟩
      cases outcome : comment.flags with
      | error error => exact ⟨error, rfl⟩
      | ok word =>
          have valid := (flags_eq_ok_iff.mp outcome).1
          exact (not_overflows_iff.mpr valid overflows).elim
    · right
      have valid := not_overflows_iff.mp overflows
      exact ⟨overflows, comment.word, flags_eq_ok_iff.mpr ⟨valid, rfl⟩, word_lt valid,
        recoveredFrom_word valid⟩

end CodeGraph.Comment
