import CodeGraph.Comment
import Mathlib

/-!
# Flag words of comments

A comment whose properties are in range has exactly one flag word; its four
parts occupy different bits, so each of them is read back from the word.
-/

namespace CodeGraph.Comment

/-- The properties of a comment fit the bits kept for them. -/
structure Valid (comment : Comment) : Prop where
  repeatable : comment.repeatable = 0 ∨ comment.repeatable = 1
  kind : 0 ≤ comment.kind ∧ comment.kind ≤ 7
  operand : 0 ≤ comment.operand ∧ comment.operand ≤ 0xFFFF
  reserved : reservedBits comment.reserved = comment.reserved

/-- The flag word of a comment whose properties are in range. -/
def word (comment : Comment) : Nat :=
  comment.repeatable.toNat + 2 * comment.kind.toNat + 0x10000 * comment.operand.toNat +
    comment.reserved.toNat

theorem packFlags_eq_ok_iff {repeatable kind operand : Int} {packed : Nat} :
    packFlags repeatable kind operand = .ok packed ↔
      ((repeatable = 0 ∨ repeatable = 1) ∧ (0 ≤ kind ∧ kind ≤ 7) ∧
        (0 ≤ operand ∧ operand ≤ 0xFFFF)) ∧
          packed = repeatable.toNat + 2 * kind.toNat + 0x10000 * operand.toNat := by
  unfold packFlags
  by_cases truth : repeatable ≠ 0 ∧ repeatable ≠ 1
  · rw [if_pos truth]
    constructor
    · intro impossible
      cases impossible
    · intro described
      obtain ⟨⟨fits, _⟩, _⟩ := described
      omega
  · rw [if_neg truth]
    by_cases kindOutside : kind < 0 ∨ 7 < kind
    · rw [if_pos kindOutside]
      constructor
      · intro impossible
        cases impossible
      · intro described
        obtain ⟨⟨_, fits, _⟩, _⟩ := described
        omega
    · rw [if_neg kindOutside]
      by_cases operandOutside : operand < 0 ∨ 0xFFFF < operand
      · rw [if_pos operandOutside]
        constructor
        · intro impossible
          cases impossible
        · intro described
          obtain ⟨⟨_, _, fits⟩, _⟩ := described
          omega
      · rw [if_neg operandOutside, Except.ok.injEq]
        constructor
        · intro same
          exact ⟨⟨by omega, by omega, by omega⟩, same.symm⟩
        · intro described
          obtain ⟨_, same⟩ := described
          exact same.symm

/-- Exactly the comments with properties in range have a flag word. -/
theorem flags_eq_ok_iff {comment : Comment} {word : Nat} :
    comment.flags = .ok word ↔ comment.Valid ∧ word = comment.word := by
  unfold flags
  by_cases reserved : reservedBits comment.reserved = comment.reserved
  · rw [if_neg (not_not.mpr reserved)]
    cases packed : packFlags comment.repeatable comment.kind comment.operand with
    | error error =>
        constructor
        · intro impossible
          cases impossible
        · intro described
          obtain ⟨valid, _⟩ := described
          have accepted := packFlags_eq_ok_iff.mpr
            ⟨⟨valid.repeatable, valid.kind, valid.operand⟩, rfl⟩
          rw [packed] at accepted
          cases accepted
    | ok value =>
        obtain ⟨⟨repeatable, kind, operand⟩, rfl⟩ := packFlags_eq_ok_iff.mp packed
        simp only [bind, Except.bind, pure, Except.pure, Except.ok.injEq]
        constructor
        · intro same
          exact ⟨⟨repeatable, kind, operand, reserved⟩, same.symm⟩
        · intro described
          obtain ⟨_, same⟩ := described
          exact same.symm
  · rw [if_pos reserved]
    constructor
    · intro impossible
      cases impossible
    · intro described
      obtain ⟨valid, _⟩ := described
      exact (reserved valid.reserved).elim

section Word

variable {comment : Comment} (valid : comment.Valid)

include valid

theorem reserved_bounds : 0 ≤ comment.reserved ∧ comment.reserved ≤ 0xFFF0 := by
  have exact := valid.reserved
  unfold reservedBits at exact
  omega

theorem word_lt : comment.word < 0x100000000 := by
  have reserved := reserved_bounds valid
  have kind := valid.kind
  have operand := valid.operand
  rcases valid.repeatable with zero | one <;> unfold word <;> omega

theorem unpackFlags_word :
    unpackFlags comment.word =
      ⟨comment.repeatable.toNat, comment.kind.toNat, comment.operand.toNat⟩ := by
  have reserved := reserved_bounds valid
  have exact := valid.reserved
  have kind := valid.kind
  have operand := valid.operand
  have repeatable := valid.repeatable
  unfold reservedBits at exact
  unfold unpackFlags word
  simp only [Properties.mk.injEq]
  refine ⟨?_, ?_, ?_⟩ <;> omega

theorem reservedBits_word : reservedBits comment.word = comment.reserved := by
  have reserved := reserved_bounds valid
  have exact := valid.reserved
  have kind := valid.kind
  have operand := valid.operand
  have repeatable := valid.repeatable
  unfold reservedBits at exact ⊢
  unfold word
  omega

end Word

end CodeGraph.Comment
