import CodeGraph.Disassembly.Records
import CodeGraph.Proofs.FieldValues
import Mathlib

/-!
# The string hash as a polynomial

Shifting, adding and subtracting multiplies the hash by 65599 and adds the next byte.
So the hash of a string is a polynomial in 65599 whose coefficients are its bytes,
modulo the number of words, and a common front counts with a power of 65599.  In
integers the subtraction never goes below zero.
-/

namespace CodeGraph.Signature

/-- The hash that is reached from a value by taking up further bytes. -/
def hashFrom (value : Nat) (data : Bytes) : Nat :=
  data.foldl
    (fun value byte => (byte.toNat + value <<< 6 + value <<< 16 - value) % words32) value

/-- The bytes as the coefficients of a polynomial in 65599, the last byte constant. -/
def polynomial (data : Bytes) : Nat :=
  ∑ index : Fin data.length, (data.get index).toNat * 65599 ^ (data.length - 1 - index)

theorem hashFrom_cons (value : Nat) (byte : UInt8) (rest : Bytes) :
    hashFrom value (byte :: rest) = hashFrom ((value * 65599 + byte.toNat) % words32) rest := by
  have taken : byte.toNat + value <<< 6 + value <<< 16 - value = value * 65599 + byte.toNat := by
    rw [Nat.shiftLeft_eq, Nat.shiftLeft_eq]
    omega
  rw [hashFrom, List.foldl_cons, taken]
  rfl

theorem stringHash_append_eq_hashFrom (front data : Bytes) :
    stringHash (front ++ data) = hashFrom (stringHash front) data :=
  List.foldl_append

theorem hashFrom_lt {value : Nat} (small : value < words32) (data : Bytes) :
    hashFrom value data < words32 := by
  induction data generalizing value with
  | nil => exact small
  | cons byte rest induction =>
      rw [hashFrom_cons]
      apply induction
      exact Nat.mod_lt _ (by decide)

theorem stringHash_lt (data : Bytes) : stringHash data < words32 :=
  hashFrom_lt (by decide) data

/-! ## The closed form -/

theorem polynomial_cons (byte : UInt8) (rest : Bytes) :
    polynomial (byte :: rest) = byte.toNat * 65599 ^ rest.length + polynomial rest := by
  have later : ∀ index : Fin rest.length,
      rest.length + 1 - 1 - (index.succ : Nat) = rest.length - 1 - index := by
    intro index
    rw [Fin.val_succ]
    omega
  simp only [polynomial, List.length_cons, Fin.sum_univ_succ, later]
  rfl

theorem hashFrom_modEq (value : Nat) (data : Bytes) :
    hashFrom value data ≡ value * 65599 ^ data.length + polynomial data [MOD words32] := by
  induction data generalizing value with
  | nil =>
      have constant : value * 65599 ^ ([] : Bytes).length + polynomial [] = value := by
        simp [polynomial]
      rw [constant]
      rfl
  | cons byte rest induction =>
      have reduced : (value * 65599 + byte.toNat) % words32 ≡
          value * 65599 + byte.toNat [MOD words32] := Nat.mod_modEq _ _
      rw [hashFrom_cons]
      calc
        hashFrom ((value * 65599 + byte.toNat) % words32) rest
            ≡ (value * 65599 + byte.toNat) % words32 * 65599 ^ rest.length + polynomial rest
              [MOD words32] := induction _
        _ ≡ (value * 65599 + byte.toNat) * 65599 ^ rest.length + polynomial rest [MOD words32] :=
          (reduced.mul_right _).add_right _
        _ = value * 65599 ^ (byte :: rest).length + polynomial (byte :: rest) := by
          rw [polynomial_cons, List.length_cons, pow_succ]
          ring

theorem stringHash_eq_polynomial (data : Bytes) :
    stringHash data = polynomial data % words32 := by
  have same := hashFrom_modEq 0 data
  rw [Nat.zero_mul, Nat.zero_add] at same
  exact (Nat.mod_eq_of_lt (stringHash_lt data)).symm.trans same

theorem stringHash_append (left right : Bytes) :
    stringHash (left ++ right) =
      (stringHash left * 65599 ^ right.length + stringHash right) % words32 := by
  have behind : polynomial right ≡ stringHash right [MOD words32] := by
    rw [stringHash_eq_polynomial]
    exact (Nat.mod_modEq _ _).symm
  have same := (hashFrom_modEq (stringHash left) right).trans (behind.add_left _)
  rw [← stringHash_append_eq_hashFrom] at same
  exact (Nat.mod_eq_of_lt (stringHash_lt _)).symm.trans same

/-! ## The field of the hash -/

theorem fits_stringHash (data : Bytes) : Codec.Fits 32 (stringHash data) := by
  have small := stringHash_lt data
  rw [words32] at small
  rw [Codec.Fits]
  omega

theorem fits_stringReference (stringData : Option Bytes) :
    Codec.Fits 32 (Disassembly.stringReference stringData) := by
  have zero : Codec.Fits 32 0 := by norm_num [Codec.Fits]
  cases stringData with
  | none => exact zero
  | some data =>
      rw [Disassembly.stringReference]
      split
      · exact zero
      · exact fits_stringHash data

/-! ## Values in integers -/

def partialSums (value : Int) (byte : UInt8) : List Int :=
  [value <<< (6 : Nat), byte.toNat + value <<< (6 : Nat), value <<< (16 : Nat),
    byte.toNat + value <<< (6 : Nat) + value <<< (16 : Nat)]

/-- What one byte makes of a hash before the remainder is taken. -/
def difference (value : Int) (byte : UInt8) : Int :=
  byte.toNat + value <<< (6 : Nat) + value <<< (16 : Nat) - value

/-- All values of the computation in integers, where subtraction can fall below zero,
from the first value to the hash. -/
def integerValues : Int → Bytes → List Int
  | value, [] => [value]
  | value, byte :: rest =>
      value :: partialSums value byte ++
        difference value byte :: integerValues (difference value byte % words32) rest

theorem difference_natCast (value : Nat) (byte : UInt8) :
    difference value byte = (value * 65599 + byte.toNat : Nat) := by
  rw [difference, Int.shiftLeft_eq, Int.shiftLeft_eq]
  push_cast
  ring

theorem nonneg_of_mem_partialSums {value : Nat} {byte : UInt8} {number : Int}
    (member : number ∈ partialSums value byte) : 0 ≤ number := by
  simp only [partialSums, Int.shiftLeft_eq, List.mem_cons, List.not_mem_nil, or_false] at member
  omega

theorem integerValues_cons (value : Nat) (byte : UInt8) (rest : Bytes) :
    integerValues value (byte :: rest) =
      (value : Int) :: partialSums value byte ++ difference value byte ::
        integerValues ((value * 65599 + byte.toNat) % words32 : Nat) rest := by
  rw [integerValues, difference_natCast, ← Int.natCast_mod]

theorem nonneg_of_mem_integerValues {value : Nat} {data : Bytes} {number : Int}
    (member : number ∈ integerValues value data) : 0 ≤ number := by
  induction data generalizing value with
  | nil =>
      obtain rfl := List.mem_singleton.mp member
      exact Int.natCast_nonneg value
  | cons byte rest induction =>
      rw [integerValues_cons, List.mem_append, List.mem_cons, List.mem_cons] at member
      rcases member with (rfl | sum) | rfl | later
      · exact Int.natCast_nonneg value
      · exact nonneg_of_mem_partialSums sum
      · rw [difference_natCast]
        exact Int.natCast_nonneg _
      · exact induction later

theorem getLast?_integerValues (value : Nat) (data : Bytes) :
    (integerValues value data).getLast? = some (hashFrom value data : Int) := by
  induction data generalizing value with
  | nil => rfl
  | cons byte rest induction =>
      have last := induction ((value * 65599 + byte.toNat) % words32)
      rw [integerValues_cons, hashFrom_cons, List.getLast?_append, List.getLast?_cons, last]
      rfl

/-! ## The hash -/

/-- The hash is the polynomial of the bytes modulo the number of words.  It fits its
field, and no value on the way to it is negative. -/
theorem stringHash_polynomial :
    (∀ data : Bytes, stringHash data =
      (∑ index : Fin data.length, (data.get index).toNat * 65599 ^ (data.length - 1 - index)) %
        2 ^ 32) ∧
    (∀ left right : Bytes, stringHash (left ++ right) =
      (stringHash left * 65599 ^ right.length + stringHash right) % 2 ^ 32) ∧
    (∀ data : Bytes,
      Codec.wordField 32 3 (stringHash data) = .ok ⟨3, .varint (stringHash data)⟩) ∧
    (∀ insn : Disassembly.Insn, Codec.Fits 32 insn.record.stringReference) ∧
    ∀ data : Bytes, (integerValues 0 data).getLast? = some (stringHash data : Int) ∧
      ∀ number ∈ integerValues 0 data, 0 ≤ number := by
  refine ⟨stringHash_eq_polynomial, stringHash_append, ?_, ?_, ?_⟩
  · intro data
    exact Codec.wordField_eq_ok_iff.mpr ⟨fits_stringHash data, rfl⟩
  · intro insn
    exact fits_stringReference insn.stringData
  · intro data
    refine ⟨getLast?_integerValues 0 data, ?_⟩
    intro number member
    exact nonneg_of_mem_integerValues member

/-- The last difference for a text of two letters. -/
theorem integerValues_ab :
    (6363201 : Int) ∈ integerValues 0 [0x61, 0x62] ∧ (0 : Int) ≤ 6363201 ∧
      (integerValues 0 [0x61, 0x62]).getLast? = some (stringHash [0x61, 0x62] : Int) := by
  obtain ⟨_, _, _, _, integers⟩ := stringHash_polynomial
  obtain ⟨last, nonnegative⟩ := integers [0x61, 0x62]
  have member : (6363201 : Int) ∈ integerValues 0 [0x61, 0x62] := by decide
  exact ⟨member, nonnegative _ member, last⟩

end CodeGraph.Signature
