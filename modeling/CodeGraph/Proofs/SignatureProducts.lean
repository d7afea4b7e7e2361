import CodeGraph.Proofs.SequenceSignature
import Mathlib

/-!
# Signatures in closed form

A signature is a product over bytes, each with its prime and its position, that
is reduced only once in the end.  So the signature of one token determines the
signature of a mnemonic, and a signature is even only if some byte is zero.
-/

namespace CodeGraph.Signature

/-! ## Products over positions -/

theorem weight_zipIdx_eq_prod (bytes : Bytes) (position : Nat) :
    weight (bytes.zipIdx position) =
      ∏ index : Fin bytes.length, primeOf bytes[index] ^ (position + index) := by
  induction bytes generalizing position with
  | nil => rfl
  | cons byte rest induction =>
      have behind : ∀ index : Fin rest.length, position + (index.succ : Nat) =
          position + 1 + index := by
        intro index
        rw [Fin.val_succ]
        omega
      rw [List.zipIdx_cons, weight_cons, induction]
      simp only [List.length_cons, Fin.prod_univ_succ, behind]
      rfl

/-- The positions that the tokens in front of one take, with those that part them. -/
def room (tokens : List Bytes) (index : Nat) : Nat :=
  ((tokens.take index).map fun token => token.length + 1).sum

theorem room_cons (token : Bytes) (rest : List Bytes) (index : Nat) :
    room (token :: rest) (index + 1) = token.length + 1 + room rest index := by
  rw [room, List.take_succ_cons, List.map_cons, List.sum_cons, room]

theorem weight_places_eq_prod (tokens : List Bytes) (position : Nat) :
    weight (places position tokens) =
      ∏ index : Fin tokens.length, ∏ offset : Fin tokens[index].length,
        primeOf tokens[index][offset] ^ (position + room tokens index + offset) := by
  induction tokens generalizing position with
  | nil => rfl
  | cons token rest induction =>
      have behind : ∀ index : Fin rest.length, position + room (token :: rest) index.succ =
          position + token.length + 1 + room rest index := by
        intro index
        rw [Fin.val_succ, room_cons]
        omega
      rw [places, weight_append, weight_zipIdx_eq_prod, induction]
      simp only [List.length_cons, Fin.prod_univ_succ, behind]
      rfl

theorem mnemonicPrime_eq_prod (mnemonic : Bytes) :
    mnemonicPrime mnemonic =
      (∏ index : Fin mnemonic.length, primeOf mnemonic[index] ^ (1 + index.val)) % words32 := by
  rw [mnemonicPrime, product_eq (by decide), Nat.one_mul, weight_zipIdx_eq_prod]

theorem fingerprint_eq_prod (tokens : List Bytes) :
    fingerprint tokens =
      (∏ index : Fin tokens.length, ∏ offset : Fin tokens[index].length,
        primeOf tokens[index][offset] ^ (1 + room tokens index + offset)) % words64 := by
  rw [fingerprint_eq_weight, weight_places_eq_prod]

/-! ## Parity -/

theorem odd_prod_iff {ι : Type} [Fintype ι] (factor : ι → Nat) :
    Odd (∏ index, factor index) ↔ ∀ index, Odd (factor index) := by
  simp only [← Nat.not_even_iff_odd, even_iff_two_dvd, Nat.prime_two.prime.dvd_finsetProd_iff,
    Finset.mem_univ, true_and, not_exists]

theorem odd_primeOf_iff {byte : UInt8} : Odd (primeOf byte) ↔ byte ≠ 0 := by
  constructor
  · intro odd zero
    rw [zero, primeOf_eq_nth] at odd
    exact absurd (Nat.nth_prime_zero_eq_two ▸ odd) (by decide)
  · exact odd_primeOf

theorem odd_primeOf_pow_iff {byte : UInt8} {position : Nat} :
    Odd (primeOf byte ^ (1 + position)) ↔ byte ≠ 0 := by
  rw [Nat.odd_pow_iff (by omega), odd_primeOf_iff]

theorem odd_mod_iff {value modulus : Nat} (even : 2 ∣ modulus) :
    Odd (value % modulus) ↔ Odd value := by
  rw [Nat.odd_iff, Nat.odd_iff, Nat.mod_mod_of_dvd value even]

theorem forall_ne_zero_iff (bytes : Bytes) :
    (∀ index : Fin bytes.length, bytes[index] ≠ 0) ↔ 0 ∉ bytes := by
  constructor
  · intro nonzero zero
    obtain ⟨index, same⟩ := List.mem_iff_get.mp zero
    exact nonzero index same
  · intro absent index zero
    exact absent (zero ▸ List.getElem_mem index.isLt)

theorem odd_mnemonicPrime_iff (mnemonic : Bytes) : Odd (mnemonicPrime mnemonic) ↔ 0 ∉ mnemonic := by
  rw [mnemonicPrime_eq_prod, odd_mod_iff (by decide), odd_prod_iff]
  simp only [odd_primeOf_pow_iff]
  exact forall_ne_zero_iff mnemonic

theorem odd_fingerprint_iff (tokens : List Bytes) :
    Odd (fingerprint tokens) ↔ ∀ token ∈ tokens, 0 ∉ token := by
  rw [fingerprint_eq_prod, odd_mod_iff (by decide), odd_prod_iff]
  simp only [odd_prod_iff, Nat.add_assoc, odd_primeOf_pow_iff, forall_ne_zero_iff]
  constructor
  · intro absent token member
    obtain ⟨index, rfl⟩ := List.mem_iff_get.mp member
    exact absent index
  · intro absent index
    exact absent _ (List.getElem_mem index.isLt)

/-- The low half of the signature of one token is that of a mnemonic. -/
theorem fingerprint_singleton_mod (token : Bytes) :
    fingerprint [token] % words32 = mnemonicPrime token := by
  have alone : weight (places 1 [token]) = weight (token.zipIdx 1) := by
    rw [places, places, List.append_nil]
  rw [fingerprint_eq_weight, Nat.mod_mod_of_dvd _ (by decide), alone, mnemonicPrime,
    product_eq (by decide), Nat.one_mul]

/-- Both signatures are products of the primes of all bytes, each raised to its
position, under the modulus of their width.  Positions count from one, and one is
left out behind each token. -/
theorem signatures_closed_form :
    (∀ mnemonic : Bytes,
      mnemonicPrime mnemonic =
          (∏ index : Fin mnemonic.length, primeOf mnemonic[index] ^ (1 + index.val)) % 2 ^ 32 ∧
        (Odd (mnemonicPrime mnemonic) ↔ 0 ∉ mnemonic)) ∧
      (∀ tokens : List Bytes,
        fingerprint tokens =
            (∏ index : Fin tokens.length, ∏ offset : Fin tokens[index].length,
              primeOf tokens[index][offset] ^ (1 + room tokens index + offset)) % 2 ^ 64 ∧
          (Odd (fingerprint tokens) ↔ ∀ token ∈ tokens, 0 ∉ token)) ∧
        ∀ token : Bytes, fingerprint [token] % 2 ^ 32 = mnemonicPrime token := by
  refine ⟨?_, ?_, fingerprint_singleton_mod⟩
  · intro mnemonic
    exact ⟨mnemonicPrime_eq_prod mnemonic, odd_mnemonicPrime_iff mnemonic⟩
  · intro tokens
    exact ⟨fingerprint_eq_prod tokens, odd_fingerprint_iff tokens⟩

end CodeGraph.Signature
