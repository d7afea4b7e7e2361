import CodeGraph.Proofs.PrimeTable
import Mathlib

/-!
# What the signature of a token sequence keeps of the order

The signature is a product of primes, each raised to the sum of the positions at
which its byte stands.  So two orders of the same tokens are told apart when the
primes of the bytes whose sums differ do not happen to make up for each other.
They are not told apart when anagrams change places, and neither when two tokens
of one length stand as a palindrome.
-/

namespace CodeGraph.Signature

/-! ## The signature as one product -/

/-- The bytes of tokens with their positions, of which the first is given. -/
def places : Nat → List Bytes → List (UInt8 × Nat)
  | _, [] => []
  | position, token :: rest =>
      token.zipIdx position ++ places (position + token.length + 1) rest

/-- The product of the primes of bytes, each raised to its position. -/
def weight (placed : List (UInt8 × Nat)) : Nat :=
  (placed.map fun (byte, position) => primeOf byte ^ position).prod

@[simp] theorem weight_nil : weight [] = 1 := rfl

@[simp] theorem weight_cons (byte : UInt8) (position : Nat) (rest : List (UInt8 × Nat)) :
    weight ((byte, position) :: rest) = primeOf byte ^ position * weight rest := by
  simp [weight]

@[simp] theorem weight_append (left right : List (UInt8 × Nat)) :
    weight (left ++ right) = weight left * weight right := by
  simp [weight]

/-- Reducing at every byte gives the reduced product. -/
theorem product_eq {modulus value : Nat} (small : value < modulus) (position : Nat)
    (bytes : Bytes) :
    product modulus position value bytes = value * weight (bytes.zipIdx position) % modulus := by
  induction bytes generalizing position value with
  | nil => simp [product, Nat.mod_eq_of_lt small]
  | cons byte rest induction =>
      have reduced : value * (Nat.pow (primeOf byte) position % modulus) % modulus < modulus :=
        Nat.mod_lt _ (Nat.zero_lt_of_lt small)
      rw [product, induction reduced, List.zipIdx_cons, weight_cons, Nat.pow_eq, Nat.mul_mod_mod,
        Nat.mod_mul_mod, Nat.mul_assoc]

theorem fingerprintFrom_eq {value : Nat} (small : value < words64) (position : Nat)
    (tokens : List Bytes) :
    fingerprintFrom position value tokens = value * weight (places position tokens) % words64 := by
  induction tokens generalizing position value with
  | nil => simp [fingerprintFrom, places, Nat.mod_eq_of_lt small]
  | cons token rest induction =>
      have reduced : value * product words64 position 1 token % words64 < words64 :=
        Nat.mod_lt _ (by decide)
      rw [fingerprintFrom, induction reduced, places, weight_append,
        product_eq (by decide : 1 < words64), Nat.one_mul, Nat.mul_mod_mod, Nat.mod_mul_mod,
        Nat.mul_assoc]

theorem fingerprint_eq_weight (tokens : List Bytes) :
    fingerprint tokens = weight (places 1 tokens) % words64 := by
  rw [fingerprint, fingerprintFrom_eq (by decide), Nat.one_mul]

theorem fingerprint_eq_iff {left right : List Bytes} :
    fingerprint left = fingerprint right ↔
      weight (places 1 left) ≡ weight (places 1 right) [MOD words64] := by
  rw [fingerprint_eq_weight, fingerprint_eq_weight]
  rfl

/-- All primes but that of the byte zero are odd. -/
theorem odd_weight {position : Nat} {tokens : List Bytes}
    (nonzero : ∀ token ∈ tokens, ∀ byte ∈ token, byte ≠ 0) :
    Odd (weight (places position tokens)) := by
  induction tokens generalizing position with
  | nil => exact odd_one
  | cons token rest induction =>
      obtain ⟨here, others⟩ := List.forall_mem_cons.mp nonzero
      rw [places, weight_append]
      refine Odd.mul ?_ (induction others)
      clear nonzero
      induction token generalizing position with
      | nil => exact odd_one
      | cons byte bytes tokenInduction =>
          obtain ⟨first, later⟩ := List.forall_mem_cons.mp here
          rw [List.zipIdx_cons, weight_cons]
          exact (odd_primeOf first).pow.mul (tokenInduction later)

theorem modEq_mul_left_iff {common left right : Nat} (odd : Odd common) :
    common * left ≡ common * right [MOD words64] ↔ left ≡ right [MOD words64] := by
  have coprime : Nat.gcd words64 common = 1 := by
    rw [show words64 = 2 ^ 64 by rfl]
    exact Nat.Coprime.pow_left 64 odd.coprime_two_left
  constructor
  · exact Nat.ModEq.cancel_left_of_coprime coprime
  · exact Nat.ModEq.mul_left common

/-! ## Sums of positions -/

/-- The sum of the positions at which a byte stands in tokens. -/
def positionSum (byte : UInt8) (tokens : List Bytes) : Nat :=
  ((places 1 tokens).map fun (other, position) => if other = byte then position else 0).sum

theorem weight_eq_prod (placed : List (UInt8 × Nat)) :
    weight placed = ∏ byte, primeOf byte ^
      (placed.map fun (other, position) => if other = byte then position else 0).sum := by
  induction placed with
  | nil => simp
  | cons first rest induction =>
      obtain ⟨byte, position⟩ := first
      have alone : primeOf byte ^ position =
          ∏ other, primeOf other ^ (if byte = other then position else 0) := by
        rw [Finset.prod_eq_single byte]
        · rw [if_pos rfl]
        · intro other _ different
          rw [if_neg different.symm, pow_zero]
        · intro outside
          exact absurd (Finset.mem_univ byte) outside
      rw [weight_cons, alone, induction, ← Finset.prod_mul_distrib]
      simp only [List.map_cons, List.sum_cons, pow_add]

/-- The primes of the bytes whose positions sum up to more than in other tokens,
each raised to what is more. -/
def gain (left right : List Bytes) : Nat :=
  ∏ byte, primeOf byte ^ (positionSum byte left - positionSum byte right)

/-- The primes of all bytes, each raised to what both sums of positions reach. -/
def shared (left right : List Bytes) : Nat :=
  ∏ byte, primeOf byte ^ min (positionSum byte left) (positionSum byte right)

theorem shared_comm (left right : List Bytes) : shared left right = shared right left := by
  simp only [shared, min_comm]

theorem weight_eq_shared_mul_gain (left right : List Bytes) :
    weight (places 1 left) = shared left right * gain left right := by
  rw [weight_eq_prod, shared, gain, ← Finset.prod_mul_distrib]
  apply Finset.prod_congr rfl
  intro byte _
  rw [← pow_add]
  congr 1
  change positionSum byte left = _
  omega

/-- Signatures differ as far as the sums of positions do. -/
theorem fingerprint_eq_iff_gain {left right : List Bytes}
    (nonzero : ∀ token ∈ left, ∀ byte ∈ token, byte ≠ 0) :
    fingerprint left = fingerprint right ↔ gain left right ≡ gain right left [MOD words64] := by
  have odd : Odd (shared left right) := by
    have whole : Odd (weight (places 1 left)) := odd_weight nonzero
    rw [weight_eq_shared_mul_gain left right] at whole
    exact (Nat.odd_mul.mp whole).1
  rw [fingerprint_eq_iff, weight_eq_shared_mul_gain left right,
    weight_eq_shared_mul_gain right left, shared_comm right left, modEq_mul_left_iff odd]

/-- A byte whose positions sum up to more leaves its prime in one gain and not in
the other. -/
theorem positionSum_le_of_gain_eq {left right : List Bytes}
    (same : gain left right = gain right left) (byte : UInt8) :
    positionSum byte left ≤ positionSum byte right := by
  by_contra more
  have exponent : positionSum byte left - positionSum byte right ≠ 0 := by omega
  have here : primeOf byte ∣ gain left right := by
    apply (dvd_pow_self _ exponent).trans
    exact Finset.dvd_prod_of_mem (fun other =>
      primeOf other ^ (positionSum other left - positionSum other right)) (Finset.mem_univ byte)
  rw [same, gain, (prime_primeOf byte).prime.dvd_finsetProd_iff] at here
  obtain ⟨other, _, divides⟩ := here
  have prime := (Nat.prime_dvd_prime_iff_eq (prime_primeOf byte) (prime_primeOf other)).mp
    ((prime_primeOf byte).dvd_of_dvd_pow divides)
  have none : positionSum byte right - positionSum byte left = 0 := by omega
  rw [← primeOf_injective prime, none, pow_zero] at divides
  exact (prime_primeOf byte).one_lt.ne' (Nat.dvd_one.mp divides)

theorem gain_eq_gain_iff {left right : List Bytes} :
    gain left right = gain right left ↔
      ∀ byte, positionSum byte left = positionSum byte right := by
  constructor
  · intro same byte
    exact le_antisymm (positionSum_le_of_gain_eq same byte)
      (positionSum_le_of_gain_eq same.symm byte)
  · intro same
    simp only [gain, same]

/-! ## Tokens that change places -/

/-- The product of the primes of the bytes of a token. -/
def tokenPrime (token : Bytes) : Nat :=
  (token.map primeOf).prod

/-- A token that starts further behind counts each of its bytes that much more. -/
theorem weight_zipIdx (token : Bytes) (position start : Nat) :
    weight (token.zipIdx (position + start)) =
      tokenPrime token ^ position * weight (token.zipIdx start) := by
  induction token generalizing start with
  | nil => simp [tokenPrime]
  | cons byte rest induction =>
      have later := induction (start + 1)
      rw [tokenPrime] at later
      rw [List.zipIdx_cons, List.zipIdx_cons, weight_cons, weight_cons, Nat.add_assoc, later,
        tokenPrime, List.map_cons, List.prod_cons, pow_add, mul_pow]
      ring

/-- What the places at which tokens start contribute to their weight. -/
def startWeight : Nat → List Bytes → Nat
  | _, [] => 1
  | position, token :: rest =>
      tokenPrime token ^ position * startWeight (position + token.length + 1) rest

/-- The weight of tokens apart from where they start.  It does not depend on their
order. -/
def apartWeight (tokens : List Bytes) : Nat :=
  (tokens.map fun token => weight (token.zipIdx 0)).prod

theorem apartWeight_eq_of_perm {left right : List Bytes} (reordered : left.Perm right) :
    apartWeight left = apartWeight right :=
  (reordered.map _).prod_eq

theorem weight_places (position : Nat) (tokens : List Bytes) :
    weight (places position tokens) = startWeight position tokens * apartWeight tokens := by
  induction tokens generalizing position with
  | nil => rfl
  | cons token rest induction =>
      have moved := weight_zipIdx token position 0
      rw [Nat.add_zero] at moved
      rw [places, weight_append, moved, induction, startWeight, apartWeight, apartWeight,
        List.map_cons, List.prod_cons]
      ring

theorem fingerprint_eq_of_startWeight {left right : List Bytes} (reordered : left.Perm right)
    (starts : startWeight 1 left = startWeight 1 right) : fingerprint left = fingerprint right := by
  rw [fingerprint_eq_weight, fingerprint_eq_weight, weight_places, weight_places, starts,
    apartWeight_eq_of_perm reordered]

theorem startWeight_of_anagrams {left right : List Bytes}
    (anagrams : List.Forall₂ List.Perm left right) (position : Nat) :
    startWeight position left = startWeight position right := by
  induction anagrams generalizing position with
  | nil => rfl
  | cons first _ induction =>
      have prime : tokenPrime _ = tokenPrime _ := (first.map primeOf).prod_eq
      rw [startWeight, startWeight, prime, first.length_eq, induction]

/-- Anagrams are not told apart when the tokens are the same ones in another
order. -/
theorem fingerprint_of_anagrams {left right : List Bytes} (reordered : left.Perm right)
    (anagrams : List.Forall₂ List.Perm left right) : fingerprint left = fingerprint right :=
  fingerprint_eq_of_startWeight reordered (startWeight_of_anagrams anagrams 1)

/-- In a palindrome of tokens of one length both tokens stand at the same positions
in sum, so they may change their parts. -/
theorem fingerprint_mirrored {first second : Bytes} (lengths : first.length = second.length) :
    fingerprint [first, second, second, first] = fingerprint [second, first, first, second] := by
  have reordered : [first, second, second, first].Perm [second, first, first, second] :=
    (List.Perm.swap second first [second, first]).trans
      (((List.Perm.swap first second []).cons first).cons second)
  apply fingerprint_eq_of_startWeight reordered
  simp only [startWeight, lengths]
  ring

/-- Each of two tokens moves by the length of the other one and what parts them. -/
theorem startWeight_swap (position : Nat) (before : List Bytes) (first second : Bytes)
    (after : List Bytes) :
    startWeight position (before ++ first :: second :: after) *
        tokenPrime first ^ (second.length + 1) =
      startWeight position (before ++ second :: first :: after) *
        tokenPrime second ^ (first.length + 1) := by
  induction before generalizing position with
  | nil =>
      have behind : position + first.length + 1 + second.length + 1 =
          position + second.length + 1 + first.length + 1 := by omega
      simp only [List.nil_append, startWeight, behind, pow_add]
      ring
  | cons token rest induction =>
      rw [List.cons_append, List.cons_append, startWeight, startWeight, mul_assoc, induction,
        mul_assoc]

theorem odd_tokenPrime {token : Bytes} (nonzero : ∀ byte ∈ token, byte ≠ 0) :
    Odd (tokenPrime token) := by
  induction token with
  | nil => exact odd_one
  | cons byte rest induction =>
      obtain ⟨first, later⟩ := List.forall_mem_cons.mp nonzero
      rw [tokenPrime, List.map_cons, List.prod_cons]
      exact (odd_primeOf first).mul (induction later)

/-- Neighbours that change places are told apart as far as their primes are. -/
theorem fingerprint_swap_iff {before : List Bytes} {first second : Bytes} {after : List Bytes}
    (nonzero : ∀ token ∈ before ++ first :: second :: after, ∀ byte ∈ token, byte ≠ 0) :
    fingerprint (before ++ first :: second :: after) =
        fingerprint (before ++ second :: first :: after) ↔
      tokenPrime second ^ (first.length + 1) ≡
        tokenPrime first ^ (second.length + 1) [MOD words64] := by
  have reordered : (before ++ first :: second :: after).Perm
      (before ++ second :: first :: after) := (List.Perm.swap _ _ _).append_left before
  have apart := apartWeight_eq_of_perm reordered
  have moved : weight (places 1 (before ++ first :: second :: after)) *
        tokenPrime first ^ (second.length + 1) =
      weight (places 1 (before ++ second :: first :: after)) *
        tokenPrime second ^ (first.length + 1) := by
    rw [weight_places, weight_places, apart, mul_right_comm, startWeight_swap, mul_right_comm]
  have oddWeight : Odd (weight (places 1 (before ++ first :: second :: after))) :=
    odd_weight nonzero
  have oddFirst : Odd (tokenPrime first ^ (second.length + 1)) :=
    (odd_tokenPrime (nonzero first (by simp))).pow
  rw [fingerprint_eq_iff]
  constructor
  · intro same
    apply (modEq_mul_left_iff oddWeight).mp
    rw [moved]
    exact same.mul_right _
  · intro same
    apply (modEq_mul_left_iff oddFirst).mp
    rw [mul_comm _ (weight _), moved, mul_comm _ (weight _)]
    exact same.mul_left _

/-! ## Neighbours of one length -/

theorem padicValNat_two_le {number bits : Nat} (small : number < 2 ^ (bits + 1)) :
    padicValNat 2 number ≤ bits :=
  (padicValNat_le_nat_log number).trans (Nat.le_of_lt_succ (Nat.log_lt_of_lt_pow' (by omega) small))

/-- Of the sum and the difference of odd numbers only one is divisible by four. -/
theorem padicValNat_add_sub_le {left right bits : Nat} (leftOdd : Odd left)
    (rightOdd : Odd right) (less : right < left) (small : left < 2 ^ bits) :
    padicValNat 2 (left + right) + padicValNat 2 (left - right) ≤ bits + 1 := by
  have sumSmall : padicValNat 2 (left + right) ≤ bits := padicValNat_two_le (by omega)
  have differenceSmall : padicValNat 2 (left - right) ≤ bits := padicValNat_two_le (by omega)
  have fourSum := padicValNat_dvd_iff_le (p := 2) (n := 2) (by omega : left + right ≠ 0)
  have fourDifference := padicValNat_dvd_iff_le (p := 2) (n := 2) (by omega : left - right ≠ 0)
  obtain ⟨leftHalf, rfl⟩ := leftOdd
  obtain ⟨rightHalf, rfl⟩ := rightOdd
  omega

/-- The same power of two small odd numbers is not the same word. -/
theorem not_pow_modEq {left right exponent : Nat} (leftOdd : Odd left) (rightOdd : Odd right)
    (less : right < left) (small : left < 2 ^ 60) (nonzero : exponent ≠ 0)
    (few : exponent ≤ 7) : ¬right ^ exponent ≡ left ^ exponent [MOD words64] := by
  intro same
  -- The valuation of a difference of powers is known for even exponents.
  have squared : right ^ (2 * exponent) ≡ left ^ (2 * exponent) [MOD words64] := by
    rw [mul_comm, pow_mul, pow_mul]
    exact same.pow 2
  have ascends : right ^ (2 * exponent) < left ^ (2 * exponent) :=
    Nat.pow_lt_pow_left less (by omega)
  have divides : 2 ^ 64 ∣ left ^ (2 * exponent) - right ^ (2 * exponent) :=
    (Nat.modEq_iff_dvd' ascends.le).mp squared
  have valuation := padicValNat.pow_two_sub_pow less
    (Nat.Odd.sub_odd leftOdd rightOdd).two_dvd leftOdd.not_two_dvd_nat
    (by omega : 2 * exponent ≠ 0) (even_two_mul exponent)
  have reached := (padicValNat_dvd_iff_le (by omega)).mp divides
  have factors := padicValNat_add_sub_le leftOdd rightOdd less small
  have exponentSmall : padicValNat 2 (2 * exponent) ≤ 3 := padicValNat_two_le (by omega)
  omega

theorem eq_of_pow_modEq {left right exponent : Nat} (leftOdd : Odd left) (rightOdd : Odd right)
    (leftSmall : left < 2 ^ 60) (rightSmall : right < 2 ^ 60) (nonzero : exponent ≠ 0)
    (few : exponent ≤ 7) (same : left ^ exponent ≡ right ^ exponent [MOD words64]) :
    left = right := by
  rcases lt_trichotomy left right with less | equal | greater
  · exact absurd same (not_pow_modEq rightOdd leftOdd less rightSmall nonzero few)
  · exact equal
  · exact absurd same.symm (not_pow_modEq leftOdd rightOdd greater leftSmall nonzero few)

/-- Tokens of one product of primes are anagrams, since a product has one
factorization. -/
theorem tokenPrime_eq_iff {left right : Bytes} :
    tokenPrime left = tokenPrime right ↔ left.Perm right := by
  have primes : ∀ (token : Bytes), ∀ prime ∈ token.map primeOf, prime.Prime := by
    intro token prime member
    obtain ⟨byte, _, rfl⟩ := List.mem_map.mp member
    exact prime_primeOf byte
  constructor
  · intro same
    rw [← List.map_perm_map_iff primeOf_injective]
    exact (Nat.primeFactorsList_unique same (primes left)).trans
      (Nat.primeFactorsList_unique rfl (primes right)).symm
  · intro anagram
    exact (anagram.map primeOf).prod_eq

/-- The bytes of printable text. -/
def Printable (token : Bytes) : Prop :=
  ∀ byte ∈ token, 0x20 ≤ byte ∧ byte ≤ 0x7e

instance (token : Bytes) : Decidable (Printable token) :=
  inferInstanceAs (Decidable (∀ byte ∈ token, 0x20 ≤ byte ∧ byte ≤ 0x7e))

theorem Printable.nonzero {token : Bytes} (printable : Printable token) :
    ∀ byte ∈ token, byte ≠ 0 := by
  intro byte member zero
  obtain ⟨low, _⟩ := printable byte member
  rw [zero] at low
  exact absurd low (by decide)

theorem primeOf_le {byte : UInt8} (printable : byte ≤ 0x7e) : primeOf byte ≤ 709 := by
  have last : primeOf 0x7e = 709 := by decide +kernel
  rw [← last]
  exact primeOf_mono printable

theorem Printable.tokenPrime_lt {token : Bytes} (printable : Printable token)
    (short : token.length ≤ 6) : tokenPrime token < 2 ^ 60 := by
  have bounded : tokenPrime token ≤ 709 ^ (token.map primeOf).length := by
    apply List.prod_le_pow_card
    intro prime member
    obtain ⟨byte, inside, rfl⟩ := List.mem_map.mp member
    exact primeOf_le (printable byte inside).2
  rw [List.length_map] at bounded
  calc
    tokenPrime token ≤ 709 ^ token.length := bounded
    _ ≤ 709 ^ 6 := Nat.pow_le_pow_right (by decide) short
    _ < 2 ^ 60 := by decide

/-! ## Reordered tokens -/

/-- What the signature tells of tokens and the same ones in another order. -/
structure OrderSeen (left right : List Bytes) : Prop where
  agree_iff : fingerprint left = fingerprint right ↔
    gain left right ≡ gain right left [MOD 2 ^ 64]
  /-- Gains that fit into a word agree only when each byte has its sum of positions. -/
  agree_iff_of_small : gain left right < 2 ^ 64 → gain right left < 2 ^ 64 →
    (fingerprint left = fingerprint right ↔
      ∀ byte, positionSum byte left = positionSum byte right)
  anagrams : List.Forall₂ List.Perm left right → fingerprint left = fingerprint right
  neighbours : ∀ before first second after, left = before ++ first :: second :: after →
    right = before ++ second :: first :: after → first.length = second.length →
    first.length ≤ 6 → (fingerprint left = fingerprint right ↔ first.Perm second)

/-- Short printable neighbours of one length are told apart unless they are
anagrams. -/
theorem fingerprint_swap_iff_perm {before : List Bytes} {first second : Bytes}
    {after : List Bytes}
    (printable : ∀ token ∈ before ++ first :: second :: after, Printable token)
    (lengths : first.length = second.length) (short : first.length ≤ 6) :
    fingerprint (before ++ first :: second :: after) =
        fingerprint (before ++ second :: first :: after) ↔ first.Perm second := by
  have firstPrintable : Printable first := printable first (by simp)
  have secondPrintable : Printable second := printable second (by simp)
  rw [fingerprint_swap_iff fun token member => (printable token member).nonzero,
    ← tokenPrime_eq_iff, ← lengths]
  constructor
  · intro same
    exact eq_of_pow_modEq (odd_tokenPrime firstPrintable.nonzero)
      (odd_tokenPrime secondPrintable.nonzero) (firstPrintable.tokenPrime_lt short)
      (secondPrintable.tokenPrime_lt (lengths ▸ short)) (Nat.succ_ne_zero _)
      (Nat.succ_le_succ short) same.symm
  · intro same
    rw [same]

/-- The signature tells printable tokens from the same ones in another order as far
as the sums of the positions of their bytes tell them apart. -/
theorem fingerprint_of_reordered {left right : List Bytes}
    (printable : ∀ token ∈ left, Printable token) (reordered : left.Perm right) :
    OrderSeen left right := by
  have agree : fingerprint left = fingerprint right ↔
      gain left right ≡ gain right left [MOD 2 ^ 64] :=
    fingerprint_eq_iff_gain fun token member => (printable token member).nonzero
  refine ⟨agree, ?small, fingerprint_of_anagrams reordered, ?neighbours⟩
  case small =>
    intro leftSmall rightSmall
    rw [agree, ← gain_eq_gain_iff, Nat.ModEq, Nat.mod_eq_of_lt leftSmall,
      Nat.mod_eq_of_lt rightSmall]
  case neighbours =>
    intro before first second after leftSplit rightSplit lengths short
    subst leftSplit
    subst rightSplit
    exact fingerprint_swap_iff_perm printable lengths short

theorem fingerprint_of_swapped_mnemonics :
    (∀ token ∈ [Utf8.encode "mov", Utf8.encode "add"], Printable token) ∧
      [Utf8.encode "mov", Utf8.encode "add"].Perm [Utf8.encode "add", Utf8.encode "mov"] ∧
      fingerprint [Utf8.encode "mov", Utf8.encode "add"] ≠
        fingerprint [Utf8.encode "add", Utf8.encode "mov"] := by
  have printable : ∀ token ∈ [Utf8.encode "mov", Utf8.encode "add"], Printable token := by
    decide +kernel
  have reordered :
      [Utf8.encode "mov", Utf8.encode "add"].Perm [Utf8.encode "add", Utf8.encode "mov"] :=
    List.Perm.swap _ _ _
  refine ⟨printable, reordered, ?_⟩
  intro same
  have anagram := ((fingerprint_of_reordered printable reordered).neighbours [] _ _ [] rfl rfl
    rfl (by decide +kernel)).mp same
  exact absurd anagram (by decide +kernel)

/-- Another order of printable tokens need not have a signature of its own. -/
theorem not_order_sensitive :
    ¬∀ left right : List Bytes, (∀ token ∈ left, token ≠ [] ∧ Printable token) →
      left.Perm right → left ≠ right → fingerprint left ≠ fingerprint right := by
  intro sensitive
  have apart := sensitive
    [Utf8.encode "add", Utf8.encode "mov", Utf8.encode "mov", Utf8.encode "add"]
    [Utf8.encode "mov", Utf8.encode "add", Utf8.encode "add", Utf8.encode "mov"]
    (by decide +kernel) (by decide +kernel) (by decide +kernel)
  exact apart (fingerprint_mirrored rfl)

end CodeGraph.Signature
