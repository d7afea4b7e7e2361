import CodeGraph.Signature
import Mathlib

/-!
# The prime of a byte

The listed primes are the first primes of all.  The number that is listed next is
the least prime that is not listed yet: what trial division lets pass is prime, and
the steps suffice because the number after the product of the listed primes has
a prime divisor that is not among them.  So every byte has a prime of its own.
-/

namespace CodeGraph

namespace Primes

/-- The search ends at the first candidate that passes, if the steps suffice. -/
theorem search_eq {primes : List Nat} {steps candidate found : Nat}
    (passes : coprime primes found = true) (after : candidate ≤ found)
    (first : ∀ number, candidate ≤ number → number < found → coprime primes number = false)
    (near : found ≤ candidate + steps) : search primes steps candidate = found := by
  induction steps generalizing candidate with
  | zero => exact le_antisymm after near
  | succ steps induction =>
      rw [search]
      rcases Nat.eq_or_lt_of_le after with here | later
      · rw [here, if_pos passes]
      · rw [first candidate le_rfl later, if_neg Bool.false_ne_true]
        apply induction later
        · intro number behind before
          exact first number (Nat.le_of_succ_le behind) before
        · omega

section Search

/-! In what follows the listed primes are all the primes below a bound. -/

variable {primes : List Nat} {bound : Nat}
  (below : ∀ number, number ∈ primes ↔ number.Prime ∧ number < bound)

include below

theorem coprime_of_prime {number : Nat} (prime : number.Prime) (behind : bound ≤ number) :
    coprime primes number = true := by
  rw [coprime, List.all_eq_true]
  intro listed member
  obtain ⟨listedPrime, small⟩ := (below listed).mp member
  have different : listed ≠ number := by omega
  have indivisible : ¬listed ∣ number := by
    rwa [Nat.prime_dvd_prime_iff_eq listedPrime prime]
  simp [← Nat.dvd_iff_mod_eq_zero, indivisible]

theorem coprime_of_not_prime {number : Nat} (large : 2 ≤ number) (composite : ¬number.Prime)
    (none : ∀ prime, prime.Prime → bound ≤ prime → number < prime) :
    coprime primes number = false := by
  have prime : number.minFac.Prime := Nat.minFac_prime (by omega)
  have square : number.minFac ^ 2 ≤ number := Nat.minFac_sq_le_self (by omega) composite
  have small : number.minFac < bound := by
    by_contra behind
    have outside := none _ prime (not_lt.mp behind)
    have least : number.minFac ≤ number := Nat.minFac_le (by omega)
    omega
  have listed : number.minFac ∈ primes := (below _).mpr ⟨prime, small⟩
  have divides : number % number.minFac = 0 := Nat.mod_eq_zero_of_dvd number.minFac_dvd
  rw [coprime, List.all_eq_false]
  refine ⟨_, listed, ?_⟩
  rw [← sq]
  simp [divides, square]

/-- Behind the bound there is a prime no greater than the number after the product
of the listed ones. -/
theorem exists_prime_behind :
    ∃ prime, prime.Prime ∧ bound ≤ prime ∧ prime ≤ primes.foldr (· * ·) 1 + 1 := by
  have positive : 0 < primes.foldr (· * ·) 1 := by
    rw [← List.prod_eq_foldr]
    apply List.prod_pos
    intro listed member
    exact ((below listed).mp member).1.pos
  refine ⟨(primes.foldr (· * ·) 1 + 1).minFac, Nat.minFac_prime (by omega), ?_,
    Nat.minFac_le (by omega)⟩
  by_contra early
  have prime : (primes.foldr (· * ·) 1 + 1).minFac.Prime := Nat.minFac_prime (by omega)
  have member := (below _).mpr ⟨prime, not_le.mp early⟩
  have inProduct : (primes.foldr (· * ·) 1 + 1).minFac ∣ primes.foldr (· * ·) 1 := by
    rw [← List.prod_eq_foldr]
    exact List.dvd_prod member
  have one := (Nat.dvd_add_right inProduct).mp (Nat.minFac_dvd _)
  exact prime.one_lt.ne' (Nat.dvd_one.mp one)

theorem search_eq_of_isLeast (large : 2 ≤ bound) {found : Nat}
    (least : IsLeast {prime | prime.Prime ∧ bound ≤ prime} found) :
    search primes (primes.foldr (· * ·) 1) bound = found := by
  obtain ⟨⟨prime, behind⟩, first⟩ := least
  obtain ⟨other, otherPrime, otherBehind, near⟩ := exists_prime_behind below
  have reached : found ≤ other := first ⟨otherPrime, otherBehind⟩
  apply search_eq (coprime_of_prime below prime behind) behind
  · intro number from_ before
    have composite : ¬number.Prime := by
      intro numberPrime
      exact absurd (first ⟨numberPrime, from_⟩) (not_le.mpr before)
    apply coprime_of_not_prime below (by omega) composite
    intro later laterPrime laterBehind
    exact before.trans_le (first ⟨laterPrime, laterBehind⟩)
  · omega

end Search

/-- A prime stands behind the last of the first primes when it stands behind all
of them. -/
theorem bound_le_iff {count number : Nat} (prime : number.Prime) :
    ((List.range count).map (Nat.nth Nat.Prime)).getLast?.getD 1 + 1 ≤ number ↔
      ∀ place < count, Nat.nth Nat.Prime place < number := by
  cases count with
  | zero => simpa using prime.two_le
  | succ last =>
      have ascending := (Nat.nth_strictMono Nat.infinite_setOfPred_prime).monotone
      rw [List.range_succ, List.map_append, List.map_singleton, List.getLast?_concat,
        Option.getD_some, Nat.succ_le_iff]
      constructor
      · intro behind place early
        exact (ascending (Nat.le_of_lt_succ early)).trans_lt behind
      · intro all
        exact all last last.lt_succ_self

theorem mem_map_nth_iff {count number : Nat} :
    number ∈ (List.range count).map (Nat.nth Nat.Prime) ↔
      number.Prime ∧ number < ((List.range count).map (Nat.nth Nat.Prime)).getLast?.getD 1 + 1 := by
  constructor
  · intro member
    obtain ⟨place, listed, rfl⟩ := List.mem_map.mp member
    refine ⟨Nat.prime_nth_prime place, ?_⟩
    by_contra behind
    have all := (bound_le_iff (Nat.prime_nth_prime place)).mp (not_lt.mp behind)
    exact lt_irrefl _ (all place (List.mem_range.mp listed))
  · intro described
    obtain ⟨prime, early⟩ := described
    have reached : ¬∀ place < count, Nat.nth Nat.Prime place < number := by
      rw [← bound_le_iff prime]
      omega
    push Not at reached
    obtain ⟨place, inside, small⟩ := reached
    have rank : Nat.count Nat.Prime number ≤ place := by
      rw [← Nat.count_nth_of_infinite Nat.infinite_setOfPred_prime place]
      exact Nat.count_monotone _ small
    exact List.mem_map.mpr ⟨_, List.mem_range.mpr (rank.trans_lt inside), Nat.nth_count prime⟩

theorem next_map_nth (count : Nat) :
    next ((List.range count).map (Nat.nth Nat.Prime)) = Nat.nth Nat.Prime count := by
  have large : 2 ≤ ((List.range count).map (Nat.nth Nat.Prime)).getLast?.getD 1 + 1 := by
    cases count with
    | zero => simp
    | succ last =>
        have positive := (Nat.prime_nth_prime last).pos
        rw [List.range_succ, List.map_append, List.map_singleton, List.getLast?_concat,
          Option.getD_some]
        omega
  obtain ⟨⟨prime, behind⟩, least⟩ :=
    Nat.isLeast_nth_of_infinite Nat.infinite_setOfPred_prime count
  rw [next]
  apply search_eq_of_isLeast (fun _ => mem_map_nth_iff) large
  refine ⟨⟨prime, (bound_le_iff prime).mpr behind⟩, ?_⟩
  intro other described
  exact least ⟨described.1, (bound_le_iff described.1).mp described.2⟩

/-- The list holds the first primes in ascending order. -/
theorem first_eq_map_nth (count : Nat) :
    first count = (List.range count).map (Nat.nth Nat.Prime) := by
  induction count with
  | zero => rfl
  | succ count induction =>
      rw [first, induction, next_map_nth, List.range_succ, List.map_append, List.map_singleton]

end Primes

namespace Signature

theorem primeOf_eq_nth (byte : UInt8) : primeOf byte = Nat.nth Nat.Prime byte.toNat := by
  have small : byte.toNat < 256 := byte.toNat_lt
  rw [primeOf, primeTable, Primes.first_eq_map_nth]
  simp [small]

theorem prime_primeOf (byte : UInt8) : (primeOf byte).Prime := by
  rw [primeOf_eq_nth]
  exact Nat.prime_nth_prime _

theorem primeOf_injective : Function.Injective primeOf := by
  intro left right same
  rw [primeOf_eq_nth, primeOf_eq_nth] at same
  have ascending := Nat.nth_strictMono Nat.infinite_setOfPred_prime
  exact UInt8.toNat_inj.mp (ascending.injective same)

theorem primeOf_mono {left right : UInt8} (ordered : left ≤ right) :
    primeOf left ≤ primeOf right := by
  rw [primeOf_eq_nth, primeOf_eq_nth]
  exact Nat.nth_monotone Nat.infinite_setOfPred_prime (UInt8.le_iff_toNat_le.mp ordered)

/-- Only the byte zero has an even prime. -/
theorem odd_primeOf {byte : UInt8} (nonzero : byte ≠ 0) : Odd (primeOf byte) := by
  rcases (prime_primeOf byte).eq_two_or_odd' with two | odd
  · have zero : primeOf 0 = 2 := by
      rw [primeOf_eq_nth]
      exact Nat.nth_prime_zero_eq_two
    exact absurd (primeOf_injective (two.trans zero.symm)) nonzero
  · exact odd

end Signature

end CodeGraph
