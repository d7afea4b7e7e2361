import CodeGraph.Proofs.PrimeTable
import Mathlib

/-!
# Trial division as a loop

Candidates are tried one after the other, from two on, until enough primes are
listed.  Before each turn the listed primes are all the primes below the candidate, so
the candidate passes exactly when it is prime.  The loop ends, because the first prime
that is not asked for lies ahead of the candidate as long as primes are missing.
-/

namespace CodeGraph.Primes

/-- The primes listed so far and the candidate whose turn it is. -/
structure Trial where
  primes : List Nat := []
  candidate : Nat := 2

/-- A list of the given number of primes, in ascending order, that leaves no smaller
prime out. -/
structure FirstPrimes (count : Nat) (listed : List Nat) : Prop where
  length : listed.length = count
  ascending : listed.Pairwise (· < ·)
  prime : ∀ number ∈ listed, number.Prime
  smallest : ∀ number ∈ listed, ∀ other < number, other.Prime → other ∈ listed

theorem first_succ (count : Nat) : first (count + 1) = first count ++ [Nat.nth Nat.Prime count] := by
  rw [first_eq_map_nth, first_eq_map_nth, List.range_succ, List.map_append, List.map_singleton]

theorem mem_first_iff {count number : Nat} :
    number ∈ first count ↔ number.Prime ∧ Nat.count Nat.Prime number < count := by
  rw [first_eq_map_nth]
  constructor
  · intro member
    obtain ⟨place, inside, rfl⟩ := List.mem_map.mp member
    rw [Nat.count_nth_of_infinite Nat.infinite_setOfPred_prime]
    exact ⟨Nat.prime_nth_prime place, List.mem_range.mp inside⟩
  · intro described
    obtain ⟨prime, early⟩ := described
    exact List.mem_map.mpr ⟨_, List.mem_range.mpr early, Nat.nth_count prime⟩

theorem mem_first_count_iff {bound number : Nat} :
    number ∈ first (Nat.count Nat.Prime bound) ↔ number.Prime ∧ number < bound := by
  rw [mem_first_iff]
  constructor
  · intro described
    obtain ⟨prime, early⟩ := described
    exact ⟨prime, Nat.lt_of_count_lt_count early⟩
  · intro described
    obtain ⟨prime, small⟩ := described
    exact ⟨prime, Nat.count_strict_mono prime small⟩

theorem firstPrimes_first (count : Nat) : FirstPrimes count (first count) := by
  constructor
  case length => exact length_first count
  case ascending =>
    rw [first_eq_map_nth, List.pairwise_map]
    apply List.pairwise_lt_range.imp
    intro earlier later before
    exact Nat.nth_strictMono Nat.infinite_setOfPred_prime before
  case prime =>
    intro number member
    exact (mem_first_iff.mp member).1
  case smallest =>
    intro number member other smaller prime
    obtain ⟨_, early⟩ := mem_first_iff.mp member
    exact mem_first_iff.mpr ⟨prime, (Nat.count_strict_mono prime smaller).trans early⟩

namespace Trial

/-- The candidate is listed if it passes, and the next number is the candidate then. -/
def turn (trial : Trial) : Trial where
  primes :=
    if coprime trial.primes trial.candidate then trial.primes ++ [trial.candidate]
    else trial.primes
  candidate := trial.candidate + 1

@[simp] theorem candidate_turn (trial : Trial) :
    trial.turn.candidate = trial.candidate + 1 := rfl

/-- The loop that is at a trial ends with a list.  It takes another turn as long as
fewer primes are listed than asked for. -/
inductive Ends (count : Nat) : Trial → List Nat → Prop where
  | enough {trial : Trial} :
      count ≤ trial.primes.length → Ends count trial trial.primes
  | again {trial : Trial} {listed : List Nat} :
      trial.primes.length < count → Ends count trial.turn listed → Ends count trial listed

/-- All primes below the candidate are listed. -/
structure Complete (trial : Trial) : Prop where
  large : 2 ≤ trial.candidate
  primes : trial.primes = first (Nat.count Nat.Prime trial.candidate)

theorem complete_start : Complete {} :=
  ⟨le_rfl, rfl⟩

theorem Complete.length_primes {trial : Trial} (complete : trial.Complete) :
    trial.primes.length = Nat.count Nat.Prime trial.candidate := by
  rw [complete.primes, length_first]

theorem Complete.coprime_iff {trial : Trial} (complete : trial.Complete) :
    coprime trial.primes trial.candidate = true ↔ trial.candidate.Prime := by
  have below : ∀ number, number ∈ trial.primes ↔ number.Prime ∧ number < trial.candidate := by
    rw [complete.primes]
    exact fun number => mem_first_count_iff
  constructor
  · intro passes
    by_contra composite
    have ahead : ∀ prime, prime.Prime → trial.candidate ≤ prime → trial.candidate < prime := by
      intro prime isPrime behind
      apply lt_of_le_of_ne behind
      rintro rfl
      exact composite isPrime
    have refused := coprime_of_not_prime below complete.large composite ahead
    rw [passes] at refused
    cases refused
  · intro prime
    exact coprime_of_prime below prime le_rfl

/-- A turn keeps the list complete. -/
theorem Complete.turn {trial : Trial} (complete : trial.Complete) : trial.turn.Complete := by
  constructor
  case large => exact complete.large.trans (Nat.le_succ _)
  case primes =>
    rw [Trial.turn, Nat.count_succ]
    by_cases prime : trial.candidate.Prime
    · rw [if_pos (complete.coprime_iff.mpr prime), if_pos prime, first_succ,
        Nat.nth_count prime, complete.primes]
    · rw [if_neg (complete.coprime_iff.not.mpr prime), if_neg prime, complete.primes,
        Nat.add_zero]

theorem ends_of_reached {count : Nat} {trial : Trial} (complete : trial.Complete)
    (reached : Nat.count Nat.Prime trial.candidate = count) : Ends count trial (first count) := by
  have ended : Ends count trial trial.primes := by
    apply Ends.enough
    rw [complete.length_primes, reached]
  rwa [complete.primes, reached] at ended

/-- From a complete list that is not too long, the loop ends with the first primes. -/
theorem ends_of_complete {count : Nat} {trial : Trial} (complete : trial.Complete)
    (few : Nat.count Nat.Prime trial.candidate ≤ count) : Ends count trial (first count) := by
  have infinite := Nat.infinite_setOfPred_prime
  -- The number of turns is bounded by the way to the first prime that is not asked for.
  obtain ⟨turns, ahead⟩ := Nat.exists_eq_add_of_le ((Nat.count_le_iff_le_nth infinite).mp few)
  induction turns generalizing trial with
  | zero =>
      have reached : Nat.count Nat.Prime trial.candidate = count := by
        rw [← Nat.add_zero trial.candidate, ← ahead, Nat.count_nth_of_infinite infinite]
      exact ends_of_reached complete reached
  | succ turns induction =>
      rcases few.eq_or_lt with reached | missing
      · exact ends_of_reached complete reached
      · apply Ends.again
        · rwa [complete.length_primes]
        · apply induction complete.turn
          · rw [candidate_turn, Nat.count_succ]
            split <;> omega
          · rw [ahead, candidate_turn]
            omega

theorem Ends.unique {count : Nat} {trial : Trial} {left right : List Nat}
    (first : Ends count trial left) (second : Ends count trial right) : left = right := by
  induction first with
  | enough full =>
      cases second with
      | enough _ => rfl
      | again missing _ => exact absurd missing (not_lt.mpr full)
  | again missing _ induction =>
      cases second with
      | enough full => exact absurd missing (not_lt.mpr full)
      | again _ later => exact induction later

theorem ends_start_iff {count : Nat} {listed : List Nat} :
    Ends count {} listed ↔ listed = first count := by
  have ends : Ends count {} (first count) := ends_of_complete complete_start (Nat.zero_le count)
  constructor
  · intro ended
    exact ended.unique ends
  · rintro rfl
    exact ends

end Trial

/-- For every number the loop ends, with one list: as many primes as asked for, the
smallest ones in ascending order.  The table of primes is the list for 256. -/
theorem trial_division_ends :
    (∀ count, FirstPrimes count (first count) ∧
      ∀ listed, Trial.Ends count {} listed ↔ listed = first count) ∧
    Trial.Ends 256 {} Signature.primeTable.toList ∧
      FirstPrimes 256 Signature.primeTable.toList := by
  have table : Signature.primeTable.toList = first 256 := by
    rw [Signature.primeTable, List.toList_toArray]
  refine ⟨?_, ?_, ?_⟩
  · intro count
    exact ⟨firstPrimes_first count, fun listed => Trial.ends_start_iff⟩
  · exact Trial.ends_start_iff.mpr table
  · rw [table]
    exact firstPrimes_first 256

end CodeGraph.Primes
