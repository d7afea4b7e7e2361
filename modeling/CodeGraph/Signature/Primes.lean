/-!
# The first prime numbers

The list is grown by trial division: the next prime is the first number past
the last one that no listed prime divides.  Only divisors whose square does
not exceed the candidate are tried.  The search needs no more steps than the
product of the listed primes, because the number after that product is divided
by none of them.
-/

namespace CodeGraph.Primes

/-- No listed prime with a square up to `candidate` divides it. -/
def coprime (primes : List Nat) (candidate : Nat) : Bool :=
  primes.all fun prime => decide (candidate < prime * prime) || candidate % prime != 0

/-- The first candidate from the given one on that passes trial division,
looked for in at most the given number of steps. -/
def search (primes : List Nat) : Nat → Nat → Nat
  | 0, candidate => candidate
  | steps + 1, candidate =>
      if coprime primes candidate then candidate
      else search primes steps (candidate + 1)

/-- The prime after all the listed ones. -/
def next (primes : List Nat) : Nat :=
  search primes (primes.foldr (· * ·) 1) (primes.getLast?.getD 1 + 1)

/-- The first primes in ascending order, as many as asked for. -/
def first : Nat → List Nat
  | 0 => []
  | count + 1 =>
      let primes := first count
      primes ++ [next primes]

@[simp] theorem length_first (count : Nat) : (first count).length = count := by
  induction count with
  | zero => rfl
  | succ count induction => simp [first, induction]

end CodeGraph.Primes
