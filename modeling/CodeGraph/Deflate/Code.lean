/-!
# Codes of bits

A code gives each of its symbols a word of bits.  The lengths of the words fix
the code: shorter words come first, words of one length follow each other in the
order of their symbols, and no word starts another one.
-/

namespace CodeGraph.Deflate

/-- The symbols of a code by the length of their words, from one bit on. -/
abbrev Code := List (List Nat)

namespace Code

/-- The symbols whose words have a length. -/
def symbolsOfLength (lengths : List Nat) (length : Nat) : List Nat :=
  lengths.zipIdx.filterMap fun (other, symbol) => if other = length then some symbol else none

/-- The code of the lengths of its words, one for each symbol; a symbol of length
zero has no word. -/
def ofLengths (lengths : List Nat) : Code :=
  (List.range (max 1 (lengths.foldl max 0))).map fun length =>
    symbolsOfLength lengths (length + 1)

/-- The number of words of the last length that are left without a symbol, if
there are words enough; `open` ones are left by the shorter lengths. -/
def vacancies? (vacant : Nat) : Code → Option Nat
  | [] => some vacant
  | symbols :: longer =>
      if 2 * vacant < symbols.length then none
      else vacancies? (2 * vacant - symbols.length) longer

/-- Every sequence of bits starts with a word. -/
def isWhole (code : Code) : Bool :=
  vacancies? 1 code == some 0

/-- The code has no word. -/
def isEmpty (code : Code) : Bool :=
  code.all (·.isEmpty)

/-- The code has the one word of a single bit, or none. -/
def isSingle (code : Code) : Bool :=
  code.length == 1 && code.all (·.length ≤ 1)

/-- The symbol of the word in front of the bits, and the bits behind the word;
`none` where no word fits.  Of the words as long as what is read, `place` stand
before it.  Where the bits end inside of a word there is no symbol and no rest. -/
def read (place : Nat) : Code → List Bool → Option (Option (Nat × List Bool))
  | [], _ => none
  | _ :: _, [] => some none
  | symbols :: longer, bit :: bits =>
      let place := 2 * place + bit.toNat
      match symbols[place]? with
      | some symbol => some (some (symbol, bits))
      | none => read (place - symbols.length) longer bits

end Code

end CodeGraph.Deflate
