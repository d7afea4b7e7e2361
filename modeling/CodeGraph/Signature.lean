import CodeGraph.Signature.Primes
import CodeGraph.Text.Utf8

/-!
# Signatures of instruction sequences

The signature of a mnemonic is a product of primes, one per byte, each raised
to the position of its byte.  The signature of a block or function is the sum
over its mnemonics, and does not depend on their order; the signature of a
token sequence counts positions on across tokens, and does.  The string hash
multiplies by 65599 for each byte.
-/

namespace CodeGraph.Signature

/-- One prime for each byte value. -/
def primeTable : Array Nat := (Primes.first 256).toArray

/-- The prime of a byte value. -/
def primeOf (byte : UInt8) : Nat := primeTable.getD byte.toNat 1

/-- The product of the primes of the bytes, each raised to its position.  The
first byte has position `start`; the product is kept below `modulus`. -/
def product (modulus : Nat) : Nat → Nat → Bytes → Nat
  | _, value, [] => value
  | position, value, byte :: rest =>
      product modulus (position + 1)
        (value * (Nat.pow (primeOf byte) position % modulus) % modulus) rest

/-- The number of words of 32 bits. -/
def words32 : Nat := 0x100000000

/-- The number of words of 64 bits. -/
def words64 : Nat := 0x10000000000000000

/-- The 32-bit signature of one mnemonic. -/
def mnemonicPrime (mnemonic : Bytes) : Nat :=
  product words32 1 1 mnemonic

/-- The 64-bit sum of the signatures of mnemonics. -/
def additivePrime (mnemonics : List Bytes) : Nat :=
  mnemonics.foldl (fun total mnemonic => (total + mnemonicPrime mnemonic) % words64) 0

/-- The 64-bit product over tokens whose first byte has the given position. -/
def fingerprintFrom : Nat → Nat → List Bytes → Nat
  | _, value, [] => value
  | position, value, token :: rest =>
      fingerprintFrom (position + token.length + 1)
        (value * product words64 position 1 token % words64) rest

/-- The order-sensitive 64-bit signature of a token sequence.  Positions count
on across tokens, and the boundary after each token uses one position. -/
def fingerprint (tokens : List Bytes) : Nat :=
  fingerprintFrom 1 1 tokens

/-- The 32-bit hash that identifies a referenced string. -/
def stringHash (data : Bytes) : Nat :=
  data.foldl
    (fun value byte => (byte.toNat + value <<< 6 + value <<< 16 - value) % words32) 0

end CodeGraph.Signature
