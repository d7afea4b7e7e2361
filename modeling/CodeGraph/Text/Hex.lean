import CodeGraph.Bytes

/-!
# Hexadecimal text

Numbers are shown with a `0x` mark and lowercase digits, a minus sign first
when they are negative.  Bytes are shown as pairs of lowercase digits.
-/

namespace CodeGraph.Hex

/-- The lowercase digits of a number, without a mark. -/
def digits (value : Nat) : String :=
  String.ofList (Nat.toDigits 16 value)

/-- A number with its mark: `0x1f`, `-0x10`. -/
def ofInt (value : Int) : String :=
  if value < 0 then s!"-0x{digits value.natAbs}" else s!"0x{digits value.natAbs}"

/-- A byte as two digits. -/
def byteDigits (byte : UInt8) : List Char :=
  Nat.toDigits 16 (byte.toNat / 16) ++ Nat.toDigits 16 (byte.toNat % 16)

/-- Bytes as pairs of digits. -/
def ofBytes (bytes : Bytes) : String :=
  String.ofList (bytes.flatMap byteDigits)

/-- A byte with its mark, always two digits: `0x0e`. -/
def ofByte (byte : UInt8) : String :=
  s!"0x{ofBytes [byte]}"

/-- The value of a hexadecimal digit of either case. -/
def digit? (character : Char) : Option Nat :=
  let code := character.toNat
  if 0x30 ≤ code ∧ code ≤ 0x39 then some (code - 0x30)
  else if 0x61 ≤ code ∧ code ≤ 0x66 then some (code - 0x61 + 10)
  else if 0x41 ≤ code ∧ code ≤ 0x46 then some (code - 0x41 + 10)
  else none

/-- The bytes that pairs of digits stand for. -/
def bytes? : List Char → Option Bytes
  | [] => some []
  | [_] => none
  | high :: low :: rest => do
      let first ← digit? high
      let second ← digit? low
      let tail ← bytes? rest
      return UInt8.ofNat (16 * first + second) :: tail

end CodeGraph.Hex
