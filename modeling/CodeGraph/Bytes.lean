/-!
# Bytes

Binary data is a list of bytes, first byte first.  A word of fixed width is
stored little endian, and reading the stored word gives the number back as
long as it fits the width.
-/

namespace CodeGraph

/-- Binary data, first byte first. -/
abbrev Bytes := List UInt8

namespace Bytes

/-- The `width` low bytes of a number, least significant byte first. -/
def littleEndian : Nat → Nat → Bytes
  | 0, _ => []
  | width + 1, value => UInt8.ofNat value :: littleEndian width (value / 256)

/-- How many values `width` bytes can have. -/
def capacity (width : Nat) : Nat := Nat.pow 256 width

/-- The number whose bytes are given, least significant byte first. -/
def toNat : Bytes → Nat
  | [] => 0
  | byte :: rest => byte.toNat + 256 * toNat rest

/-- The `size` bytes that start at `offset`; fewer where the data ends. -/
def slice (bytes : Bytes) (offset size : Nat) : Bytes :=
  (bytes.drop offset).take size

/-- The bytes of an ASCII text, one per character. -/
def ofAscii (text : String) : Bytes :=
  text.toList.map fun character => UInt8.ofNat character.toNat

/-- `written` laid over `bytes` at `offset`: data before the offset is kept,
a hole is filled with zeros, and bytes past the written part stay. -/
def overwrite (bytes : Bytes) (offset : Nat) (written : Bytes) : Bytes :=
  if written.isEmpty then bytes
  else
    bytes.take offset ++ List.replicate (offset - bytes.length) 0 ++ written ++
      bytes.drop (offset + written.length)

/-- Each byte multiplies the values by 256. -/
theorem capacity_succ (width : Nat) : capacity (width + 1) = capacity width * 256 := rfl

@[simp] theorem length_littleEndian (width value : Nat) :
    (littleEndian width value).length = width := by
  induction width generalizing value with
  | zero => rfl
  | succ width induction => simp [littleEndian, induction]

/-- A number that fits the width is read back from its stored word. -/
theorem toNat_littleEndian (width value : Nat) (fits : value < capacity width) :
    toNat (littleEndian width value) = value := by
  induction width generalizing value with
  | zero =>
      have none : value = 0 := Nat.lt_one_iff.mp fits
      simp [littleEndian, toNat, none]
  | succ width induction =>
      have quotientFits : value / 256 < capacity width := by
        apply Nat.div_lt_of_lt_mul
        rwa [capacity_succ, Nat.mul_comm] at fits
      simp only [littleEndian, toNat, induction _ quotientFits]
      have lowByte : (UInt8.ofNat value).toNat = value % 256 := by
        simp [UInt8.toNat_ofNat']
      omega

/-- As many bytes as a word has stand for a number that fits it. -/
theorem toNat_lt_capacity (bytes : Bytes) : toNat bytes < capacity bytes.length := by
  induction bytes with
  | nil => exact Nat.one_pos
  | cons byte rest induction =>
      have small : byte.toNat < 256 := byte.toNat_lt
      rw [toNat, List.length_cons, capacity_succ]
      omega

/-- Bytes are stored again from the number that they stand for. -/
theorem littleEndian_toNat (bytes : Bytes) :
    littleEndian bytes.length (toNat bytes) = bytes := by
  induction bytes with
  | nil => rfl
  | cons byte rest induction =>
      have small : byte.toNat < 256 := byte.toNat_lt
      have lowByte : UInt8.ofNat (byte.toNat + 256 * toNat rest) = byte := by
        apply UInt8.toNat_inj.mp
        rw [UInt8.toNat_ofNat']
        omega
      have others : (byte.toNat + 256 * toNat rest) / 256 = toNat rest := by
        omega
      rw [List.length_cons, toNat, littleEndian, lowByte, others, induction]

theorem length_slice (bytes : Bytes) (offset size : Nat) :
    (slice bytes offset size).length = min size (bytes.length - offset) := by
  simp [slice]

end Bytes

end CodeGraph
