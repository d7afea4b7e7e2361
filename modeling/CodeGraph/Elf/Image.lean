import CodeGraph.Text.Utf8

/-!
# Numbers and names in an ELF image

Every record of an ELF image is a row of numbers.  Addresses are as wide as the
class of the image says, and the bytes of a number are in the order that the
image declares.  A cursor reads the numbers of a record one after the other.
-/

namespace CodeGraph.Elf

/-- Why an image cannot be used. -/
inductive Error
  | badMagic
  /-- Neither 32 nor 64 bits. -/
  | unknownClass
  /-- Neither little nor big endian. -/
  | unknownOrder
  /-- A record lies outside of the image. -/
  | outOfImage
  /-- No section holds the names of the sections. -/
  | noNames
  /-- The size of an entry does not fit its table. -/
  | entrySize
  /-- A section refers to a section of the wrong kind. -/
  | wrongLink
  /-- A section is larger than memory. -/
  | tooLarge
  /-- The content of a section is packed in a way that is not known, or is
  damaged. -/
  | packedContent
  /-- An instruction has an operand that cannot be read. -/
  | operand
  deriving DecidableEq, Repr

/-- An image with what its first bytes declare. -/
structure Image where
  bytes : Bytes
  /-- The class is 64 bits. -/
  wide : Bool
  bigEndian : Bool
  deriving DecidableEq, Repr

namespace Image

/-- The number of bits of an address. -/
def bits (image : Image) : Nat := if image.wide then 64 else 32

/-- The bytes that every image starts with. -/
def magic : Bytes := [0x7F, 0x45, 0x4C, 0x46]

/-- Reads the class and byte order of an image. -/
def ofBytes (bytes : Bytes) : Except Error Image := do
  if bytes.take 4 ≠ magic then throw .badMagic
  let wide ← match (bytes[4]? : Option UInt8) with
    | some 1 => pure false
    | some 2 => pure true
    | _ => throw .unknownClass
  let bigEndian ← match (bytes[5]? : Option UInt8) with
    | some 1 => pure false
    | some 2 => pure true
    | _ => throw .unknownOrder
  return { bytes, wide, bigEndian }

end Image

/-- Reads from a place of an image and moves on. -/
abbrev Cursor := ReaderT Image (StateT Nat (Except Error))

namespace Cursor

/-- The next number of a width in bytes. -/
def number (width : Nat) : Cursor Nat := do
  let image ← read
  let place ← get
  let digits := image.bytes.slice place width
  if digits.length < width then throw .outOfImage
  set (place + width)
  return Bytes.toNat (if image.bigEndian then digits.reverse else digits)

/-- The next byte. -/
def byte : Cursor Nat := number 1

/-- The next number of two bytes. -/
def half : Cursor Nat := number 2

/-- The next number of four bytes. -/
def word : Cursor Nat := number 4

/-- The next number as wide as an address. -/
def address : Cursor Nat := do number (if (← read).wide then 8 else 4)

end Cursor

namespace Image

/-- Reads a record at a place. -/
def readAt (image : Image) (place : Nat) (cursor : Cursor α) : Except Error α :=
  (cursor.run image).run' place

/-- The first place that cannot be addressed. -/
def placeLimit : Nat := 0x8000000000000000

/-- The name at a place, which a zero byte ends.  A name that nothing ends is
empty. -/
def nameAt (image : Image) (place : Nat) : Except Error String :=
  if placeLimit ≤ place then .error .outOfImage
  else
    let rest := image.bytes.drop place
    if rest.contains 0 then
      .ok (String.ofList (Utf8.decodeReplacing (rest.takeWhile (· != 0))))
    else .ok ""

end Image

end CodeGraph.Elf
