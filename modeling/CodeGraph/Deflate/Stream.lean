import CodeGraph.Bytes
import CodeGraph.Deflate.Code

/-!
# Packed streams

A packed stream is a sequence of bits: a header, blocks of content, and a sum
that checks the content.  A block holds its content as it is, or as words of a
code that stand for bytes and for repetitions of earlier content.
-/

namespace CodeGraph.Deflate

/-- Why unpacking stops early. -/
inductive Stop
  /-- The bits end. -/
  | exhausted
  /-- No more content is wanted. -/
  | full
  /-- The bits break a rule. -/
  | damaged
  deriving DecidableEq, Repr

/-- A stream that is being unpacked. -/
structure Progress where
  bits : List Bool
  content : Array UInt8 := #[]
  /-- How much content is wanted. -/
  limit : Option Nat
  deriving DecidableEq, Repr

/-- A step that reads bits and adds content; both are kept when it stops. -/
abbrev Step := ExceptT Stop (StateM Progress)

/-- The bits of a byte, lowest first. -/
def bitsOf (byte : UInt8) : List Bool :=
  (List.range 8).map byte.toNat.testBit

/-- Reads a bit. -/
def bit : Step Bool := do
  match (← get).bits with
  | [] => throw .exhausted
  | first :: rest =>
      modify ({ · with bits := rest })
      return first

/-- Reads a number of a width, lowest bit first. -/
def number : Nat → Step Nat
  | 0 => return 0
  | width + 1 => do
      let low ← bit
      return low.toNat + 2 * (← number width)

/-- Reads over the bits up to the next byte. -/
def align : Step Unit :=
  modify fun progress =>
    { progress with bits := progress.bits.drop (progress.bits.length % 8) }

/-- Reads a word of a code. -/
def symbol (code : Code) : Step Nat := do
  match code.read 0 (← get).bits with
  | none => throw .damaged
  | some none => throw .exhausted
  | some (some (symbol, rest)) =>
      modify ({ · with bits := rest })
      return symbol

/-- Stops when no more content is wanted. -/
def checkRoom : Step Unit := do
  let progress ← get
  if progress.limit == some progress.content.size then throw .full

/-- Adds a byte of content. -/
def add (byte : UInt8) : Step Unit := do
  checkRoom
  modify fun progress => { progress with content := progress.content.push byte }

/-- Adds a number of stored bytes. -/
def addStored : Nat → Step Unit
  | 0 => return
  | count + 1 => do
      add (UInt8.ofNat (← number 8))
      addStored count

/-- Adds a number of bytes, each the one that stands a distance before. -/
def addRepeated (distance : Nat) : Nat → Step Unit
  | 0 => return
  | count + 1 => do
      checkRoom
      let content := (← get).content
      if content.size < distance then throw .damaged
      add (content.getD (content.size - distance) 0)
      addRepeated distance count

/-- The first number of a range and the width of what is added to it. -/
abbrev Range := Nat × Nat

/-- The lengths of repetitions by symbol. -/
def lengthRanges : List Range :=
  [(3, 0), (4, 0), (5, 0), (6, 0), (7, 0), (8, 0), (9, 0), (10, 0), (11, 1), (13, 1), (15, 1),
    (17, 1), (19, 2), (23, 2), (27, 2), (31, 2), (35, 3), (43, 3), (51, 3), (59, 3), (67, 4),
    (83, 4), (99, 4), (115, 4), (131, 5), (163, 5), (195, 5), (227, 5), (258, 0)]

/-- The distances of repetitions by symbol. -/
def distanceRanges : List Range :=
  [(1, 0), (2, 0), (3, 0), (4, 0), (5, 1), (7, 1), (9, 2), (13, 2), (17, 3), (25, 3), (33, 4),
    (49, 4), (65, 5), (97, 5), (129, 6), (193, 6), (257, 7), (385, 7), (513, 8), (769, 8),
    (1025, 9), (1537, 9), (2049, 10), (3073, 10), (4097, 11), (6145, 11), (8193, 12),
    (12289, 12), (16385, 13), (24577, 13)]

/-- Reads a number of a range. -/
def numberIn (ranges : List Range) (index : Nat) : Step Nat := do
  match ranges[index]? with
  | none => throw .damaged
  | some (first, width) => return first + (← number width)

/-- The symbol for the end of a block; smaller symbols are bytes, and larger ones
lengths of repetitions. -/
def endSymbol : Nat := 256

/-- The two codes of a block. -/
structure Codes where
  content : Code
  distances : Code
  deriving DecidableEq, Repr

/-- Adds the content of words up to the end of a block, at most as many as `fuel`. -/
def addCoded (codes : Codes) : Nat → Step Unit
  | 0 => throw .exhausted
  | fuel + 1 => do
      let next ← symbol codes.content
      if next < endSymbol then
        add (UInt8.ofNat next)
        addCoded codes fuel
      else if next ≠ endSymbol then
        let length ← numberIn lengthRanges (next - endSymbol - 1)
        let distance ← numberIn distanceRanges (← symbol codes.distances)
        addRepeated distance length
        addCoded codes fuel

/-- The codes of blocks that bring none. -/
def fixedCodes : Codes :=
  { content := Code.ofLengths
      (List.replicate 144 8 ++ List.replicate 112 9 ++ List.replicate 24 7 ++
        List.replicate 8 8)
    distances := Code.ofLengths (List.replicate 32 5) }

/-- The symbols of the code for lengths, in the order in which the lengths of
their words are stored. -/
def lengthSymbols : List Nat :=
  [16, 17, 18, 0, 8, 7, 9, 6, 10, 5, 11, 4, 12, 3, 13, 2, 14, 1, 15]

/-- The code that stands in for one without words: every bit is the symbol zero. -/
def zeroCode : Code := [[0, 0]]

/-- Reads lengths of words up to a number of them; `known` are the ones before,
last first. -/
def wordLengths (code : Code) (wanted : Nat) (known : List Nat) : Nat → Step (List Nat)
  | 0 => return known.reverse
  | fuel + 1 => do
      if wanted ≤ known.length then return known.reverse
      let next ← symbol code
      let (length, count) ←
        if next < 16 then pure (next, 1)
        else if next = 16 then do
          let count ← number 2
          match known with
          | [] => throw .damaged
          | last :: _ => pure (last, 3 + count)
        else if next = 17 then do pure (0, 3 + (← number 3))
        else do pure (0, 11 + (← number 7))
      if wanted < known.length + count then throw .damaged
      wordLengths code wanted (List.replicate count length ++ known) fuel

/-- Reads the codes of a block. -/
def readCodes : Step Codes := do
  let contents := 257 + (← number 5)
  let distances := 1 + (← number 5)
  let lengths := 4 + (← number 4)
  if 286 < contents ∨ 30 < distances then throw .damaged
  let stored ← (lengthSymbols.take lengths).mapM fun symbol => do return (symbol, ← number 3)
  let code := Code.ofLengths
    ((List.range lengthSymbols.length).map fun symbol => (stored.lookup symbol).getD 0)
  if !code.isWhole && !code.isEmpty then throw .damaged
  let code := if code.isEmpty then zeroCode else code
  let all ← wordLengths code (contents + distances) [] (contents + distances)
  let codes : Codes :=
    { content := Code.ofLengths (all.take contents)
      distances := Code.ofLengths (all.drop contents) }
  if all.getD endSymbol 0 = 0 then throw .damaged
  if !codes.content.isWhole && !codes.content.isSingle then throw .damaged
  if !codes.distances.isWhole && !codes.distances.isSingle then throw .damaged
  return codes

/-- Adds the content of a stored block. -/
def addStoredBlock : Step Unit := do
  align
  let size ← number 16
  let complement ← number 16
  if size + complement ≠ 0xFFFF then throw .damaged
  addStored size

/-- Adds the content of the blocks, at most as many as `fuel`. -/
def addBlocks : Nat → Step Unit
  | 0 => throw .exhausted
  | fuel + 1 => do
      let isLast ← bit
      let words := (← get).bits.length
      match ← number 2 with
      | 0 => addStoredBlock
      | 1 => addCoded fixedCodes words
      | 2 => do addCoded (← readCodes) words
      | _ => throw .damaged
      unless isLast do addBlocks fuel

/-- The modulus of the sums that check content. -/
def checkModulus : Nat := 65521

/-- The sum of the content, and the sum of all these sums. -/
def checkSums (content : Bytes) : Nat × Nat :=
  content.foldl
    (fun (sum, total) byte =>
      let sum := (sum + byte.toNat) % checkModulus
      (sum, (total + sum) % checkModulus))
    (1, 0)

/-- Reads the header of a stream. -/
def readHeader : Step Unit := do
  let method ← number 8
  let flags ← number 8
  let needsDictionary := flags / 32 % 2 = 1
  if (method * 256 + flags) % 31 ≠ 0 ∨ method % 16 ≠ 8 ∨ 7 < method / 16 then throw .damaged
  if needsDictionary then
    let _dictionary ← number 32
    throw .damaged

/-- Reads the sums behind the content, which must be right. -/
def readCheck : Step Unit := do
  align
  let high ← number 8
  let total := 256 * high + (← number 8)
  let high ← number 8
  let sum := 256 * high + (← number 8)
  if checkSums (← get).content.toList ≠ (sum, total) then throw .damaged

/-- Reads a whole stream. -/
def readStream : Step Unit := do
  readHeader
  addBlocks (← get).bits.length
  readCheck

/-- The content of a packed stream, cut at the limit and where the stream ends;
`none` if a rule is broken before. -/
def unpack? (limit : Option Nat) (packed : Bytes) : Option Bytes :=
  match readStream.run.run { bits := packed.flatMap bitsOf, limit } with
  | (.error .damaged, _) => none
  | (_, progress) => some progress.content.toList

end CodeGraph.Deflate
