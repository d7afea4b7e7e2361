import CodeGraph.Deflate.Stream
import CodeGraph.Elf.Image

/-!
# Sections of an ELF image

The file header tells where the table of section headers is.  Opening a section
checks what its kind promises: tables have entries of a fixed size, and names
are looked up in string tables.
-/

namespace CodeGraph.Elf

/-- What of the file header is used. -/
structure Header where
  machine : Nat
  /-- Where the section headers are; zero if there are none. -/
  sectionTable : Nat
  sectionHeaderSize : Nat
  sectionCount : Nat
  /-- The section that holds the names of the sections. -/
  namesIndex : Nat
  deriving DecidableEq, Repr

/-- Reads what follows the sixteen bytes of identification. -/
def Header.cursor : Cursor Header := do
  let _kind ← Cursor.half
  let machine ← Cursor.half
  let _version ← Cursor.word
  let _entry ← Cursor.address
  let _segmentTable ← Cursor.address
  let sectionTable ← Cursor.address
  let _flags ← Cursor.word
  let _headerSize ← Cursor.half
  let _segmentHeaderSize ← Cursor.half
  let _segmentCount ← Cursor.half
  let sectionHeaderSize ← Cursor.half
  let sectionCount ← Cursor.half
  let namesIndex ← Cursor.half
  return { machine, sectionTable, sectionHeaderSize, sectionCount, namesIndex }

/-- The kinds of section that are told apart. -/
inductive SectionKind
  | unused
  | symbols
  | strings
  /-- Relocations that carry an addend. -/
  | addendRelocations
  | hash
  | dynamic
  /-- Zeros that are not stored. -/
  | zeros
  | relocations
  | dynamicSymbols
  | localDynamicSymbols
  | bloomHash
  | versionDefinitions
  | versionNeeds
  | versionNumbers
  /-- Relative relocations in short form. -/
  | shortRelocations
  /-- What further is known of symbols. -/
  | symbolDetails
  | other
  deriving DecidableEq, Repr

/-- The kind that a number stands for. -/
def SectionKind.ofCode : Nat → SectionKind
  | 0 => unused
  | 2 => symbols
  | 3 => strings
  | 4 => addendRelocations
  | 5 => hash
  | 6 => dynamic
  | 8 => zeros
  | 9 => relocations
  | 11 => dynamicSymbols
  | 19 => shortRelocations
  | 0x6ffffff3 => localDynamicSymbols
  | 0x6ffffff6 => bloomHash
  | 0x6ffffffc => symbolDetails
  | 0x6ffffffd => versionDefinitions
  | 0x6ffffffe => versionNeeds
  | 0x6fffffff => versionNumbers
  | _ => other

/-- The section holds symbols. -/
def SectionKind.isSymbolTable (kind : SectionKind) : Bool :=
  [symbols, dynamicSymbols, localDynamicSymbols].contains kind

/-- A row of the section header table. -/
structure SectionHeader where
  name : Nat
  kind : SectionKind
  flags : Nat
  address : Nat
  offset : Nat
  size : Nat
  link : Nat
  entrySize : Nat
  deriving DecidableEq, Repr

/-- Reads a section header. -/
def SectionHeader.cursor : Cursor SectionHeader := do
  let name ← Cursor.word
  let kind ← SectionKind.ofCode <$> Cursor.word
  let flags ← Cursor.address
  let address ← Cursor.address
  let offset ← Cursor.address
  let size ← Cursor.address
  let link ← Cursor.word
  let _info ← Cursor.word
  let _alignment ← Cursor.address
  let entrySize ← Cursor.address
  return { name, kind, flags, address, offset, size, link, entrySize }

/-- The content is packed. -/
def SectionHeader.isPacked (header : SectionHeader) : Bool :=
  header.flags / 0x800 % 2 == 1

/-- What stands in front of packed content. -/
structure PackHeader where
  method : Nat
  /-- The size of the content when it is unpacked. -/
  size : Nat
  deriving DecidableEq, Repr

/-- The method of a deflated stream. -/
def PackHeader.deflated : Nat := 1

/-- Reads the header of packed content. -/
def PackHeader.cursor : Cursor PackHeader := do
  let method ← Cursor.word
  if (← read).wide then
    let _reserved ← Cursor.word
  let size ← Cursor.address
  let _alignment ← Cursor.address
  return { method, size }

/-- A section header with the section's name. -/
structure Section extends SectionHeader where
  label : String
  deriving DecidableEq, Repr

/-- An image with its file header. -/
structure Binary where
  image : Image
  header : Header
  deriving DecidableEq, Repr

namespace Binary

/-- The number that stands for an index that is kept elsewhere. -/
def extendedIndex : Nat := 0xFFFF

/-- Opens an image. -/
def ofBytes (bytes : Bytes) : Except Error Binary := do
  let image ← Image.ofBytes bytes
  return { image, header := ← image.readAt 16 Header.cursor }

def sectionHeaderSize (binary : Binary) : Nat :=
  if binary.image.wide then 64 else 40

/-- The section header of an index, if it does not start past the end.  The
headers must be as far apart as they are long. -/
def sectionHeader? (binary : Binary) (index : Nat) : Except Error (Option SectionHeader) :=
  let table := binary.header.sectionTable
  let distance := binary.header.sectionHeaderSize
  let place := table + index * distance
  if table ≠ 0 ∧ distance < binary.sectionHeaderSize then .error .entrySize
  else if binary.image.bytes.length < place then .ok none
  else some <$> binary.image.readAt place SectionHeader.cursor

/-- The section header of an index. -/
def sectionHeader (binary : Binary) (index : Nat) : Except Error SectionHeader := do
  match ← binary.sectionHeader? index with
  | some header => return header
  | none => throw .outOfImage

/-- The header of packed content, where there is one, must be readable. -/
def checkPacking (image : Image) (header : SectionHeader) : Except Error Unit := do
  if header.isPacked then
    let _ ← image.readAt header.offset PackHeader.cursor

/-- The section that holds the names of all sections. -/
def namesHeader (binary : Binary) : Except Error SectionHeader := do
  let index ←
    if binary.header.namesIndex = extendedIndex then (·.link) <$> binary.sectionHeader 0
    else pure binary.header.namesIndex
  match ← binary.sectionHeader? index with
  | some table =>
      checkPacking binary.image table
      return table
  | none => throw .noNames

def sectionName (binary : Binary) (header : SectionHeader) : Except Error String := do
  let table ← binary.namesHeader
  binary.image.nameAt (table.offset + header.name)

/-- The section of a header whose kind promises nothing. -/
def plainSection (binary : Binary) (header : SectionHeader) : Except Error Section := do
  let label ← binary.sectionName header
  checkPacking binary.image header
  return { header with label }

/-- A section that is linked must be of one of the kinds. -/
def linkedHeader (binary : Binary) (kinds : List SectionKind) (index : Nat) :
    Except Error SectionHeader := do
  let header ← binary.sectionHeader index
  if !kinds.contains header.kind then throw .wrongLink
  return header

/-- A symbol table links a string table and has whole entries. -/
def symbolTable (binary : Binary) (header : SectionHeader) : Except Error Section := do
  let table ← binary.plainSection header
  let _names ← binary.plainSection (← binary.linkedHeader [.strings] header.link)
  if header.entrySize = 0 ∨ header.size % header.entrySize ≠ 0 then throw .entrySize
  return table

/-- A section that belongs to a symbol table. -/
def symbolSection (binary : Binary) (header : SectionHeader) : Except Error Section := do
  let table ← binary.plainSection header
  let _symbols ← binary.symbolTable
    (← binary.linkedHeader [.symbols, .dynamicSymbols] header.link)
  return table

def relocationSize (binary : Binary) (kind : SectionKind) : Nat :=
  let numbers := if kind = .addendRelocations then 3 else 2
  numbers * (binary.image.bits / 8)

/-- The size of a relative relocation in short form. -/
def shortRelocationSize (binary : Binary) : Nat :=
  binary.image.bits / 8

/-- Reads over the numbers at the front of a hash table.  A plain one without
content has none. -/
def checkHash (binary : Binary) (header : SectionHeader) : Except Error Unit := do
  if header.kind = .hash ∧ header.size = 0 then return
  let size ← binary.image.readAt header.offset do
    let buckets ← Cursor.word
    if header.kind = .bloomHash then
      let _firstSymbol ← Cursor.word
      let filters ← Cursor.word
      let _shift ← Cursor.word
      return 16 + filters * (binary.image.bits / 8) + 4 * buckets
    else
      let chains ← Cursor.word
      return 8 + 4 * (buckets + chains)
  if binary.image.bytes.length < header.offset + size then throw .outOfImage

def openSection (binary : Binary) (header : SectionHeader) : Except Error Section :=
  match header.kind with
  | .symbols | .dynamicSymbols | .localDynamicSymbols => binary.symbolTable header
  | .relocations | .addendRelocations => do
      if header.entrySize ≠ binary.relocationSize header.kind then throw .entrySize
      binary.plainSection header
  | .hash | .bloomHash => do
      binary.checkHash header
      binary.symbolSection header
  | .versionNumbers | .symbolDetails => binary.symbolSection header
  | .shortRelocations => do
      if header.entrySize ≠ binary.shortRelocationSize then throw .entrySize
      binary.plainSection header
  | .versionDefinitions | .versionNeeds => do
      let _names ← binary.plainSection (← binary.linkedHeader [.strings] header.link)
      binary.plainSection header
  | .dynamic => do
      let _names ← binary.plainSection
        (← binary.linkedHeader [.strings, .zeros, .unused] header.link)
      binary.plainSection header
  | _ => binary.plainSection header

/-- The number of sections; a count of zero is kept in the first section. -/
def sectionCount (binary : Binary) : Except Error Nat :=
  if binary.header.sectionTable = 0 then .ok 0
  else if binary.header.sectionCount = 0 then (·.size) <$> binary.sectionHeader 0
  else .ok binary.header.sectionCount

/-- Opens a number of sections from an index on. -/
def sectionsFrom (binary : Binary) (index : Nat) : Nat → Except Error (List Section)
  | 0 => .ok []
  | count + 1 => do
      let first ← binary.openSection (← binary.sectionHeader index)
      return first :: (← binary.sectionsFrom (index + 1) count)

/-- Opens all sections. -/
def sections (binary : Binary) : Except Error (List Section) := do
  binary.sectionsFrom 0 (← binary.sectionCount)

end Binary

/-- The last section with a name. -/
def findSection? (sections : List Section) (name : String) : Option Section :=
  sections.reverse.find? (·.label == name)

/-- The content of a section. -/
inductive Content
  | stored (bytes : Bytes)
  | zeros (size : Nat)
  deriving DecidableEq, Repr

namespace Content

/-- The number of bytes. -/
def size : Content → Nat
  | stored bytes => bytes.length
  | zeros size => size

/-- The bytes of a part, fewer where the content ends. -/
def slice (content : Content) (offset size : Nat) : Bytes :=
  match content with
  | stored bytes => bytes.slice offset size
  | zeros total => List.replicate (min size (total - offset)) 0

end Content

/-- The size that no content reaches. -/
def contentLimit : Nat := 0x4000000000

/-- The packed bytes of a section behind its pack header, which ends at a place.
Where the section is one byte too short for the header they go on to the end of
the image. -/
def Binary.packedBytes? (binary : Binary) (table : Section) (place : Nat) : Option Bytes :=
  let finish := table.offset + table.size
  if place ≤ finish then some (binary.image.bytes.slice place (finish - place))
  else if place = finish + 1 then some (binary.image.bytes.drop place)
  else none

/-- The content of a packed section.  Its size is declared in front of it, and a
size of zero promises that there is none. -/
def Binary.unpackedContent (binary : Binary) (table : Section) : Except Error Content := do
  let (header, place) ← binary.image.readAt table.offset do
    return (← PackHeader.cursor, ← get)
  let size := if table.kind = .zeros then header.size else table.size
  if contentLimit ≤ size then throw .tooLarge
  if table.kind = .zeros then return .zeros size
  if header.method ≠ PackHeader.deflated then throw .packedContent
  let some packed := binary.packedBytes? table place | throw .packedContent
  let limit := if header.size = 0 then none else some header.size
  match Deflate.unpack? limit packed with
  | none => throw .packedContent
  | some content =>
      if content.length ≠ header.size then throw .packedContent
      return .stored content

/-- The content of a section; it is cut short where the image ends. -/
def Binary.content (binary : Binary) (table : Section) : Except Error Content :=
  if table.isPacked then binary.unpackedContent table
  else if contentLimit ≤ table.size then .error .tooLarge
  else if table.kind = .zeros then .ok (.zeros table.size)
  else if Image.placeLimit ≤ table.offset then .error .outOfImage
  else .ok (.stored (binary.image.bytes.slice table.offset table.size))

end CodeGraph.Elf
