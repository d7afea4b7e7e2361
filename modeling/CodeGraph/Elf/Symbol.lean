import CodeGraph.Elf.Section

/-!
# Symbols and imports of an ELF image

Functions are the symbols of that type with a name, an address and a size.
Imported functions are called through a table of stubs: stub by stub it has the
order of the relocations that bind the imports, behind one stub that resolves.
-/

namespace CodeGraph.Elf

/-- An entry of a symbol table. -/
structure Symbol where
  name : String
  kind : Nat
  value : Nat
  size : Nat
  deriving DecidableEq, Repr

/-- The numbers of a symbol: the place of its name, its kind, value and size. -/
def Symbol.cursor : Cursor (Nat × Nat × Nat × Nat) := do
  let name ← Cursor.word
  if (← read).wide then
    let info ← Cursor.byte
    let _other ← Cursor.byte
    let _home ← Cursor.half
    let value ← Cursor.address
    let size ← Cursor.address
    return (name, info % 16, value, size)
  else
    let value ← Cursor.address
    let size ← Cursor.address
    let info ← Cursor.byte
    let _other ← Cursor.byte
    let _home ← Cursor.half
    return (name, info % 16, value, size)

/-- The kind of symbols that are functions. -/
def functionKind : Nat := 2

/-- The symbol is a function with code. -/
def Symbol.isFunction (symbol : Symbol) : Bool :=
  symbol.name != "" && symbol.value != 0 && symbol.kind == functionKind && 0 < symbol.size

namespace Binary

/-- The symbol of an index in a table. -/
def symbol (binary : Binary) (table : SectionHeader) (index : Nat) : Except Error Symbol := do
  let (name, kind, value, size) ←
    binary.image.readAt (table.offset + index * table.entrySize) Symbol.cursor
  let names ← binary.sectionHeader table.link
  return { name := ← binary.image.nameAt (names.offset + name), kind, value, size }

/-- A number of symbols from an index on. -/
def symbolsFrom (binary : Binary) (table : Section) (index : Nat) :
    Nat → Except Error (List Symbol)
  | 0 => .ok []
  | count + 1 => do
      let first ← binary.symbol table.toSectionHeader index
      return first :: (← binary.symbolsFrom table (index + 1) count)

/-- All symbols of a table. -/
def symbols (binary : Binary) (table : Section) : Except Error (List Symbol) :=
  binary.symbolsFrom table 0 (table.size / table.entrySize)

/-- The functions of all symbol tables. -/
def functionSymbols (binary : Binary) (sections : List Section) : Except Error (List Symbol) := do
  let tables ← (sections.filter (·.kind.isSymbolTable)).mapM binary.symbols
  return tables.flatten.filter (·.isFunction)

/-- The number of the symbol that a relocation binds. -/
def relocationSymbol (binary : Binary) (table : Section) (index : Nat) : Except Error Nat :=
  binary.image.readAt (table.offset + index * binary.relocationSize table.kind) do
    let _offset ← Cursor.address
    let info ← Cursor.address
    if table.kind = .addendRelocations then
      let _addend ← Cursor.address
    return if (← read).wide then info / 0x100000000 else info / 0x100

end Binary

def stubSize : Nat := 16

/-- An imported function and the address of its stub. -/
structure Import where
  address : Nat
  name : String
  deriving DecidableEq, Repr

namespace Binary

/-- The name of an entry of a section that has one entry for each symbol of the
table that it links. -/
def linkedName (binary : Binary) (table : Section) (size index : Nat) :
    Except Error String := do
  let _entry ← binary.image.readAt (table.offset + index * table.entrySize) (Cursor.number size)
  return (← binary.symbol (← binary.sectionHeader table.link) index).name

/-- The name of the symbol of an index, as far as the kind of section knows it.  A
hash table without buckets knows no symbols, and others are not asked by index. -/
def boundName (binary : Binary) (table : Section) (index : Nat) : Except Error String := do
  match table.kind with
  | .symbols | .dynamicSymbols | .localDynamicSymbols =>
      return (← binary.symbol table.toSectionHeader index).name
  | .symbolDetails => binary.linkedName table 4 index
  | .versionNumbers => binary.linkedName table 2 index
  | .hash =>
      let buckets ←
        if table.size = 0 then pure 0 else binary.image.readAt table.offset Cursor.word
      if buckets = 0 then return "" else throw .wrongLink
  | _ => throw .wrongLink

/-- The imports that a number of relocations bind, from an index on.  An import
without a name is left out. -/
def importsFrom (binary : Binary) (stubs names relocations : Section) (index : Nat) :
    Nat → Except Error (List Import)
  | 0 => .ok []
  | count + 1 => do
      let number ← binary.relocationSymbol relocations index
      let name ← binary.boundName names number
      let rest ← binary.importsFrom stubs names relocations (index + 1) count
      if name = "" then return rest
      return ⟨stubs.address + (index + 1) * stubSize, name⟩ :: rest

/-- All imports, in the order of their stubs. -/
def imports (binary : Binary) (sections : List Section) : Except Error (List Import) :=
  let relocations :=
    findSection? sections ".rela.plt" <|> findSection? sections ".rel.plt"
  match findSection? sections ".plt", findSection? sections ".dynsym", relocations with
  | some stubs, some names, some relocations =>
      if [SectionKind.relocations, .addendRelocations].contains relocations.kind then
        binary.importsFrom stubs names relocations 0
          (relocations.size / binary.relocationSize relocations.kind)
      else .ok []
  | _, _, _ => .ok []

end Binary

end CodeGraph.Elf
