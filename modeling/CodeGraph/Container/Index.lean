import CodeGraph.Bytes

/-!
# The header and offset index of a container

A container starts with three words: the offset of the meta record, the offset
of the call graph and the number of flow graphs.  An index follows with one
entry per flow graph: its entry address and the offset of its record.  All
words are little endian.
-/

namespace CodeGraph.Container

/-- The size of the three words in front of the index. -/
def preambleSize : Nat := 12

/-- The size of one index entry. -/
def entrySize : Nat := 12

/-- The largest offset that the header can hold. -/
def maxOffset : Nat := 0xFFFFFFFF

/-- The size of a header that indexes the given number of flow graphs. -/
def headerSize (count : Int) : Int :=
  preambleSize + count * entrySize

/-- Where the record of the flow graph with an entry address starts. -/
structure Entry where
  address : Int
  offset : Int
  deriving DecidableEq, Repr, Inhabited

/-- The offsets of all records.  Numbers are unchecked until the index is
packed. -/
structure Index where
  metaOffset : Int
  callGraphOffset : Int
  entries : List Entry := []
  deriving DecidableEq, Repr, Inhabited

/-- A header or index cannot be trusted. -/
inductive HeaderError
  /-- The data ends before the header does. -/
  | truncated (available : Nat)
  /-- Fewer bytes follow than the index needs. -/
  | missingEntries (declared : Int) (available : Nat)
  deriving DecidableEq, Repr

def HeaderError.message : HeaderError → String
  | .truncated available => s!"header needs {preambleSize} bytes, file has {available}"
  | .missingEntries declared available =>
      s!"offset index declares {declared} entries but only {available} bytes follow"

namespace Index

/-- The size of the packed index. -/
def size (index : Index) : Int :=
  headerSize index.entries.length

/-- A number as a word of the given width, if it fits. -/
def word? (width : Nat) (value : Int) : Option Bytes :=
  if 0 ≤ value ∧ value < Bytes.capacity width then some (Bytes.littleEndian width value.toNat) else none

def packEntry? (entry : Entry) : Option Bytes := do
  let address ← word? 8 entry.address
  let offset ← word? 4 entry.offset
  return address ++ offset

/-- The packed index, if every number fits its word. -/
def pack? (index : Index) : Option Bytes := do
  let metaWord ← word? 4 index.metaOffset
  let callGraphWord ← word? 4 index.callGraphOffset
  let countWord ← word? 4 index.entries.length
  let entries ← index.entries.mapM packEntry?
  return metaWord ++ callGraphWord ++ countWord ++ entries.flatten

end Index

/-- The three words in front of an index. -/
structure Preamble where
  metaOffset : Nat
  callGraphOffset : Nat
  count : Nat
  deriving DecidableEq, Repr

/-- Reads the three words in front of an index. -/
def unpackPreamble (data : Bytes) : Except HeaderError Preamble :=
  if data.length < preambleSize then .error (.truncated data.length)
  else .ok
    { metaOffset := (data.slice 0 4).toNat
      callGraphOffset := (data.slice 4 4).toNat
      count := (data.slice 8 4).toNat }

/-- The first entries of an index, as many as asked for. -/
def takeEntries : Nat → Bytes → List Entry
  | 0, _ => []
  | count + 1, data =>
      ⟨(data.slice 0 8).toNat, (data.slice 8 4).toNat⟩ ::
        takeEntries count (data.drop entrySize)

/-- Reads an index of the declared number of entries. -/
def unpackEntries (data : Bytes) (count : Int) : Except HeaderError (List Entry) :=
  if data.length < count * entrySize then .error (.missingEntries count data.length)
  else .ok (takeEntries count.toNat data)

end CodeGraph.Container
