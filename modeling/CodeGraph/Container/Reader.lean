import CodeGraph.Codec.Metadata
import CodeGraph.Codec.CallGraph
import CodeGraph.Codec.FlowGraph
import CodeGraph.Container.Layout
import CodeGraph.Container.Search
import CodeGraph.Container.Store

/-!
# Reading a container

Opening a container reads its header and index only.  Every record is read on
its own from its offset to its end, so damage to one record does not reach the
others.
-/

namespace CodeGraph.Container

/-- A header or index that contradicts the data. -/
inductive StructureError
  | header (error : HeaderError)
  /-- The index would be larger than the data. -/
  | indexPastEnd (count headerSize size : Nat)
  /-- A record starts inside the header or past the end. -/
  | offsetOutside (record : Codec.RecordKind) (offset : Int) (headerSize size : Nat)
  /-- A flow graph starts inside the header. -/
  | offsetInHeader (position : Nat) (offset : Int)
  deriving DecidableEq, Repr

def StructureError.message : StructureError → String
  | .header error => error.message
  | .indexPastEnd count headerSize size =>
      s!"header declares {count} flow graphs ({headerSize} bytes) but the file has {size} bytes"
  | .offsetOutside record offset headerSize size =>
      s!"{record.label} offset {offset} outside [{headerSize}, {size}]"
  | .offsetInHeader position offset =>
      s!"flow graph #{position} offset {offset} points into the header"

/-- A store that fails to deliver. -/
inductive AccessError
  | noSize (error : StoreError)
  | failedRead (place size : Nat) (error : StoreError)
  /-- Fewer bytes came than the data has. -/
  | shortRead (place received size : Nat)
  /-- A file cannot be opened. -/
  | openFile (path reason : String)
  /-- No file can have the path. -/
  | noPath (reason : String)
  deriving DecidableEq, Repr

def AccessError.message : AccessError → String
  | .noSize error => s!"cannot determine container size: {error.message}"
  | .failedRead place size error => s!"read of {size} bytes at {place} failed: {error.message}"
  | .shortRead place received size => s!"short read at {place}: {received} of {size} bytes"
  | .openFile path reason => s!"cannot open {path}: {reason}"
  | .noPath reason => reason

/-- What is wrong with a record. -/
inductive RecordFault
  | decode (error : Codec.DecodeError)
  /-- The record starts past the end of the data. -/
  | pastEnd (size : Nat)
  /-- The record is of another flow graph than the index says. -/
  | addressMismatch (found : Int)
  deriving DecidableEq, Repr

def RecordFault.message : RecordFault → String
  | .decode error => error.message
  | .pastEnd size => s!"offset past end of file ({size} bytes), container truncated"
  | .addressMismatch found =>
      s!"payload entry point {Hex.ofInt found} does not match the index"

/-- A record that cannot be read, and where it is. -/
structure RecordError where
  kind : Codec.RecordKind
  fault : RecordFault
  position : Option Nat := none
  address : Option Int := none
  offset : Option Int := none
  deriving DecidableEq, Repr

/-- The kind of the record, what is known of its place, and its fault. -/
def RecordError.message (error : RecordError) : String :=
  let position := error.position.toList.map fun position => s!"#{position}"
  let address := error.address.toList.map fun address => s!"@{Hex.ofInt address}"
  let offset := error.offset.toList.map fun offset => s!"(offset {offset})"
  let place := " ".intercalate (error.kind.label :: (position ++ address ++ offset))
  s!"{place}: {error.fault.message}"

/-- Why reading fails. -/
inductive ReadError
  | malformed (error : StructureError)
  | access (error : AccessError)
  | record (error : RecordError)
  | noSuchIndex (index : Int)
  | noSuchAddress (address : Int)
  deriving DecidableEq, Repr

def ReadError.message : ReadError → String
  | .malformed error => error.message
  | .access error => error.message
  | .record error => error.message
  | .noSuchIndex index => s!"flow graph index {index} out of range"
  | .noSuchAddress address => s!"no flow graph at {Hex.ofInt address}"

/-- Reads data of a known size; only the end of the data may cut it short. -/
def readAt (store : Store) (total place size : Nat) : Except ReadError Bytes :=
  match store.read place size with
  | .error error => .error (.access (.failedRead place size error))
  | .ok data =>
      if data.length < size ∧ place + size ≤ total then
        .error (.access (.shortRead place data.length size))
      else .ok data

/-- Refuses an index with an offset that no record can have. -/
def checkOffsets (index : Index) (headerEnd total : Nat) : Except StructureError Unit :=
  let outside (offset : Int) : Bool := offset < headerEnd || total < offset
  if outside index.metaOffset then
    .error (.offsetOutside .metadata index.metaOffset headerEnd total)
  else if outside index.callGraphOffset then
    .error (.offsetOutside .callGraph index.callGraphOffset headerEnd total)
  else
    match index.entries.zipIdx.find? fun (entry, _) => entry.offset < headerEnd with
    | some (entry, position) => .error (.offsetInHeader position entry.offset)
    | none => .ok ()

/-- Reads the header and index of a container of a known size. -/
def readIndex (store : Store) (total : Nat) : Except ReadError Index := do
  let preamble ← (unpackPreamble (← readAt store total 0 preambleSize)).mapError
    (.malformed ∘ .header)
  let headerEnd := preambleSize + preamble.count * entrySize
  if total < headerEnd then
    throw (.malformed (.indexPastEnd preamble.count headerEnd total))
  let packed ← readAt store total preambleSize (headerEnd - preambleSize)
  let entries ← (unpackEntries packed preamble.count).mapError (.malformed ∘ .header)
  let index := ⟨preamble.metaOffset, preamble.callGraphOffset, entries⟩
  (checkOffsets index headerEnd total).mapError .malformed
  return index

/-- An entry address and the position of its entry. -/
abbrev AddressKey := Int × Nat

/-- Sorted by address; equal addresses keep the order of the index. -/
def AddressKey.before (left right : AddressKey) : Bool :=
  left.1 < right.1 || (left.1 == right.1 && left.2 ≤ right.2)

/-- An open container. -/
structure Reader where
  store : Store
  /-- Refuse operand text whose markup cannot be split. -/
  strict : Bool
  size : Nat
  index : Index
  deriving DecidableEq, Repr

/-- A read of some bytes from a place on.  Numbers are unchecked. -/
structure Request where
  place : Int
  size : Int
  deriving DecidableEq, Repr

namespace Reader

/-- Opens a container. -/
def ofStore (store : Store) (strict : Bool) : Except ReadError Reader := do
  let size ← store.size.mapError fun error => ReadError.access (.noSize error)
  let index ← readIndex store size
  return { store, strict, size, index }

/-- Where a record ends; never past the end of the data. -/
def recordEnd (reader : Reader) (key : RecordKey) : Int :=
  min (endOf reader.size key reader.index.layout) reader.size

/-- The read that fetches the record at an offset, unless the record starts past
the end of the data. -/
def request? (reader : Reader) (key : RecordKey) (offset : Int) : Option Request :=
  if reader.size < offset then none else some ⟨offset, reader.recordEnd key - offset⟩

/-- The bytes of the record at an offset. -/
def recordBytes (reader : Reader) (key : RecordKey) (offset : Int)
    (fail : RecordFault → ReadError) : Except ReadError Bytes :=
  match reader.request? key offset with
  | none => .error (fail (.pastEnd reader.size))
  | some request => readAt reader.store reader.size request.place.toNat request.size.toNat

/-- Reads the metadata record. -/
def metadata (reader : Reader) : Except ReadError Meta := do
  let offset := reader.index.metaOffset
  let fail (fault : RecordFault) : ReadError :=
    .record { kind := .metadata, fault, offset := some offset }
  let data ← reader.recordBytes .metadata offset fail
  (Codec.decodeMetadata data).mapError (fail ∘ .decode)

def callGraph (reader : Reader) : Except ReadError CallGraph := do
  let offset := reader.index.callGraphOffset
  let fail (fault : RecordFault) : ReadError :=
    .record { kind := .callGraph, fault, offset := some offset }
  let data ← reader.recordBytes .callGraph offset fail
  (Codec.decodeCallGraph data).mapError (fail ∘ .decode)

/-- The number of flow graphs. -/
def count (reader : Reader) : Nat := reader.index.entries.length

/-- The entry addresses in the order of the index. -/
def addresses (reader : Reader) : List Int := reader.index.entries.map (·.address)

/-- Reading flow graphs may fail, and gives warnings in either case. -/
abbrev Outcome (α : Type) := Except ReadError α × List Codec.Warning

/-- Reads the flow graph of an entry. -/
def flowGraphOfEntry (reader : Reader) (position : Nat) (entry : Entry) : Outcome FlowGraph :=
  let fail (fault : RecordFault) : ReadError :=
    .record
      { kind := .flowGraph, fault, position := some position, address := some entry.address,
        offset := some entry.offset }
  match reader.recordBytes (.flowGraph position) entry.offset fail with
  | .error error => (.error error, [])
  | .ok data =>
      match Codec.decodeFlowGraph reader.strict data with
      | (.error error, warnings) => (.error (fail (.decode error)), warnings)
      | (.ok graph, warnings) =>
          if graph.address = entry.address then (.ok graph, warnings)
          else (.error (fail (.addressMismatch graph.address)), warnings)

/-- Reads the flow graph at a position of the index. -/
def flowGraphAt (reader : Reader) (index : Int) : Outcome FlowGraph :=
  if index < 0 then (.error (.noSuchIndex index), [])
  else
    match reader.index.entries[index.toNat]? with
    | none => (.error (.noSuchIndex index), [])
    | some entry => reader.flowGraphOfEntry index.toNat entry

/-- The addresses of the index in ascending order, with their positions. -/
def sortedAddresses (reader : Reader) : List AddressKey :=
  reader.addresses.zipIdx.mergeSort AddressKey.before

/-- The first position of the index with an address, found by halving. -/
def position? (reader : Reader) (address : Int) : Option Nat :=
  let sorted := reader.sortedAddresses.toArray
  match findSorted? (sorted.map (·.1)) address with
  | none => none
  | some place => sorted[place]?.map (·.2)

/-- The container has a flow graph with an entry address. -/
def hasFlowGraph (reader : Reader) (address : Int) : Bool :=
  (reader.position? address).isSome

/-- Reads the flow graph with an entry address. -/
def flowGraphFor (reader : Reader) (address : Int) : Outcome FlowGraph :=
  match reader.position? address with
  | none => (.error (.noSuchAddress address), [])
  | some position => reader.flowGraphAt position

/-- The flow graphs of the given positions up to the first that cannot be read,
and why it cannot. -/
def flowGraphsAt (reader : Reader) :
    List Nat → List FlowGraph × Option ReadError × List Codec.Warning
  | [] => ([], none, [])
  | position :: rest =>
      match reader.flowGraphAt position with
      | (.error error, warnings) => ([], some error, warnings)
      | (.ok graph, warnings) =>
          let (graphs, error, more) := reader.flowGraphsAt rest
          (graph :: graphs, error, warnings ++ more)

/-- All flow graphs in the order of the index. -/
def flowGraphs (reader : Reader) : List FlowGraph × Option ReadError × List Codec.Warning :=
  reader.flowGraphsAt (List.range reader.count)

end Reader

end CodeGraph.Container
