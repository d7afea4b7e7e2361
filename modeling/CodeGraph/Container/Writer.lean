import CodeGraph.Codec.Metadata
import CodeGraph.Codec.CallGraph
import CodeGraph.Codec.FlowGraph
import CodeGraph.Container.Index
import CodeGraph.Container.Stream

/-!
# Writing a container

Records are appended one at a time behind a header of zeros.  The header is
written only after the last flow graph, so a container that was not finished
never starts with a valid header.  Nothing is written before the first flow
graph is known to be well-formed.
-/

namespace CodeGraph.Container

/-- A flow graph to be written, or one that was encoded ahead. -/
inductive Item
  | record (graph : FlowGraph)
  | encoded (address : Int) (payload : Bytes)
  deriving DecidableEq, Repr

/-- Why a container cannot be written. -/
inductive WriteError
  | negativeCount
  /-- The number of flow graphs must be known ahead. -/
  | countRequired
  | encode (error : Codec.EncodeError)
  | tooMany (declared : Nat)
  | duplicate (address : Int)
  | offsetTooLarge (offset : Nat)
  | countMismatch (declared received : Nat)
  /-- An address does not fit the index. -/
  | indexOverflow
  | store (error : StoreError)
  deriving DecidableEq, Repr

def WriteError.message : WriteError → String
  | .negativeCount => "number of flow graphs cannot be negative"
  | .countRequired => "number of flow graphs must be given when streaming from an iterator"
  | .encode error => error.message
  | .tooMany declared => s!"more flow graphs than the {declared} declared"
  | .duplicate address => s!"duplicate flow graph address {Hex.ofInt address}"
  | .offsetTooLarge offset => s!"record offset {offset} does not fit the 32-bit header field"
  | .countMismatch declared received =>
      s!"declared {declared} flow graphs but received {received}"
  | .indexOverflow => "index value does not fit its field"
  | .store error => s!"writing container failed: {error.message}"

/-- The flow graphs to be written, and what is known of their number. -/
structure Source where
  items : List Item
  /-- The number that the caller declares. -/
  declared : Option Int := none
  /-- The number of items can be told without taking them. -/
  sized : Bool := true
  deriving DecidableEq, Repr

/-- The number of flow graphs that the header makes room for. -/
def Source.count (source : Source) : Except WriteError Nat :=
  match source.declared with
  | some declared => if declared < 0 then .error .negativeCount else .ok declared.toNat
  | none => if source.sized then .ok source.items.length else .error .countRequired

/-- Is told each address after its record was written, and may stop the writing
with a reason. -/
abbrev Listener := Int → Option String

/-- An address that the listener was given, and its reason to stop there. -/
structure Call where
  address : Int
  answer : Option String
  deriving DecidableEq, Repr

def Listener.call (listener : Listener) (address : Int) : Call :=
  ⟨address, listener address⟩

/-- The addresses of the calls at which the listener did not stop. -/
def heard (calls : List Call) : List Int :=
  (calls.filter (·.answer.isNone)).map (·.address)

/-- What is being written to, and the calls of the listener so far. -/
structure Progress (σ : Type) where
  store : σ
  calls : List Call := []
  deriving DecidableEq, Repr

/-- The addresses that the listener was given, one at which it stopped included. -/
def Progress.given {σ : Type} (progress : Progress σ) : List Int :=
  progress.calls.map (·.address)

def Progress.told {σ : Type} (progress : Progress σ) : List Int :=
  heard progress.calls

/-- Writing may fail, and leaves its progress in either case. -/
abbrev Writing (σ : Type) := ExceptT WriteError (StateM (Progress σ))

/-- The payload of an item, and its address. -/
def Item.encode : Item → Except WriteError (Int × Bytes)
  | .encoded address payload => .ok (address, payload)
  | .record graph =>
      match Codec.encodeFlowGraph graph with
      | .ok payload => .ok (graph.address, payload)
      | .error error => .error (.encode error)

/-- What is known when writing starts. -/
structure Plan where
  /-- Where the container starts; offsets are counted from here. -/
  start : Nat
  count : Nat
  metadata : Bytes
  callGraph : Bytes
  deriving DecidableEq, Repr

/-- What is written first, with the container at the given place.  Nothing of
it depends on the flow graphs themselves. -/
def Plan.make (start : Nat) (metadata : Meta) (callGraph : CallGraph) (source : Source) :
    Except WriteError Plan := do
  let count ← source.count
  let metadataPayload ← (Codec.encodeMetadata metadata).mapError .encode
  let callGraphPayload ← (Codec.encodeCallGraph callGraph).mapError .encode
  return { start, count, metadata := metadataPayload, callGraph := callGraphPayload }

namespace Stream

variable {σ : Type}

/-- Tries an operation of the stream. -/
def perform {α : Type} (attempt : Attempt σ α) : Writing σ α := do
  let progress ← get
  let (outcome, store) := attempt progress.store
  set { progress with store }
  match outcome with
  | .ok value => return value
  | .error error => throw (.store error)

/-- Gives an address to the listener. -/
def tellListener (listener : Listener) (address : Int) : Writing σ Unit := do
  let call := Listener.call listener address
  modify fun progress => { progress with calls := progress.calls ++ [call] }
  match call.answer with
  | none => return ()
  | some reason => throw (.store (.stopped reason))

/-- The offsets of the first two records. -/
structure Opening where
  metadata : Int
  callGraph : Int
  deriving DecidableEq, Repr

section Writer

variable (stream : Stream σ) (plan : Plan)

/-- Writes a record and tells its offset, which must fit the header. -/
def append (payload : Bytes) : Writing σ Int := do
  let place ← perform stream.tell
  let offset : Int := place - plan.start
  if (maxOffset : Int) < offset then throw (.offsetTooLarge offset.toNat)
  perform (stream.write payload)
  return offset

/-- Writes the header of zeros, the metadata and the call graph. -/
def begin : Writing σ Opening := do
  perform (stream.write (List.replicate (headerSize plan.count).toNat 0))
  let metadata ← stream.append plan plan.metadata
  let callGraph ← stream.append plan plan.callGraph
  return { metadata, callGraph }

/-- Begins unless writing has begun before. -/
def ensureBegun : Option Opening → Writing σ Opening
  | some opening => return opening
  | none => stream.begin plan

/-- Writes one item after the given entries. -/
def appendItem (listener : Listener) (opening : Option Opening) (entries : List Entry)
    (item : Item) : Writing σ (Opening × Entry) := do
  let (address, payload) ← item.encode
  let opening ← stream.ensureBegun plan opening
  if plan.count ≤ entries.length then throw (.tooMany plan.count)
  if entries.any (·.address == address) then throw (.duplicate address)
  let offset ← stream.append plan payload
  tellListener listener address
  return (opening, ⟨address, offset⟩)

/-- Writes items after the given entries, one by one. -/
def appendItems (listener : Listener) :
    Option Opening → List Entry → List Item → Writing σ (Option Opening × List Entry)
  | opening, entries, [] => return (opening, entries)
  | opening, entries, item :: rest => do
      let (opening, entry) ← stream.appendItem plan listener opening entries item
      appendItems listener (some opening) (entries ++ [entry]) rest

/-- Writes the header over the zeros and moves behind the container. -/
def finish (index : Index) : Writing σ Unit := do
  let place ← perform stream.tell
  perform (stream.seek plan.start)
  match index.pack? with
  | none => throw .indexOverflow
  | some header => perform (stream.write header)
  perform (stream.seek place)
  perform stream.flush

/-- Writes all records and then the header. -/
def run (listener : Listener) (items : List Item) : Writing σ Index := do
  let (opening, entries) ← stream.appendItems plan listener none [] items
  if entries.length ≠ plan.count then throw (.countMismatch plan.count entries.length)
  let opening ← stream.ensureBegun plan opening
  let index := ⟨opening.metadata, opening.callGraph, entries⟩
  stream.finish plan index
  return index

/-- Writes the items that a source gives before it fails with a reason. -/
def runInterrupted (listener : Listener) (items : List Item) (reason : String) :
    Writing σ Index := do
  let _ ← stream.appendItems plan listener none [] items
  throw (.store (.stopped reason))

end Writer

section Container

variable (stream : Stream σ) (listener : Listener) (metadata : Meta) (callGraph : CallGraph)
  (source : Source)

/-- Writes a container at the current place of a stream, from a source that may
fail with a reason after it gave its items. -/
def writeFrom (interruption : Option String) : Writing σ Index := do
  let plan ← Plan.make 0 metadata callGraph source
  let start ← perform stream.tell
  match interruption with
  | none => stream.run { plan with start } listener source.items
  | some reason => stream.runInterrupted { plan with start } listener source.items reason

/-- Writes a container at the current place of a stream. -/
def writeContainer : Writing σ Index :=
  stream.writeFrom listener metadata callGraph source none

end Container

end Stream

/-- Writes a container at the current place of a store, from a source that may
fail with a reason after it gave its items.  The progress made is told also when
writing fails. -/
def writeFrom (listener : Listener) (metadata : Meta) (callGraph : CallGraph) (source : Source)
    (interruption : Option String) (store : Store) : Except WriteError Index × Progress Store :=
  (Store.asStream.writeFrom listener metadata callGraph source interruption).run.run { store }

/-- Writes a container at the current place of a store. -/
def write (listener : Listener) (metadata : Meta) (callGraph : CallGraph) (source : Source)
    (store : Store) : Except WriteError Index × Progress Store :=
  writeFrom listener metadata callGraph source none store

end CodeGraph.Container
