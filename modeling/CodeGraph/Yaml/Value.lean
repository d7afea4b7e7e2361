import CodeGraph.Yaml.Atom
import CodeGraph.Yaml.Merge

/-!
# Values of documents

A node is turned into the value that its tag asks for, each node once.  The value
of a collection starts out empty and is filled when all that was met before it is
done.  Of the entries with one key the last counts.
-/

namespace CodeGraph.Yaml

/-- What a document holds. -/
inductive Value
  | atom (atom : Atom)
  | sequence (items : List Value)
  | mapping (entries : List (Atom × Value))
  | set (items : List Atom)
  /-- Single entries in order.  They are not looked into. -/
  | pairs (length : Nat)
  deriving Repr, Inhabited

namespace Value

/-- The value of a text in a mapping. -/
def member? (entries : List (Atom × Value)) (name : String) : Option Value :=
  (entries.find? fun (key, _) => key.sameKey (.ofString name)).map (·.2)

/-- An empty document or value. -/
def isEmpty : Value → Bool
  | atom single => single.isEmpty
  | sequence items => items.isEmpty
  | mapping entries => entries.isEmpty
  | set items => items.isEmpty
  | pairs length => length == 0

end Value

/-- What was made of a node.  The parts of a collection are known by their
nodes. -/
inductive Made
  | atom (atom : Atom)
  | sequence (items : List NodeId)
  | mapping (entries : List (Atom × NodeId))
  | set (items : List Atom)
  | pairs (length : Nat)
  deriving Repr, Inhabited

namespace Made

/-- The entries with one more; a key that is there keeps its place. -/
def setEntry (key : Atom) (value : NodeId) :
    List (Atom × NodeId) → List (Atom × NodeId)
  | [] => [(key, value)]
  | (other, old) :: rest =>
      if other.sameKey key then (other, value) :: rest
      else (other, old) :: setEntry key value rest

/-- The entries without repeated keys. -/
def distinct (entries : List (Atom × NodeId)) : List (Atom × NodeId) :=
  entries.foldl (fun entries (key, value) => setEntry key value entries) []

end Made

/-- The nodes of a document and what was made of them. -/
structure Construction where
  nodes : Nodes
  made : Array (Option Made)
  /-- Collections that are not filled yet, in the order in which they were met. -/
  waiting : List NodeId := []

namespace Construction

/-- Makes values of nodes. -/
abbrev Maker := StateT Construction (Except Error)

/-- The text of a scalar, or of the default entry of a mapping. -/
def scalarText (nodes : Nodes) : Nat → NodeId → Except Error Codes
  | 0, _ => .error (.value .depth)
  | fuel + 1, place =>
      match (nodes.nodeAt place).content with
      | .scalar text => .ok text
      | .sequence _ => .error .wrongForm
      | .mapping entries =>
          match entries.find? fun (key, _) => (nodes.nodeAt key).tag == .default with
          | some (_, value) => scalarText nodes fuel value
          | none => .error .wrongForm

/-- Keeps what was made of a node. -/
def keep (place : NodeId) (made : Made) : Maker Made := do
  modify fun state => { state with made := state.made.set! place (some made) }
  return made

/-- Keeps an empty collection that is to be filled. -/
def keepEmpty (place : NodeId) (made : Made) : Maker Made := do
  modify fun state => { state with waiting := state.waiting ++ [place] }
  keep place made

/-- Makes the value of a node without parts. -/
def makeAtom (place : NodeId) (node : Node) (nodes : Nodes) : Except Error Atom := do
  let text ← scalarText nodes (nodes.size + 1) place
  match node.tag, node.content with
  | .moment, .mapping _ => throw (.value .momentNode)
  | tag, _ => Atom.ofScalar place tag text

/-- Makes the value of a node; that of a collection is empty yet. -/
def make (place : NodeId) : Maker Made := do
  let state ← get
  match (state.made.getD place none) with
  | some made => return made
  | none =>
      let node := state.nodes.nodeAt place
      match node.tag with
      | .sequence => keepEmpty place (.sequence [])
      | .mapping => keepEmpty place (.mapping [])
      | .set => keepEmpty place (.set [])
      | .pairs => keepEmpty place (.pairs 0)
      | .merge | .default => throw .wrongForm
      | .unknown name => throw (.unknownTag name)
      | _ => keep place (.atom (← makeAtom place node state.nodes))

/-- Makes the entries of a mapping. -/
def makeEntries : List (NodeId × NodeId) → Maker (List (Atom × NodeId))
  | [] => return []
  | (key, value) :: rest => do
      match ← make key with
      | .atom atom =>
          let _ ← make value
          return (atom, value) :: (← makeEntries rest)
      | _ => throw .collectionKey

/-- Makes the entries of mappings that have one entry each. -/
def makePairs : List NodeId → Maker Unit
  | [] => return
  | item :: rest => do
      match ((← get).nodes.nodeAt item).content with
      | .mapping [(key, value)] =>
          let _ ← make key
          let _ ← make value
          makePairs rest
      | _ => throw .wrongForm

/-- Makes the entries of a mapping together with what is merged into it. -/
def makeMapping (place : NodeId) : Maker (List (Atom × NodeId)) := do
  let state ← get
  match (state.nodes.nodeAt place).content with
  | .mapping _ =>
      let (_, nodes) ← (merge place).run state.nodes
      set { state with nodes }
      return Made.distinct (← makeEntries (nodes.entries place))
  | _ => throw .wrongForm

/-- Fills a collection. -/
def fill (place : NodeId) : Maker Unit := do
  let node := (← get).nodes.nodeAt place
  let made ← match node.tag, node.content with
    | .sequence, .sequence items => do
        items.forM fun item => discard (make item)
        pure (Made.sequence items)
    | .pairs, .sequence items => do
        makePairs items
        pure (Made.pairs items.length)
    | .mapping, _ => do
        pure (Made.mapping (← makeMapping place))
    | .set, _ => do
        pure (Made.set ((← makeMapping place).map (·.1)))
    | _, _ => throw .wrongForm
  discard (keep place made)

/-- Fills all collections.  Each node waits once at most. -/
def fillAll : Nat → Maker Unit
  | 0 => return
  | fuel + 1 => do
      match (← get).waiting with
      | [] => return
      | place :: rest =>
          modify fun state => { state with waiting := rest }
          fill place
          fillAll fuel

/-- The value of a node.  A chain of parts with more steps than there are nodes
comes back to where it was. -/
def value (made : Array (Option Made)) : Nat → NodeId → Except Error Value
  | 0, _ => .error (.value .depth)
  | fuel + 1, place =>
      match made.getD place none with
      | none => .error .wrongForm
      | some (.atom atom) => .ok (.atom atom)
      | some (.sequence items) => Value.sequence <$> items.mapM (value made fuel)
      | some (.mapping entries) =>
          Value.mapping <$> entries.mapM fun (key, part) => return (key, ← value made fuel part)
      | some (.set items) => .ok (.set items)
      | some (.pairs length) => .ok (.pairs length)

end Construction

/-- The value of a document; one without a root is empty. -/
def Document.value (document : Document) : Except Error Value := do
  match document.root with
  | none => return .atom .null
  | some root =>
      let size := document.nodes.size
      let start : Construction :=
        { nodes := document.nodes, made := Array.replicate size none }
      let (_, final) ← (do
        let _ ← Construction.make root
        Construction.fillAll (size + 1) : Construction.Maker Unit).run start
      Construction.value final.made (size + 1) root

/-- The value of the only document in a text. -/
def read (text : String) : Except Error Value := do
  (← Document.ofString text).value

end CodeGraph.Yaml
