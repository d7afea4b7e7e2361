import CodeGraph.Yaml.Node

/-!
# Merged mappings

The entries of a mapping that stands under the key for merging come before those
of the mapping that the key is in.  Of a sequence of mappings the first counts
most, so its entries come last.  A mapping may be merged into itself.
-/

namespace CodeGraph.Yaml

namespace Nodes

def nodeAt (nodes : Nodes) (place : NodeId) : Node :=
  nodes.getD place Node.empty

/-- The entries of a mapping. -/
def entries (nodes : Nodes) (place : NodeId) : List (NodeId × NodeId) :=
  match (nodes.nodeAt place).content with
  | .mapping entries => entries
  | _ => []

/-- The nodes with other entries in a mapping. -/
def setEntries (nodes : Nodes) (place : NodeId) (entries : List (NodeId × NodeId)) : Nodes :=
  nodes.set! place { nodes.nodeAt place with content := .mapping entries }

/-- The number of entries in all mappings. -/
def entryCount (nodes : Nodes) : Nat :=
  nodes.foldl
    (fun count node =>
      match node.content with
      | .mapping entries => count + entries.length
      | _ => count)
    0

/-- The nodes with a text in place of a default key. -/
def settleDefault (nodes : Nodes) (key : NodeId) : Nodes :=
  let node := nodes.nodeAt key
  if node.tag = .default then nodes.set! key { node with tag := .text } else nodes

end Nodes

/-- Changes nodes of a document. -/
abbrev Merging := StateT Nodes (Except Error)

mutual

/-- Puts what is merged into a mapping in front of its own entries. -/
def mergeInto : Nat → NodeId → Merging Unit
  | 0, _ => return
  | fuel + 1, place => do
      let merged ← takeMerged fuel place
      modify fun nodes => nodes.setEntries place (merged ++ nodes.entries place)
      modify fun nodes => ((nodes.entries place).map (·.1)).foldl Nodes.settleDefault nodes

/-- Takes the entries with the key for merging off, and gives what they stand for.  -/
def takeMerged : Nat → NodeId → Merging (List (NodeId × NodeId))
  | 0, _ => return []
  | fuel + 1, place => do
      let nodes ← get
      let entries := nodes.entries place
      match entries.findIdx? fun (key, _) => (nodes.nodeAt key).tag == .merge with
      | none => return []
      | some index =>
          let (_, value) := entries.getD index (0, 0)
          set (nodes.setEntries place (entries.eraseIdx index))
          let merged ← match (nodes.nodeAt value).content with
            | .mapping _ => mergedEntries fuel value
            | .sequence items => mergedItems fuel items
            | .scalar _ => throw .merge
          return merged ++ (← takeMerged fuel place)

/-- The entries of a mapping, with what is merged into it. -/
def mergedEntries : Nat → NodeId → Merging (List (NodeId × NodeId))
  | 0, _ => return []
  | fuel + 1, place => do
      mergeInto fuel place
      return (← get).entries place

/-- The entries of mappings, those of the first last. -/
def mergedItems : Nat → List NodeId → Merging (List (NodeId × NodeId))
  | 0, _ => return []
  | _, [] => return []
  | fuel + 1, item :: rest => do
      match ((← get).nodeAt item).content with
      | .mapping _ =>
          let entries ← mergedEntries fuel item
          return (← mergedItems fuel rest) ++ entries
      | _ => throw .merge

end

/-- Puts what is merged into a mapping in front of its own entries.  Every entry
is taken off once at most, which bounds how deep merges stand in each other. -/
def merge (place : NodeId) : Merging Unit := do
  let nodes ← get
  mergeInto (4 * (nodes.entryCount + nodes.size + 2)) place

end CodeGraph.Yaml
