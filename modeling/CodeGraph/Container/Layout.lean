import CodeGraph.Container.Index

/-!
# Where the records of a container lie

Records carry no length: a record ends where the next one starts, in the order
of offsets, and the last one ends with the data.  Records that start at the
same offset keep the order metadata, call graph, flow graphs, so all but the
last of them are empty.
-/

namespace CodeGraph.Container

/-- Names a record of a container. -/
inductive RecordKey
  | metadata
  | callGraph
  | flowGraph (position : Nat)
  deriving DecidableEq, Repr

/-- The rank of a record among those with the same offset. -/
def RecordKey.rank : RecordKey → Nat
  | .metadata => 0
  | .callGraph => 1
  | .flowGraph position => position + 2

/-- A record and where it starts. -/
structure Placement where
  offset : Int
  key : RecordKey
  deriving DecidableEq, Repr

/-- The order in which records follow one another. -/
def Placement.before (left right : Placement) : Bool :=
  left.offset < right.offset || (left.offset == right.offset && left.key.rank ≤ right.key.rank)

namespace Index

/-- The records in the order of the index. -/
def placements (index : Index) : List Placement :=
  ⟨index.metaOffset, .metadata⟩ :: ⟨index.callGraphOffset, .callGraph⟩ ::
    index.entries.zipIdx.map fun (entry, position) => ⟨entry.offset, .flowGraph position⟩

/-- The records in the order in which they lie in the data. -/
def layout (index : Index) : List Placement :=
  index.placements.mergeSort Placement.before

end Index

/-- Where a record ends among records in the order of the data: where the next
one starts, or else where the data ends. -/
def endOf (size : Int) (key : RecordKey) : List Placement → Int
  | [] => size
  | placement :: rest =>
      if placement.key = key then (rest.head?.map (·.offset)).getD size
      else endOf size key rest

end CodeGraph.Container
