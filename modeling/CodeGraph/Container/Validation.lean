import CodeGraph.Container.Reader

/-!
# Cross-checking the records of a container

Metadata and call graph must be readable; a flow graph that is not becomes a
fault in the report, and every other record is still checked.
-/

namespace CodeGraph.Container

/-- A contradiction between records. -/
inductive Fault
  | duplicateVertex (address : Int)
  | unknownCaller (edge : CallGraph.Edge)
  | unreadable (error : RecordError)
  | noVertex (address : Int)
  deriving DecidableEq, Repr

def Fault.message : Fault → String
  | .duplicateVertex address => s!"duplicate call graph vertex {Hex.ofInt address}"
  | .unknownCaller edge =>
      s!"call edge {Hex.ofInt edge.sourceInstruction} -> {Hex.ofInt edge.target} has unknown source function {Hex.ofInt edge.sourceFunction}"
  | .unreadable error => error.message
  | .noVertex address => s!"flow graph {Hex.ofInt address} has no call graph vertex"

/-- The counts that the metadata declares, in the order of their checks. -/
inductive Count
  | functions
  | basicBlocks
  | instructions
  | edges
  deriving DecidableEq, Repr

def Count.name : Count → String
  | .functions => "num_functions"
  | .basicBlocks => "num_basicblocks"
  | .instructions => "num_instructions"
  | .edges => "num_edges"

/-- What the metadata declares for a count. -/
def Count.declared (metadata : Meta) : Count → Option Int
  | .functions => metadata.numFunctions
  | .basicBlocks => metadata.numBasicBlocks
  | .instructions => metadata.numInstructions
  | .edges => metadata.numEdges

/-- Something odd that is no contradiction. -/
inductive Concern
  /-- A function of this kind should have no flow graph. -/
  | unexpectedBody (address : Int) (kind : FunctionKind)
  | countDiffers (count : Count) (declared actual : Int)
  deriving DecidableEq, Repr

def Concern.message : Concern → String
  | .unexpectedBody address kind =>
      s!"flow graph {Hex.ofInt address} belongs to a {kind.name} function"
  | .countDiffers count declared actual =>
      s!"meta {count.name} is {declared}, flow graphs hold {actual}"

/-- The result of a check. -/
structure Report where
  faults : List Fault := []
  concerns : List Concern := []
  checked : Nat := 0
  deriving DecidableEq, Repr

/-- A container without faults passes. -/
def Report.ok (report : Report) : Bool := report.faults.isEmpty

/-- The vertices whose address an earlier vertex has. -/
def duplicateVertices : List Int → List CallGraph.Vertex → List Fault
  | _, [] => []
  | seen, vertex :: rest =>
      let fault := if seen.contains vertex.address then [.duplicateVertex vertex.address] else []
      fault ++ duplicateVertices (vertex.address :: seen) rest

/-- The calls whose source function has no vertex. -/
def unknownCallers (graph : CallGraph) : List Fault :=
  (graph.edges.filter fun edge =>
    !graph.vertices.any (·.address == edge.sourceFunction)).map .unknownCaller

/-- The last vertex with an address. -/
def lastVertex? (graph : CallGraph) (address : Int) : Option CallGraph.Vertex :=
  graph.vertices.reverse.find? (·.address == address)

/-- Functions of these kinds have no body. -/
def bodyless : List FunctionKind := [.library, .imported, .invalid]

/-- What a flow graph that was read adds to a report. -/
def checkVertex (callGraph : CallGraph) (graph : FlowGraph) : List Fault × List Concern :=
  match lastVertex? callGraph graph.address with
  | none => ([.noVertex graph.address], [])
  | some vertex =>
      match bodyless.find? (·.code == vertex.kind) with
      | some kind => ([], [.unexpectedBody graph.address kind])
      | none => ([], [])

/-- The flow graphs of a container, each read or with the fault of its record. -/
abbrev Bodies := List (Except RecordError FlowGraph)

/-- Reads every flow graph.  Only a store that fails to deliver stops it. -/
def readBodies (reader : Reader) : List Nat → Reader.Outcome Bodies
  | [] => (.ok [], [])
  | position :: rest =>
      let continueWith (body : Except RecordError FlowGraph) (warnings : List Codec.Warning) :
          Reader.Outcome Bodies :=
        let (bodies, more) := readBodies reader rest
        (bodies.map (body :: ·), warnings ++ more)
      match reader.flowGraphAt position with
      | (.ok graph, warnings) => continueWith (.ok graph) warnings
      | (.error (.record error), warnings) => continueWith (.error error) warnings
      | (.error error, warnings) => (.error error, warnings)

/-- What one flow graph adds to a report. -/
def checkBody (callGraph : CallGraph) : Except RecordError FlowGraph → List Fault × List Concern
  | .ok graph => checkVertex callGraph graph
  | .error error => ([.unreadable error], [])

/-- What the flow graphs that were read hold of a count; functions are counted
by the index. -/
def Count.actual (entries : Nat) (graphs : List FlowGraph) : Count → Nat
  | .functions => entries
  | .basicBlocks => (graphs.map (·.blocks.length)).foldr (· + ·) 0
  | .instructions => (graphs.map (·.numInstructions)).foldr (· + ·) 0
  | .edges => (graphs.map (·.edges.length)).foldr (· + ·) 0

/-- The declared counts that differ from the actual ones. -/
def checkCounts (metadata : Meta) (entries : Nat) (graphs : List FlowGraph) : List Concern :=
  [Count.functions, .basicBlocks, .instructions, .edges].filterMap fun count =>
    let actual : Int := count.actual entries graphs
    match count.declared metadata with
    | some declared => if declared ≠ actual then some (.countDiffers count declared actual) else none
    | none => none

/-- The report on records that were read.  Counts are compared only when every
flow graph could be read. -/
def reportOn (metadata : Meta) (callGraph : CallGraph) (bodies : Bodies) : Report :=
  let graphs := bodies.filterMap Except.toOption
  let checks := bodies.map (checkBody callGraph)
  { faults :=
      duplicateVertices [] callGraph.vertices ++ unknownCallers callGraph ++
        checks.flatMap (·.1)
    concerns :=
      checks.flatMap (·.2) ++
        (if graphs.length = bodies.length then checkCounts metadata bodies.length graphs else [])
    checked := graphs.length }

/-- Checks the records of a container against each other. -/
def validate (reader : Reader) : Reader.Outcome Report :=
  match reader.metadata with
  | .error error => (.error error, [])
  | .ok metadata =>
      match reader.callGraph with
      | .error error => (.error error, [])
      | .ok callGraph =>
          let (bodies, warnings) := readBodies reader (List.range reader.count)
          (bodies.map (reportOn metadata callGraph), warnings)

end CodeGraph.Container
