import CodeGraph.Codec.Value

/-!
# The call graph record

Vertices come before edges.  Both endpoints of an edge and the address and
signature of a vertex must be present; the kind and the name mark of a vertex
are always written.
-/

namespace CodeGraph.Codec

open Wire (Field)

/-- A number is the code of a function kind. -/
def isFunctionKind (code : Int) : Bool := (FunctionKind.ofCode? code).isSome

def vertexFields (vertex : CallGraph.Vertex) : Except ValueError (List Field) := do
  let address ← wordField 64 1 vertex.address
  let prime ← wordField 64 2 vertex.prime
  let kind ← enumeratorField isFunctionKind 3 vertex.kind
  return [address, prime, kind, truthField 4 vertex.hasRealName] ++
    optionalText 5 vertex.mangledName ++ optionalText 6 vertex.demangledName

def callFields (edge : CallGraph.Edge) : Except ValueError (List Field) := do
  let sourceFunction ← wordField 64 1 edge.sourceFunction
  let sourceInstruction ← wordField 64 2 edge.sourceInstruction
  let target ← wordField 64 3 edge.target
  return [sourceFunction, sourceInstruction, target]

def callGraphFields (graph : CallGraph) : Except ValueError (List Field) := do
  let vertices ← graph.vertices.mapM vertexFields
  let edges ← graph.edges.mapM callFields
  return vertices.map (messageField 1) ++ edges.map (messageField 2)

/-- The payload of a call graph. -/
def encodeCallGraph (graph : CallGraph) : Except EncodeError Bytes :=
  match callGraphFields graph with
  | .ok fields => .ok (Wire.encodeFields fields)
  | .error error => .error (.callGraph error)

/-- The messages that make up a call graph. -/
structure CallGraphMessage where
  vertices : List (List Field)
  edges : List (List Field)

/-- Takes a payload apart into messages, if it is well-formed. -/
def parseCallGraph (payload : Bytes) : Option CallGraphMessage := do
  let fields ← Wire.fields? 0 payload
  let vertices ← (Wire.messages 1 fields).mapM (Wire.fields? 1)
  let edges ← (Wire.messages 2 fields).mapM (Wire.fields? 1)
  return { vertices, edges }

/-- The paths of the required fields that a call graph lacks. -/
def CallGraphMessage.missing (message : CallGraphMessage) : List String :=
  let vertices := message.vertices.zipIdx.flatMap fun (fields, position) =>
    missingFields (elementPath "" "vertices" position)
      [("address", hasWord 1), ("prime", hasWord 2)] fields
  let edges := message.edges.zipIdx.flatMap fun (fields, position) =>
    missingFields (elementPath "" "edges" position)
      [("source_function_address", hasWord 1), ("source_instruction_address", hasWord 2),
        ("target_address", hasWord 3)] fields
  vertices ++ edges

/-- A required 64-bit number. -/
def word (number : Nat) (fields : List Field) : Nat :=
  (Wire.word64? number fields).getD 0

/-- The vertex that a message holds. -/
def vertexOfFields (fields : List Field) : Except DecodeError CallGraph.Vertex := do
  let mangledName ← readOptionalText "mangled_name" (Wire.bytes? 5 fields)
  let demangledName ← readOptionalText "demangled_name" (Wire.bytes? 6 fields)
  return {
    address := word 1 fields
    prime := word 2 fields
    kind := (Wire.enumerator? isFunctionKind 3 fields).getD FunctionKind.normal.code
    hasRealName := (Wire.truth? 4 fields).getD false
    mangledName
    demangledName }

/-- The call that a message holds. -/
def callOfFields (fields : List Field) : CallGraph.Edge where
  sourceFunction := word 1 fields
  sourceInstruction := word 2 fields
  target := word 3 fields

/-- Reads a call graph. -/
def decodeCallGraph (payload : Bytes) : Except DecodeError CallGraph :=
  match parseCallGraph payload with
  | none => .error (.corrupt .callGraph)
  | some message =>
      if message.missing.isEmpty then do
        let vertices ← message.vertices.mapM vertexOfFields
        return { vertices, edges := message.edges.map callOfFields }
      else .error (.missing message.missing)

end CodeGraph.Codec
