import CodeGraph.Yaml.Layout
import CodeGraph.Yaml.Moment

/-!
# Nodes of a document

Tokens make up scalars, sequences and mappings.  A node is known by its place
among all nodes.  An alias is the place of the node that has its anchor, which may
be a collection that the alias stands in.
-/

namespace CodeGraph.Yaml

/-- The place of a node among all nodes of its document. -/
abbrev NodeId := Nat

/-- What a node is made of. -/
inductive Content
  | scalar (text : Codes)
  | sequence (items : List NodeId)
  | mapping (entries : List (NodeId × NodeId))
  deriving DecidableEq, Repr

/-- A node with its tag. -/
structure Node where
  tag : Tag
  content : Content
  deriving DecidableEq, Repr

/-- A node that is not written. -/
def Node.empty : Node where
  tag := Tag.ofPlain []
  content := .scalar []

instance : Inhabited Node := ⟨Node.empty⟩

/-- All nodes of a document by their places. -/
abbrev Nodes := Array Node

/-- The most collections that may stand in each other. -/
def depthLimit : Nat := 490

/-- The tokens that are left, and what the document has declared so far. -/
structure Parsing where
  tokens : List Token
  /-- What is wrong behind the last token. -/
  fault : Option Error := none
  /-- The short forms for the start of tags. -/
  handles : List (String × String) := []
  anchors : List (String × NodeId) := []
  nodes : Nodes := #[]
  /-- The number of collections that are open. -/
  depth : Nat := 0

namespace Parsing

/-- Reads part of a document. -/
abbrev Parser := StateT Parsing (Except Error)

/-- The short forms that need no declaration. -/
def commonHandles : List (String × String) :=
  [("!", "!"), ("!!", Tag.knownStart)]

/-- The next token is left in place. -/
def peek : Parser (Option Token) := do
  let parsing ← get
  match parsing.tokens, parsing.fault with
  | [], some fault => throw fault
  | tokens, _ => return tokens.head?

/-- The next token is taken off. -/
def advance : Parser Unit := do
  modify fun parsing => { parsing with tokens := parsing.tokens.tail }

/-- The next token is one of these. -/
def startsWith (tokens : List Token) : Parser Bool := do
  return (← peek).any tokens.contains

/-- The next token is taken off if it is the given one. -/
def accept (token : Token) : Parser Bool := do
  if (← peek) = some token then
    advance
    return true
  return false

/-- The next token must be the given one. -/
def expect (token : Token) : Parser Unit := do
  if !(← accept token) then throw .unexpectedToken

def addNode (node : Node) : Parser NodeId := do
  let place := (← get).nodes.size
  modify fun parsing => { parsing with nodes := parsing.nodes.push node }
  return place

/-- Adds a node that is not written. -/
def emptyNode : Parser NodeId :=
  addNode Node.empty

/-- The full name of a tag. -/
def tagName (handle : Option String) (suffix : String) : Parser String := do
  match handle with
  | none => return suffix
  | some handle =>
      match (← get).handles.lookup handle with
      | some start => return start ++ suffix
      | none => throw (.unknownHandle handle)

/-- The anchor at the present place. -/
def readAnchor : Parser (Option String) := do
  match ← peek with
  | some (.anchor name) =>
      advance
      return some name
  | _ => return none

/-- The tag at the present place, with the short form that it starts with. -/
def readTagToken : Parser (Option (Option String × String)) := do
  match ← peek with
  | some (.tag handle suffix) =>
      advance
      return some (handle, suffix)
  | _ => return none

/-- The anchor and the tag before a node, in either order. -/
def properties : Parser (Option String × Option String) := do
  let before ← readAnchor
  let tag ← readTagToken
  let anchor ← if before.isNone && tag.isSome then readAnchor else pure before
  return (anchor, ← tag.mapM fun (handle, suffix) => tagName handle suffix)

/-- The tag that leaves the choice to the form of the node. -/
def openTag : String := "!"

def collectionTag (usual : Tag) (tag : Option String) : Tag :=
  match tag with
  | none => usual
  | some name => if name = openTag then usual else Tag.ofName name

def scalarTag (tag : Option String) (plain : Bool) (text : Codes) : Tag :=
  match tag with
  | none => if plain then Tag.ofPlain text else .text
  | some name => if name = openTag then Tag.ofPlain text else Tag.ofName name

/-- Adds a node and keeps its place for the aliases of its anchor, which is given
once. -/
def register (anchor : Option String) (node : Node) : Parser NodeId := do
  if let some name := anchor then
    if ((← get).anchors.lookup name).isSome then throw (.repeatedAnchor name)
  let place ← addNode node
  if let some name := anchor then
    modify fun parsing => { parsing with anchors := (name, place) :: parsing.anchors }
  return place

/-- Adds a collection whose parts are read behind it. -/
def collection (anchor : Option String) (node : Node) (read : Parser Content) :
    Parser NodeId := do
  let place ← register anchor node
  let depth := (← get).depth
  if depthLimit ≤ depth then throw (.value .depth)
  modify fun parsing => { parsing with depth := depth + 1 }
  let content ← read
  modify fun parsing =>
    { parsing with depth, nodes := parsing.nodes.set! place { node with content } }
  return place

/-- Adds a sequence. -/
def sequence (anchor tag : Option String) (items : Parser (List NodeId)) : Parser NodeId :=
  collection anchor ⟨collectionTag .sequence tag, .sequence []⟩ (Content.sequence <$> items)

/-- Adds a mapping. -/
def mapping (anchor tag : Option String) (entries : Parser (List (NodeId × NodeId))) :
    Parser NodeId :=
  collection anchor ⟨collectionTag .mapping tag, .mapping []⟩ (Content.mapping <$> entries)

/-- Adds a scalar. -/
def scalar (anchor tag : Option String) (plain : Bool) (text : Codes) : Parser NodeId :=
  register anchor ⟨scalarTag tag plain text, .scalar text⟩

/-- Where a node stands, which says how it may be written. -/
inductive Place
  /-- Between brackets. -/
  | flow
  /-- On lines of its own. -/
  | block
  /-- In a block mapping, where the entries of a sequence need no indent. -/
  | blockMapping
  deriving DecidableEq, Repr

mutual

/-- Reads a node. -/
def node (place : Place) : Nat → Parser NodeId
  | 0 => throw .unexpectedToken
  | fuel + 1 => do
      if let some (.alias name) ← peek then
        advance
        match (← get).anchors.lookup name with
        | some node => return node
        | none => throw (.unknownAlias name)
      let (anchor, tag) ← properties
      match ← peek with
      | some (.scalar text plain) =>
          advance
          scalar anchor tag plain text
      | some .openBracket =>
          advance
          sequence anchor tag (flowItems true fuel)
      | some .openBrace =>
          advance
          mapping anchor tag (flowEntries true fuel)
      | next =>
          if place = .blockMapping ∧ next = some .entry then
            sequence anchor tag (looseItems fuel)
          else if place ≠ .flow ∧ next = some .blockSequence then
            advance
            sequence anchor tag (blockItems fuel)
          else if place ≠ .flow ∧ next = some .blockMapping then
            advance
            mapping anchor tag (blockEntries fuel)
          else if anchor.isSome ∨ tag.isSome then scalar anchor tag true []
          else throw .unexpectedToken

/-- Reads a node, or none if one of the tokens follows that cannot start it. -/
def nodeUnless (place : Place) (tokens : List Token) : Nat → Parser NodeId
  | 0 => throw .unexpectedToken
  | fuel + 1 => do
      if ← startsWith tokens then emptyNode else node place fuel

/-- The items of a sequence up to its end. -/
def blockItems : Nat → Parser (List NodeId)
  | 0 => throw .unexpectedToken
  | fuel + 1 => do
      if ← accept .entry then
        let item ← nodeUnless .block [.entry, .blockEnd] fuel
        return item :: (← blockItems fuel)
      expect .blockEnd
      return []

/-- The items of a sequence that is not indented. -/
def looseItems : Nat → Parser (List NodeId)
  | 0 => throw .unexpectedToken
  | fuel + 1 => do
      if ← accept .entry then
        let item ← nodeUnless .block [.entry, .key, .value, .blockEnd] fuel
        return item :: (← looseItems fuel)
      return []

/-- The entries of a mapping up to its end. -/
def blockEntries : Nat → Parser (List (NodeId × NodeId))
  | 0 => throw .unexpectedToken
  | fuel + 1 => do
      if ← accept .key then
        let key ← nodeUnless .blockMapping [.key, .value, .blockEnd] fuel
        let value ←
          if ← accept .value then nodeUnless .blockMapping [.key, .value, .blockEnd] fuel
          else emptyNode
        return (key, value) :: (← blockEntries fuel)
      expect .blockEnd
      return []

/-- The value of an entry between brackets, if there is one. -/
def flowValue (close : Token) : Nat → Parser NodeId
  | 0 => throw .unexpectedToken
  | fuel + 1 => do
      if ← accept .value then nodeUnless .flow [.comma, close] fuel else emptyNode

/-- The items between brackets.  A comma is before every item but the first. -/
def flowItems (first : Bool) : Nat → Parser (List NodeId)
  | 0 => throw .unexpectedToken
  | fuel + 1 => do
      if ← accept .closeBracket then return []
      if !first then expect .comma
      if ← accept .key then
        let single ← mapping none none do
          let key ← nodeUnless .flow [.value, .comma, .closeBracket] fuel
          return [(key, ← flowValue .closeBracket fuel)]
        return single :: (← flowItems false fuel)
      if ← accept .closeBracket then return []
      let item ← node .flow fuel
      return item :: (← flowItems false fuel)

/-- The entries between braces.  A comma is before every entry but the first. -/
def flowEntries (first : Bool) : Nat → Parser (List (NodeId × NodeId))
  | 0 => throw .unexpectedToken
  | fuel + 1 => do
      if ← accept .closeBrace then return []
      if !first then expect .comma
      if ← accept .key then
        let key ← nodeUnless .flow [.value, .comma, .closeBrace] fuel
        let value ← flowValue .closeBrace fuel
        return (key, value) :: (← flowEntries false fuel)
      if ← accept .closeBrace then return []
      let key ← node .flow fuel
      return (key, ← emptyNode) :: (← flowEntries false fuel)

end

/-- Takes directives off: the version must be known and given once, and so must
be each short form. -/
def directives (version : Bool) (handles : List (String × String)) :
    Nat → Parser (List (String × String))
  | 0 => return handles ++ commonHandles
  | fuel + 1 => do
      match ← peek with
      | some (.directive (.version major)) =>
          if version || major ≠ 1 then throw .directive
          advance
          directives true handles fuel
      | some (.directive (.handle name start)) =>
          if (handles.lookup name).isSome then throw .directive
          advance
          directives version (handles ++ [(name, start)]) fuel
      | some (.directive .other) =>
          advance
          directives version handles fuel
      | _ => return handles ++ commonHandles

/-- The calls that a number of tokens can nest. -/
def fuelFor (tokens : List Token) : Nat :=
  4 * (tokens.length + 1)

/-- Takes marks of the end of a document off. -/
def skipEnds : Nat → Parser Unit
  | 0 => return
  | fuel + 1 => do
      if ← accept .documentEnd then skipEnds fuel

/-- The root of a document whose start is marked. -/
def markedDocument (fuel : Nat) : Parser NodeId := do
  let handles ← directives false [] fuel
  modify fun parsing => { parsing with handles }
  expect .documentStart
  match ← peek with
  | none | some (.directive _) | some .documentStart | some .documentEnd => emptyNode
  | some _ => node .block fuel

/-- Nothing may follow the only document. -/
def endDocument (fuel : Nat) : Parser Unit := do
  skipEnds fuel
  if (← peek).isSome then
    let _ ← directives false [] fuel
    let _ ← peek
    throw .manyDocuments

/-- Reads the only document, if there is one.  Without the mark of its start a
document has a node. -/
def document (fuel : Nat) : Parser (Option NodeId) := do
  match ← peek with
  | none => return none
  | some (.directive _) | some .documentStart =>
      let root ← markedDocument fuel
      endDocument fuel
      return some root
  | some _ =>
      modify fun parsing => { parsing with handles := commonHandles }
      let root ← node .block fuel
      endDocument fuel
      return some root

end Parsing

/-- A document: its nodes and the place of its root. -/
structure Document where
  nodes : Nodes := #[]
  root : Option NodeId := none
  deriving DecidableEq, Repr

/-- The only document of a text; an empty text holds none. -/
def Document.ofString (text : String) : Except Error Document := do
  let tokens := tokensOf text
  let start : Parsing := { tokens := tokens.known, fault := tokens.fault }
  let (root, final) ← (Parsing.document (Parsing.fuelFor tokens.known)).run start
  return { nodes := final.nodes, root }

end CodeGraph.Yaml
