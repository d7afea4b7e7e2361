import CodeGraph.Bytes
import CodeGraph.Files.Path
import CodeGraph.Text.Quoted

/-!
# File trees

A tree of directories and files, looked at from a current directory.  Names are
followed one after the other, and every name but the last must be of a
directory.  Names and paths have a greatest length.
-/

namespace CodeGraph.Files

/-- What a name stands for. -/
inductive Node
  | file (content : Bytes)
  | directory
  deriving DecidableEq, Repr

/-- Why a file cannot be used. -/
inductive FileError
  | notFound
  | notDirectory
  | isDirectory
  | alreadyExists
  | nameTooLong
  /-- A path cannot hold the character that ends it. -/
  | nullCharacter
  deriving DecidableEq, Repr

/-- The wording of each refusal, with the number that the system gives it where the
system is asked. -/
def FileError.message (path : String) (error : FileError) : String :=
  let refusal (reason : String) : String := s!"{reason}: {Quoted.quote path}"
  match error with
  | .notFound => refusal "[Errno 2] No such file or directory"
  | .alreadyExists => refusal "[Errno 17] File exists"
  | .notDirectory => refusal "[Errno 20] Not a directory"
  | .isDirectory => refusal "[Errno 21] Is a directory"
  | .nameTooLong => refusal "[Errno 36] File name too long"
  | .nullCharacter => "embedded null byte"

/-- The nodes of a tree, each with the names that lead to it from the root.  The
root itself is a directory and not listed. -/
structure Tree where
  nodes : List (List String × Node) := []
  /-- The names that lead to the current directory. -/
  current : List String := []
  deriving DecidableEq, Repr, Inhabited

namespace Tree

/-- The node that the names lead to, without going back up. -/
def node? (tree : Tree) (names : List String) : Option Node :=
  if names.isEmpty then some .directory
  else (tree.nodes.find? (·.1 == names)).map (·.2)

/-- Where the names of a path are followed from. -/
def startOf (tree : Tree) (path : Path) : List String :=
  if path.absolute then [] else tree.current

/-- The most bytes of a name. -/
def nameLimit : Nat := 255

/-- The most bytes of a path. -/
def pathLimit : Nat := 4095

/-- Follows names from a place.  Going up from the root stays there.  The last
name may be new. -/
def resolveFrom (tree : Tree) (place : List String) : List String → Except FileError (List String)
  | [] => .ok place
  | name :: rest =>
      match tree.node? place with
      | none => .error .notFound
      | some (.file _) => .error .notDirectory
      | some .directory =>
          if name = "." then tree.resolveFrom place rest
          else if name = ".." then tree.resolveFrom place.dropLast rest
          else if nameLimit < name.utf8ByteSize then .error .nameTooLong
          else tree.resolveFrom (place ++ [name]) rest

/-- The place that a path leads to. -/
def resolve (tree : Tree) (path : Path) : Except FileError (List String) :=
  if path.names.any (·.toList.contains '\x00') then .error .nullCharacter
  else if pathLimit < path.toString.utf8ByteSize then .error .nameTooLong
  else tree.resolveFrom (tree.startOf path) path.names

/-- The node that a path leads to. -/
def find (tree : Tree) (path : Path) : Except FileError Node := do
  let place ← tree.resolve path
  match tree.node? place with
  | some node => return node
  | none => throw .notFound

/-- What a path leads to, if anything.  Only a path that no file can have is an
error. -/
def probe (tree : Tree) (path : Path) : Except FileError (Option Node) :=
  match tree.find path with
  | .ok node => .ok (some node)
  | .error .nameTooLong => .error .nameTooLong
  | .error _ => .ok none

/-- The path leads to something. -/
def contains (tree : Tree) (path : Path) : Bool :=
  (tree.find path).toOption.isSome

/-- Whether the path leads to a file. -/
def isFile (tree : Tree) (path : Path) : Except FileError Bool :=
  (tree.probe path).map fun node =>
    match node with
    | some (.file _) => true
    | _ => false

/-- The content of a file. -/
def read (tree : Tree) (path : Path) : Except FileError Bytes := do
  match ← tree.find path with
  | .file content => return content
  | .directory => throw .isDirectory

/-- The tree with a node at a place. -/
def setNode (tree : Tree) (place : List String) (node : Node) : Tree :=
  if tree.nodes.any (·.1 == place) then
    { tree with
      nodes := tree.nodes.map fun entry => if entry.1 == place then (place, node) else entry }
  else { tree with nodes := tree.nodes ++ [(place, node)] }

/-- The tree with a file's content set.  The directory of the file must exist. -/
def write (tree : Tree) (path : Path) (content : Bytes) : Except FileError Tree := do
  let place ← tree.resolve path
  match tree.node? place with
  | some .directory => throw .isDirectory
  | _ => return tree.setNode place (.file content)

/-- The tree without a file. -/
def remove (tree : Tree) (path : Path) : Except FileError Tree := do
  let place ← tree.resolve path
  match tree.node? place with
  | none => throw .notFound
  | some .directory => throw .isDirectory
  | some (.file _) => return { tree with nodes := tree.nodes.filter (·.1 != place) }

/-- The tree with all the named directories, one inside of the other. -/
def makeDirectories (tree : Tree) (names : List String) : Tree :=
  (List.range names.length).foldl
    (fun tree depth =>
      let place := names.take (depth + 1)
      if (tree.node? place).isSome then tree else tree.setNode place .directory)
    tree

/-- The tree with a file, made together with the directories that it needs. -/
def place (tree : Tree) (path : Path) (content : Bytes) : Tree :=
  let names := tree.startOf path ++ path.names
  (tree.makeDirectories names.dropLast).setNode names (.file content)

/-- All files with the text of their paths. -/
def files (tree : Tree) : List (String × Bytes) :=
  tree.nodes.filterMap fun (names, node) =>
    match node with
    | .file content => some ("/".intercalate names, content)
    | .directory => none

end Tree

end CodeGraph.Files
