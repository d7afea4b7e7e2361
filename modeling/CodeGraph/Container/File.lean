import CodeGraph.Container.Reader
import CodeGraph.Container.Writer
import CodeGraph.Files.Tree

/-!
# Containers in files

A container file is written as a whole or not at all: what was written before a
failure is removed again.
-/

namespace CodeGraph.Container

open Files (Path Tree FileError)

/-- Why a container file cannot be written. -/
inductive FileWriteError
  | write (error : WriteError)
  /-- The file cannot be opened for writing. -/
  | openFile (path : String) (error : FileError)
  /-- What stands in the way of the file cannot be removed. -/
  | discard (error : FileError)
  deriving DecidableEq, Repr

def FileWriteError.message (path : String) : FileWriteError → String
  | .write error => error.message
  | .openFile path error => s!"cannot write {path}: {error.message path}"
  | .discard .nullCharacter => "remove: embedded null character in path"
  | .discard error => error.message path

/-- Removes what was written of a file; a file that is not there is no failure. -/
def discard (tree : Tree) (path : Path) : Except FileError Tree :=
  match tree.remove path with
  | .error .notFound => .ok tree
  | other => other

/-- The outcome of writing a file: an index or a failure, the tree, and the calls
of the listener. -/
structure FileOutcome where
  result : Except FileWriteError Index
  tree : Tree
  calls : List Call := []

def FileOutcome.told (outcome : FileOutcome) : List Int :=
  heard outcome.calls

/-- The outcome of a failure: the file is removed again. -/
def FileOutcome.failed (tree : Tree) (path : Path) (error : FileWriteError)
    (calls : List Call) : FileOutcome :=
  match discard tree path with
  | .ok tree => { result := .error error, tree, calls }
  | .error failure => { result := .error (.discard failure), tree, calls }

/-- Writes a container file. -/
def writeFile (listener : Listener) (metadata : Meta) (callGraph : CallGraph) (source : Source)
    (path : Path) (tree : Tree) : FileOutcome :=
  match tree.write path [] with
  | .error error => .failed tree path (.openFile path.toString error) []
  | .ok opened =>
      match write listener metadata callGraph source { bytes := [] } with
      | (.error error, progress) => .failed opened path (.write error) progress.calls
      | (.ok index, progress) =>
          match opened.write path progress.store.bytes with
          | .error error => .failed opened path (.openFile path.toString error) progress.calls
          | .ok tree => { result := .ok index, tree, calls := progress.calls }

/-- The content of the file that a text names.  No file has an empty name. -/
def contentOf (tree : Tree) (path : String) : Except FileError Bytes :=
  if path.isEmpty then .error .notFound else tree.read (Path.literal path)

/-- Opens a container file.  The path is named in failures as it was given. -/
def openFile (tree : Tree) (path : String) (strict : Bool) : Except ReadError Reader :=
  match contentOf tree path with
  | .error .nullCharacter => .error (.access (.noPath (FileError.nullCharacter.message path)))
  | .error error => .error (.access (.openFile path (error.message path)))
  | .ok content => Reader.ofStore { bytes := content } strict

end CodeGraph.Container
