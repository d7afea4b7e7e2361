import CodeGraph.CommandLine.Run
import CodeGraph.Logging.Report
import CodeGraph.Logging.Threshold

/-!
# The program

Reads the files that a run can need, runs, and writes what the run leaves.  There
is no decoder for machine code, so programs are found without instructions.
-/

namespace CodeGraph

open CommandLine (Request Command)
open Files (Path Tree)

/-- The paths that the arguments name, and those of containers to be made. -/
def namedPaths (arguments : List String) : List Path :=
  match Request.read arguments with
  | .error _ => []
  | .ok request =>
      let configuration := request.configuration.toList.map Path.ofString
      let operands := match Command.read request.name request.arguments with
        | .ok (.create binary output) =>
            binary :: CommandLine.containerPath binary :: output.toList
        | .ok (.describe container _) | .ok (.check container) => [container]
        | .error _ => []
      configuration ++ operands

/-- The paths in the current and in the home directory where a configuration is
searched. -/
def searchedPaths : List Path × List Path :=
  Configuration.searchOrder.foldr
    (fun origin (current, home) =>
      match origin with
      | .given path | .current path => (path :: current, home)
      | .home path => (current, path :: home))
    ([], [])

/-- The variables in the text of an environment, each behind a zero. -/
def readVariables (content : Bytes) : List (String × String) :=
  let entries := content.splitOn 0
  entries.filterMap fun entry =>
    match (Utf8.decodeReplacing entry).span (· != '=') with
    | (name, _ :: value) => some (String.ofList name, String.ofList value)
    | _ => none

/-- What a path leads to. -/
def nodeAt? (path : Path) : IO (Option Files.Node) := do
  try
    let place ← IO.FS.realPath path.toString
    if ← place.isDir then return some .directory
    let content ← IO.FS.readBinFile place
    return some (.file content.toList)
  catch _ => return none

/-- The tree with what stands on the way of a path. -/
def lookAt (tree : Tree) (path : Path) : IO Tree :=
  (List.range path.names.length).foldlM
    (fun tree depth => do
      let part := { path with names := path.names.take (depth + 1) }
      match ← nodeAt? part, tree.resolve part with
      | some node, .ok place => return tree.setNode place node
      | _, _ => return tree)
    tree

/-- What the run sees. -/
def surroundings (arguments : List String) : IO Configuration.Surroundings := do
  let directory := Path.ofString (← IO.FS.realPath ".").toString
  let environment ← IO.FS.readBinFile "/proc/self/environ"
  let bindings := readVariables environment.toList
  let asked := (bindings.lookup Configuration.fileVariable).toList.map Path.ofString
  let (current, home) := searchedPaths
  let start : Tree := ({ current := directory.names } : Tree).makeDirectories directory.names
  let files ← (namedPaths arguments ++ asked ++ current).foldlM lookAt start
  let homeDirectory := Path.ofString ((bindings.lookup "HOME").getD ".")
  let homeFiles ← home.foldlM
    (fun (tree : Tree) path => do
      match ← nodeAt? (homeDirectory.append path) with
      | some (.file content) => return tree.place path content
      | _ => return tree)
    {}
  return { files, home := homeFiles, environment := { bindings } }

/-- Writes the files that changed and removes those that are gone. -/
def store (before after : Tree) : IO Unit := do
  for (name, content) in after.files do
    unless before.files.contains (name, content) do
      IO.FS.writeBinFile s!"/{name}" ⟨content.toArray⟩
  for (name, _) in before.files do
    if (after.files.lookup name).isNone then IO.FS.removeFile s!"/{name}"

/-- The lines that report events. -/
def eventLines (traces : CommandLine.Traces) : List String :=
  match traces.logging with
  | none => []
  | some logging =>
      match Logging.threshold logging.level with
      | .error fault => [fault.message]
      | .ok threshold =>
          let report : Logging.Report := { threshold, reporter := "binexport" }
          let events := traces.events.filter report.includes
          if logging.json then events.map fun event => (report.object event).line
          else report.plainLines events

end CodeGraph

open CodeGraph in
/-- Runs the program with its arguments. -/
def main (arguments : List String) : IO UInt32 := do
  let surroundings ← surroundings arguments
  let (ending, traces) := CommandLine.run (fun _ _ _ => []) surroundings arguments
  store surroundings.files traces.files
  for line in eventLines traces do IO.eprintln line
  IO.eprint traces.errors
  IO.print traces.output
  return UInt32.ofNat ending.code
