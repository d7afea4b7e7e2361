import CodeGraph.CommandLine.Request
import CodeGraph.Configuration.Load
import CodeGraph.Console.Table
import CodeGraph.Container.File
import CodeGraph.Container.Validation
import CodeGraph.Disassembly.Records
import CodeGraph.Logging.Warning

/-!
# Running commands

A run takes the arguments of the program and what it sees around it.  It ends in
some way, and leaves texts for the console, files and events.
-/

namespace CodeGraph.CommandLine

open CodeGraph.Configuration (Settings LoggingSettings Surroundings)
open Container (Reader ReadError FileWriteError)
open Files (Path Tree)

/-- The version of the program. -/
def versionText : String := "0.1.0"

/-- What makes a run break off. -/
inductive Fault
  /-- A configuration file is not encoded in UTF-8. -/
  | encoding
  /-- A configuration file holds a scalar that has no value. -/
  | value (fault : Yaml.ValueFault)
  /-- The tags of a message do not match. -/
  | tags (error : Console.TagError)
  /-- No file can have a path, or what stands in its way cannot be removed. -/
  | file (error : Files.FileError)
  deriving DecidableEq, Repr

/-- How a run ends. -/
inductive Ending
  | success
  /-- What was asked for could not be done. -/
  | failure
  /-- The arguments or the configuration cannot be used. -/
  | misuse
  | broken (fault : Fault)
  deriving DecidableEq, Repr

/-- The code that tells the caller how a run ended. -/
def Ending.code : Ending → Nat
  | .success => 0
  | .failure | .broken _ => 1
  | .misuse => 2

/-- What a run leaves. -/
structure Traces where
  /-- The text on standard output. -/
  output : String := ""
  /-- The text on standard error. -/
  errors : String := ""
  files : Tree := {}
  /-- How events are to be reported, once that is known. -/
  logging : Option LoggingSettings := none
  events : List Logging.Event := []
  deriving Repr, Inhabited

/-- A run that may end early, and leaves its traces in either case. -/
abbrev Run := ExceptT Ending (StateM Traces)

namespace Run

/-- Writes text on standard output. -/
def write (text : String) : Run Unit :=
  modify fun traces => { traces with output := traces.output ++ text }

/-- Writes text on standard error. -/
def writeError (text : String) : Run Unit :=
  modify fun traces => { traces with errors := traces.errors ++ text }

def report (events : List Logging.Event) : Run Unit :=
  modify fun traces => { traces with events := traces.events ++ events }

/-- Text whose tags were applied. -/
def rendered (text : Except Console.TagError String) : Run String :=
  match text with
  | .ok text => pure text
  | .error error => throw (.broken (.tags error))

/-- Tells that something was done. -/
def tellSuccess (message : String) : Run Unit := do
  write (← rendered (Console.printed s!"[bold green]{message}[/bold green]"))

/-- Tells of something that looks wrong. -/
def tellWarning (message : String) : Run Unit := do
  writeError (← rendered (Console.printed s!"[bold yellow]Warning:[/bold yellow] {message}"))

/-- Tells of something that is wrong. -/
def tellError (message : String) : Run Unit := do
  writeError (← rendered (Console.printed s!"[bold red]Error:[/bold red] {message}"))

/-- Tells of an error and ends the run. -/
def fail (message : String) : Run α := do
  tellError message
  throw .failure

/-- The path must lead to a file. -/
def requireFile (path : Path) : Run Unit := do
  match (← get).files.isFile path with
  | .ok true => return
  | .ok false => fail s!"Path not found: {path.toString}"
  | .error error => throw (.broken (.file error))

/-- What was read of a container; an error ends the run. -/
def orFail (result : Except ReadError α) : Run α :=
  match result with
  | .ok value => pure value
  | .error error => fail error.message

def openContainer (settings : Settings) (path : Path) : Run Reader := do
  orFail (Container.openFile (← get).files path.toString settings.reader.strictMarkup)

end Run

open Run

/-- What the name of a binary is extended by to name its container. -/
def containerSuffix : String := ".BinExport"

/-- Where the container of a binary goes if nothing else is asked for. -/
def containerPath (binary : Path) : Path :=
  binary.withName (binary.name ++ containerSuffix)

/-- A number that is shown; nothing for one that is absent. -/
def shownCount (count : Option Int) : String :=
  (count.map toString).getD ""

/-- Writes the container of a binary. -/
def create (decoders : Elf.Decoders) (settings : Settings) (binary : Path)
    (output : Option Path) : Run Unit := do
  requireFile binary
  let loaded := Elf.loadFile decoders settings.writer.libraryPrefixes (← get).files binary
  report (Elf.loadEvents binary loaded)
  let .ok { program, .. } := loaded | fail s!"Could not disassemble {binary.toString}"
  let target := output.getD (containerPath binary)
  let metadata := program.metadata settings.writer.addressSpace
  let graphs := program.flowGraphs
  let outcome := Container.writeFile (fun _ => none) metadata program.callGraph
    { items := graphs.map .record, declared := some graphs.length, sized := false } target
    (← get).files
  modify fun traces => { traces with files := outcome.tree }
  match outcome.result with
  | .error (.discard error) => throw (.broken (.file error))
  | .error error => fail (error.message target.toString)
  | .ok index =>
      report
        [{ level := .info, name := "container_written"
           fields :=
            [("path", .text target.toString), ("flow_graphs", .integer index.entries.length)] }]
      tellSuccess s!"Wrote {target.toString}"
      let functions := shownCount metadata.numFunctions
      let blocks := shownCount metadata.numBasicBlocks
      let instructions := shownCount metadata.numInstructions
      let edges := shownCount metadata.numEdges
      write s!"  {functions} functions, {blocks} basic blocks, {instructions} instructions, {edges} edges\n"

/-- A text in ASCII; any other byte is shown by its digits. -/
def asciiText (bytes : Bytes) : String :=
  String.ofList (bytes.flatMap fun byte =>
    if byte < 0x80 then [Char.ofNat byte.toNat] else Codec.escapeByte byte)

/-- What the header of a container says. -/
def headerFields (index : Container.Index) : List (String × JsonValue) :=
  [("meta_offset", .integer index.metaOffset),
    ("call_graph_offset", .integer index.callGraphOffset),
    ("num_flow_graphs", .integer index.entries.length)]

/-- What the metadata of a container says. -/
def metadataFields (metadata : Meta) : List (String × JsonValue) :=
  [("input_binary", .ofText? metadata.inputBinary),
    ("input_hash", .ofText? (metadata.inputHash.map asciiText)),
    ("input_address_space", .ofInteger? metadata.addressSpace),
    ("architecture_name", .ofText? metadata.architecture),
    ("max_mnemonic_len", .ofInteger? metadata.maxMnemonicLength),
    ("num_instructions", .ofInteger? metadata.numInstructions),
    ("num_functions", .ofInteger? metadata.numFunctions),
    ("num_basicblocks", .ofInteger? metadata.numBasicBlocks),
    ("num_edges", .ofInteger? metadata.numEdges)]

/-- Shows fields as a table. -/
def tellFields (title : String) (fields : List (String × JsonValue)) : Run Unit := do
  let shown (value : JsonValue) : Option String := match value with
    | .text value => some value
    | .integer value => some (toString value)
    | _ => none
  write (← rendered (Console.table title (fields.map fun (name, value) => (name, shown value))))

/-- Shows what a container says about itself. -/
def describe (settings : Settings) (container : Path) (json : Bool) : Run Unit := do
  requireFile container
  let reader ← openContainer settings container
  let metadata := metadataFields (← orFail reader.metadata)
  let header := headerFields reader.index
  if json then
    write (JsonValue.object [("header", .object header), ("meta", .object metadata)]).render
    write "\n"
  else
    tellFields s!"{container.name}: header" header
    tellFields "meta" metadata

/-- Checks that the records of a container agree. -/
def check (settings : Settings) (container : Path) : Run Unit := do
  requireFile container
  let reader ← openContainer settings container
  let (result, warnings) := Container.validate reader
  report (warnings.map (·.event))
  let found ← orFail result
  report
    [{ level := .info, name := "container_validated"
       fields :=
        [("errors", .integer found.faults.length), ("warnings", .integer found.concerns.length),
          ("flow_graphs", .integer found.checked)] }]
  found.concerns.forM fun concern => tellWarning concern.message
  found.faults.forM fun fault => tellError fault.message
  if !found.ok then throw .failure
  tellSuccess s!"OK: {found.checked} flow graphs checked"

/-- Does what a command says. -/
def obey (decoders : Elf.Decoders) (settings : Settings) : Command → Run Unit
  | .create binary output => create decoders settings binary output
  | .describe container json => describe settings container json
  | .check container => check settings container

/-- A short account of the commands. -/
def helpText : String :=
  "Usage: binexport [--config PATH] [--verbose] COMMAND\n\n" ++
    "  export BINARY [--output PATH]  Write the container of a binary\n" ++
    "  info CONTAINER [--json]        Show what a container says about itself\n" ++
    "  validate CONTAINER             Check that the records of a container agree\n"

/-- Ends a run that has nothing left to do. -/
def stop : Stop → Run α
  | .version => do
      write s!"binexport {versionText}\n"
      throw .success
  | .help => do
      write helpText
      throw .success
  | .usage error => do
      writeError s!"Error: {error.message}\n"
      throw .misuse

/-- Goes on with what was read of the arguments. -/
def orStop (result : Except Stop α) : Run α :=
  match result with
  | .ok value => pure value
  | .error reason => stop reason

/-- The settings to use; a configuration that cannot be used ends the run. -/
def loadSettings (surroundings : Surroundings) (path : Option String) : Run Settings :=
  match Configuration.load surroundings path with
  | .ok settings => pure settings
  | .error .encoding => throw (.broken .encoding)
  | .error (.value fault) => throw (.broken (.value fault))
  | .error (.path error) => throw (.broken (.file error))
  | .error _ => do
      writeError "Error: invalid configuration\n"
      throw .misuse

/-- Does what the arguments ask for.  The configuration is loaded as soon as a
command is named, and before the arguments of the command are read. -/
def perform (decoders : Elf.Decoders) (surroundings : Surroundings) (arguments : List String) :
    Run Unit := do
  let request ← orStop (Request.read arguments)
  let settings ← loadSettings surroundings request.configuration
  let level := if request.verbose then "DEBUG" else settings.logging.level
  modify fun traces => { traces with logging := some { settings.logging with level } }
  let command ← orStop (Command.read request.name request.arguments)
  obey decoders settings command

/-- Runs the program: how it ends, and what it leaves. -/
def run (decoders : Elf.Decoders) (surroundings : Surroundings) (arguments : List String) :
    Ending × Traces :=
  match (perform decoders surroundings arguments).run.run { files := surroundings.files } with
  | (.ok (), traces) => (.success, traces)
  | (.error ending, traces) => (ending, traces)

end CodeGraph.CommandLine
