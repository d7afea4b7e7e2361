import CodeGraph.Configuration.Coercion
import CodeGraph.Configuration.Environment
import CodeGraph.Files.Tree

/-!
# Finding and loading a configuration

A configuration file that is named explicitly or by the environment is the only
one that is looked at.  Without one the current directory comes first, then two
places in the home directory.
-/

namespace CodeGraph.Configuration

open Files (FileError Path Tree)

/-- What a program sees around it. -/
structure Surroundings where
  /-- Files as seen from the current directory. -/
  files : Tree := {}
  /-- Files as seen from the home directory. -/
  home : Tree := {}
  environment : Environment := {}
  deriving Repr, Inhabited

/-- The variable that names a configuration file. -/
def fileVariable : String := "BINEXPORT_CONFIG"

/-- The names that a configuration file can have, the first one preferred. -/
def fileNames : List String :=
  ["binexport.yaml", "binexport.yml", ".binexport.yaml", ".binexport.yml"]

/-- Where a configuration file is. -/
inductive Origin
  /-- At a path that was given. -/
  | given (path : Path)
  /-- In the current directory. -/
  | current (path : Path)
  /-- Below the home directory. -/
  | home (path : Path)
  deriving DecidableEq, Repr

/-- The places that are searched, in order. -/
def searchOrder : List Origin :=
  let named (directory : List String) : List Path :=
    fileNames.map fun name => { names := directory ++ [name] }
  (named []).map .current ++ (named [".config", "binexport"]).map .home ++ (named []).map .home

namespace Surroundings

/-- Whether there is a file at the place. -/
def hasFile (surroundings : Surroundings) : Origin → Except FileError Bool
  | .given path | .current path => surroundings.files.isFile path
  | .home path => surroundings.home.isFile path

/-- The path that is asked for, by name or by the environment. -/
def askedPath (surroundings : Surroundings) (explicit : Option String) : Option String :=
  explicit <|> (surroundings.environment.bindings.lookup fileVariable).filter (· != "")

/-- The configuration file to use. -/
def findFile (surroundings : Surroundings) (explicit : Option String) :
    Except FileError (Option Origin) :=
  match surroundings.askedPath explicit with
  | some path => [Origin.given (Path.ofString path)].findM? surroundings.hasFile
  | none => searchOrder.findM? surroundings.hasFile

/-- The content of the file at a place. -/
def contentOf (surroundings : Surroundings) (origin : Origin) : Bytes :=
  let content := match origin with
    | .given path | .current path => surroundings.files.read path
    | .home path => surroundings.home.read path
  content.toOption.getD []

end Surroundings

/-- Why a configuration file cannot be used. -/
inductive LoadError
  /-- It is not encoded in UTF-8. -/
  | encoding
  | document (error : Yaml.Error)
  /-- It holds a scalar that has no value. -/
  | value (fault : Yaml.ValueFault)
  | settings (findings : List Finding)
  /-- No file can have the path that is asked for. -/
  | path (error : FileError)
  deriving DecidableEq, Repr

/-- Tells a scalar that has no value from a document that cannot be read. -/
def LoadError.ofDocument : Yaml.Error → LoadError
  | .value fault => .value fault
  | error => .document error

/-- Reads settings from the content of a file.  An empty document sets nothing. -/
def readSettings (environment : Environment) (content : Bytes) : Except LoadError Settings := do
  let text ← (Utf8.decode content).mapError fun _ => LoadError.encoding
  let value ← (Yaml.read text).mapError LoadError.ofDocument
  let value := if value.isEmpty then .mapping [] else value
  (Settings.read (environment.expand value)).mapError .settings

/-- Loads the configuration. -/
def load (surroundings : Surroundings) (explicit : Option String) : Except LoadError Settings :=
  match surroundings.findFile explicit with
  | .error error => .error (.path error)
  | .ok none => .ok {}
  | .ok (some origin) => readSettings surroundings.environment (surroundings.contentOf origin)

end CodeGraph.Configuration
