import CodeGraph.Digest.Sha256
import CodeGraph.Disassembly.Blocks
import CodeGraph.Elf.Symbol
import CodeGraph.Files.Tree
import CodeGraph.Logging.Event
import CodeGraph.Text.Hex

/-!
# The program in an ELF image

Functions whose code lies in the text section are disassembled, and calls are
kept that lead to them or to imports.  Imports without code of their own follow
behind the functions.
-/

namespace CodeGraph.Elf

open Disassembly (Decoder Function Program)

/-- The machines whose code is understood. -/
inductive Machine
  | x86
  | x86Wide
  deriving DecidableEq, Repr

namespace Machine

/-- The machine that a number stands for. -/
def ofCode? : Nat → Option Machine
  | 3 => some x86
  | 62 => some x86Wide
  | _ => none

def name : Machine → String
  | x86 => "x86-32"
  | x86Wide => "x86-64"

end Machine

/-- The machine that a binary is made for. -/
def Binary.machine? (binary : Binary) : Option Machine :=
  Machine.ofCode? binary.header.machine

/-- The longest string that is looked for. -/
def stringLimit : Nat := 256

/-- A string can lie at the address. -/
def Section.covers (table : Section) (address : Int) : Bool :=
  table.address ≤ address && address < (table.address + table.size : Nat)

/-- The string at an address of a section: at least two bytes up to a zero. -/
def stringAt (table : Section) (content : Content) (address : Int) : Option Bytes :=
  let place := (address - table.address).toNat
  let data := (content.slice place stringLimit).takeWhile (· != 0)
  if table.covers address && 2 ≤ data.length then some data else none

/-- The symbols without those whose address an earlier one has. -/
def distinctSymbols : List Symbol → List Symbol
  | [] => []
  | first :: rest => first :: (distinctSymbols rest).filter (·.value != first.value)

/-- A function with its machine code. -/
structure Code where
  symbol : Symbol
  bytes : Bytes
  deriving DecidableEq, Repr

/-- The functions that start in a section, by address, with the part of its
content that each covers. -/
def codeIn (table : Section) (content : Content) (symbols : List Symbol) : List Code :=
  let inside := (distinctSymbols symbols).filter fun symbol =>
    table.address ≤ symbol.value && symbol.value < table.address + content.size
  (inside.mergeSort fun left right => left.value ≤ right.value).map fun symbol =>
    { symbol, bytes := content.slice (symbol.value - table.address) symbol.size }

/-- Functions whose names start so belong to the runtime of the compiler. -/
def defaultLibraryPrefixes : List String := ["_", "deregister_", "register_", "frame_"]

/-- The kind of a function, told from its name. -/
def kindOfName (libraryPrefixes : List String) (name : String) : FunctionKind :=
  if libraryPrefixes.any fun start => start.toList.isPrefixOf name.toList then .library else .normal

/-- The addresses that a call can be known to lead to: functions with code, and
stubs of imports. -/
def knownAddresses (codes : List Code) (imports : List Import) : List Int :=
  codes.map (fun code => (code.symbol.value : Int)) ++
    imports.map fun stub => (stub.address : Int)

/-- A function with its disassembled code. -/
def disassembledFunction (libraryPrefixes : List String) (symbol : Symbol)
    (body : Disassembly.Body) : Function where
  address := symbol.value
  name := some symbol.name
  kind := (kindOfName libraryPrefixes symbol.name).code
  hasRealName := true
  blocks := body.blocks
  branches := body.branches

/-- A function whose code is elsewhere. -/
def importedFunction (stub : Import) : Function where
  address := stub.address
  name := some stub.name
  kind := FunctionKind.imported.code
  hasRealName := true

/-- The direct calls of a function to known addresses. -/
def knownCalls (known : List Int) (symbol : Symbol) (body : Disassembly.Body) :
    List CallGraph.Edge :=
  (body.callSites.filter fun (_, target) => known.contains target).map fun (site, target) =>
    ⟨symbol.value, site, target⟩

/-- All functions with code and all imports without code of their own, and the
calls between them. -/
def assemble (decode : Decoder) (strings : Int → Option Bytes) (libraryPrefixes : List String)
    (codes : List Code) (imports : List Import) : List Function × List CallGraph.Edge :=
  let known := knownAddresses codes imports
  let bodies := codes.map fun code =>
    (code.symbol, Disassembly.functionBody decode code.bytes code.symbol.value known strings)
  let stubs := imports.filter fun stub => codes.all (·.symbol.value != stub.address)
  (bodies.map (fun (symbol, body) => disassembledFunction libraryPrefixes symbol body) ++
      stubs.map importedFunction,
    bodies.flatMap fun (symbol, body) => knownCalls known symbol body)

/-- What is made of an image: the disassembled program, and the number of its
imports. -/
structure Loaded where
  program : Program
  imports : Nat
  deriving DecidableEq, Repr

namespace Binary

/-- The strings of the section for read-only data that code refers to.  Where
the content of the section cannot be had, only a reference to it is a fault. -/
def strings (binary : Binary) (sections : List Section) (references : List Int) :
    Except Error (Int → Option Bytes) :=
  match findSection? sections ".rodata" with
  | none => .ok fun _ => none
  | some table =>
      match binary.content table with
      | .ok content => .ok (stringAt table content)
      | .error error => if references.any table.covers then .error error else .ok fun _ => none

/-- Disassembles the functions that start in the text section and adds the
imports. -/
def functions (binary : Binary) (decode : Decoder) (libraryPrefixes : List String)
    (sections : List Section) (symbols : List Symbol) (imports : List Import) :
    Except Error (List Function × List CallGraph.Edge) := do
  let some text := findSection? sections ".text" | return ([], [])
  let content ← binary.content text
  let codes := codeIn text content symbols
  let references := codes.flatMap fun code =>
    (decode code.bytes code.symbol.value).filterMap (·.relativeAddress?)
  let strings ← binary.strings sections references
  codes.forM fun code =>
    (Disassembly.checkOperands (decode code.bytes code.symbol.value)).mapError fun _ => .operand
  return assemble decode strings libraryPrefixes codes imports

/-- The program in a binary for a machine. -/
def load (binary : Binary) (machine : Machine) (decode : Decoder)
    (libraryPrefixes : List String) (name : String) : Except Error Loaded := do
  let sections ← binary.sections
  let symbols ← binary.functionSymbols sections
  let imports ← binary.imports sections
  let (functions, calls) ← binary.functions decode libraryPrefixes sections symbols imports
  let program : Program :=
    { name
      inputHash := Bytes.ofAscii (Hex.ofBytes (Sha256.digest binary.image.bytes))
      architecture := machine.name
      addressSpace := binary.image.bits
      functions
      calls }
  return { program, imports := imports.length }

end Binary

/-- Why no program is made of a file. -/
inductive LoadError
  | notFound
  | unreadable (error : Files.FileError)
  /-- The code is for another machine. -/
  | unsupported
  | malformed (error : Error)
  deriving DecidableEq, Repr

/-- A decoder for addresses of 32 or 64 bits. -/
abbrev Decoders := Nat → Decoder

/-- The width of the addresses that a file's decoder is made for, if one is. -/
def decoderBits? (bytes : Bytes) : Option Nat := do
  let binary ← (Binary.ofBytes bytes).toOption
  let _machine ← binary.machine?
  return binary.image.bits

/-- Makes a program of a file. -/
def loadFile (decoders : Decoders) (libraryPrefixes : List String) (tree : Files.Tree)
    (path : Files.Path) : Except LoadError Loaded := do
  if (← (tree.probe path).mapError LoadError.unreadable).isNone then throw .notFound
  let bytes ← (tree.read path).mapError LoadError.unreadable
  let binary ← (Binary.ofBytes bytes).mapError LoadError.malformed
  let some machine := binary.machine? | throw .unsupported
  (binary.load machine (decoders binary.image.bits) libraryPrefixes path.name).mapError .malformed

/-- What is reported of loading a file. -/
def loadEvents (path : Files.Path) (outcome : Except LoadError Loaded) : List Logging.Event :=
  let shown := ("path", JsonValue.text path.toString)
  match outcome with
  | .ok loaded =>
      [{ level := .info, name := "elf_loaded"
         fields :=
          [shown, ("functions", .integer loaded.program.functions.length),
            ("calls", .integer loaded.program.calls.length),
            ("imports", .integer loaded.imports)] }]
  | .error .notFound => [{ level := .warning, name := "elf_not_found", fields := [shown] }]
  | .error (.unreadable _) => []
  | .error .unsupported =>
      [{ level := .error, name := "unsupported_architecture", fields := [shown] }]
  | .error (.malformed _) =>
      [{ level := .error, name := "elf_load_failed", fields := [shown] }]

end CodeGraph.Elf
