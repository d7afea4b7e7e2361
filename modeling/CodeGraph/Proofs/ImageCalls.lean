import CodeGraph.Elf.Program
import CodeGraph.Proofs.BlockPartition
import CodeGraph.Proofs.ProgramRecords
import CodeGraph.Proofs.Sequencing
import Mathlib

/-!
# The calls of an image

Every function that is found in an image has an address of its own, and every
call leads from an instruction of such a function to another one.  So nothing
is reported on a container that is made of an image.
-/

namespace CodeGraph

/-! ## Digests in hexadecimal digits -/

theorem Sha256.length_digest (message : Bytes) : (Sha256.digest message).length = 32 := by
  simp [Sha256.digest, Sha256.State.words]

theorem Hex.length_byteDigits (byte : UInt8) : (Hex.byteDigits byte).length = 2 := by
  have digit : ∀ value < 16, (Nat.toDigits 16 value).length = 1 := by decide
  have bound := byte.toNat_lt
  rw [Hex.byteDigits, List.length_append, digit _ (by omega), digit _ (by omega)]

theorem Hex.length_ofBytes (bytes : Bytes) : (Hex.ofBytes bytes).length = 2 * bytes.length := by
  rw [Hex.ofBytes, String.length_ofList, List.length_flatMap]
  simp [Hex.length_byteDigits, Nat.mul_comm]

namespace Disassembly

/-! ## Direct calls -/

namespace Function

/-- The instructions of the function, block after block. -/
def instructions (function : Function) : List Insn :=
  instructionsOf function.blocks

/-- The calls that the instructions of the function make to some addresses. -/
def directCalls (function : Function) (addresses : List Int) : List CallGraph.Edge :=
  function.instructions.flatMap fun insn =>
    (insn.callTargets.filter addresses.contains).map fun target =>
      ⟨function.address, insn.address, target⟩

theorem mem_directCalls_iff {function : Function} {addresses : List Int} {call : CallGraph.Edge} :
    call ∈ function.directCalls addresses ↔
      call.sourceFunction = function.address ∧ call.target ∈ addresses ∧
        ∃ insn ∈ function.instructions, insn.address = call.sourceInstruction ∧
          call.target ∈ insn.callTargets := by
  simp only [directCalls, List.mem_flatMap, List.mem_map, List.mem_filter, List.contains_iff_mem]
  constructor
  · intro listed
    obtain ⟨insn, member, target, ⟨called, known⟩, rfl⟩ := listed
    exact ⟨rfl, known, insn, member, rfl, called⟩
  · intro described
    obtain ⟨source, known, insn, member, site, called⟩ := described
    refine ⟨insn, member, call.target, ⟨called, known⟩, ?_⟩
    rw [site, ← source]

theorem directCalls_congr (function : Function) {left right : List Int}
    (same : ∀ address, address ∈ left ↔ address ∈ right) :
    function.directCalls left = function.directCalls right := by
  have contains : left.contains = right.contains := by
    funext address
    rw [Bool.eq_iff_iff, List.contains_iff_mem, List.contains_iff_mem, same]
  rw [directCalls, contains]
  rfl

end Function

end Disassembly

namespace Elf

open Disassembly (DecodedInsn Decoder Function Insn Program)
open Sequencing

/-! ## Code of functions -/

theorem mem_values_distinctSymbols_iff {symbols : List Symbol} {value : Nat} :
    value ∈ (distinctSymbols symbols).map (·.value) ↔ value ∈ symbols.map (·.value) := by
  induction symbols with
  | nil => rfl
  | cons first rest induction =>
      rw [distinctSymbols, List.map_cons, List.map_cons, List.mem_cons, List.mem_cons, ← induction]
      simp only [List.mem_map, List.mem_filter, bne_iff_ne]
      constructor
      · intro either
        rcases either with same | ⟨symbol, ⟨member, _⟩, holds⟩
        · exact .inl same
        · exact .inr ⟨symbol, member, holds⟩
      · intro either
        by_cases same : value = first.value
        · exact .inl same
        · rcases either with equal | ⟨symbol, member, rfl⟩
          · exact absurd equal same
          · exact .inr ⟨symbol, ⟨member, same⟩, rfl⟩

theorem nodup_values_distinctSymbols (symbols : List Symbol) :
    ((distinctSymbols symbols).map (·.value)).Nodup := by
  induction symbols with
  | nil => exact List.nodup_nil
  | cons first rest induction =>
      rw [distinctSymbols, List.map_cons, List.nodup_cons]
      refine ⟨?_, induction.sublist (List.filter_sublist.map _)⟩
      simp

/-- A symbol whose address lies in the content of the section. -/
def Symbol.StartsIn (symbol : Symbol) (table : Section) (content : Content) : Prop :=
  table.address ≤ symbol.value ∧ symbol.value < table.address + content.size

section Code

variable {table : Section} {content : Content} {symbols : List Symbol}

theorem values_codeIn_perm :
    ((codeIn table content symbols).map (·.symbol.value)).Perm
      (((distinctSymbols symbols).filter fun symbol =>
        table.address ≤ symbol.value && symbol.value < table.address + content.size).map
          (·.value)) := by
  rw [codeIn, List.map_map]
  exact (List.mergeSort_perm _ _).map _

theorem nodup_values_codeIn : ((codeIn table content symbols).map (·.symbol.value)).Nodup := by
  rw [values_codeIn_perm.nodup_iff]
  exact (nodup_values_distinctSymbols symbols).sublist (List.filter_sublist.map _)

theorem value_mem_codeIn {symbol : Symbol} (member : symbol ∈ symbols)
    (inside : symbol.StartsIn table content) :
    symbol.value ∈ (codeIn table content symbols).map (·.symbol.value) := by
  have listed : symbol.value ∈ (distinctSymbols symbols).map (·.value) :=
    mem_values_distinctSymbols_iff.mpr (List.mem_map_of_mem member)
  obtain ⟨first, kept, same⟩ := List.mem_map.mp listed
  apply values_codeIn_perm.mem_iff.mpr
  refine List.mem_map.mpr ⟨first, List.mem_filter.mpr ⟨kept, ?_⟩, same⟩
  simp only [Bool.and_eq_true, decide_eq_true_eq]
  rw [same]
  exact inside

end Code

/-! ## Functions and calls -/

theorem kindOfName_code_ne_imported (libraryPrefixes : List String) (name : String) :
    (kindOfName libraryPrefixes name).code ≠ FunctionKind.imported.code := by
  rw [kindOfName]
  split
  · decide
  · decide

section Assemble

variable (decode : Decoder) (strings : Int → Option Bytes) (libraryPrefixes : List String)
  (codes : List Code) (imports : List Import)

/-- The function that is made of code. -/
def Code.function (code : Code) : Function :=
  disassembledFunction libraryPrefixes code.symbol
    (Disassembly.functionBody decode code.bytes code.symbol.value
      (knownAddresses codes imports) strings)

/-- The imports without code of their own. -/
def stubsOf : List Import :=
  imports.filter fun stub => codes.all (·.symbol.value != stub.address)

theorem functions_assemble :
    (assemble decode strings libraryPrefixes codes imports).1 =
      codes.map (Code.function decode strings libraryPrefixes codes imports) ++
        (stubsOf codes imports).map importedFunction := by
  rw [assemble, List.map_map]
  rfl

/-- The decoder's instructions for the code are those of the function. -/
theorem reported_function (code : Code) :
    List.Forall₂ DecodedInsn.ReportedAs (decode code.bytes code.symbol.value)
      (code.function decode strings libraryPrefixes codes imports).instructions :=
  Disassembly.reported_functionBody _ _ _ _ _

theorem directCalls_function (code : Code) (addresses : List Int) :
    (code.function decode strings libraryPrefixes codes imports).directCalls addresses =
      knownCalls addresses code.symbol (Disassembly.functionBody decode code.bytes
        code.symbol.value (knownAddresses codes imports) strings) := by
  rw [knownCalls, Disassembly.callSites_functionBody, List.filter_flatMap, List.map_flatMap]
  apply List.flatMap_congr
  intro insn _
  rw [List.filter_map, List.map_map]
  rfl

theorem calls_assemble :
    (assemble decode strings libraryPrefixes codes imports).2 =
      (assemble decode strings libraryPrefixes codes imports).1.flatMap
        (·.directCalls (knownAddresses codes imports)) := by
  have none : ((stubsOf codes imports).map importedFunction).flatMap
      (·.directCalls (knownAddresses codes imports)) = [] := by
    rw [List.flatMap_map]
    exact List.flatMap_eq_nil_iff.mpr fun _ _ => rfl
  rw [functions_assemble, List.flatMap_append, none, List.append_nil, List.flatMap_map, assemble,
    List.flatMap_map]
  apply List.flatMap_congr
  intro code _
  exact (directCalls_function _ _ _ _ _ code _).symm

/-- Calls are known to lead to the functions, and to nothing else. -/
theorem mem_knownAddresses_iff {address : Int} :
    address ∈ knownAddresses codes imports ↔
      address ∈ (assemble decode strings libraryPrefixes codes imports).1.map (·.address) := by
  rw [functions_assemble, List.map_append, List.map_map, List.map_map, knownAddresses,
    List.mem_append, List.mem_append]
  constructor
  · intro either
    rcases either with ofCode | ofStub
    · exact .inl ofCode
    · obtain ⟨stub, member, rfl⟩ := List.mem_map.mp ofStub
      by_cases own : codes.all (·.symbol.value != stub.address)
      · exact .inr (List.mem_map.mpr ⟨stub, List.mem_filter.mpr ⟨member, own⟩, rfl⟩)
      · obtain ⟨code, listed, same⟩ : ∃ code ∈ codes, code.symbol.value = stub.address := by
          simpa using own
        exact .inl (List.mem_map.mpr ⟨code, listed, congrArg Int.ofNat same⟩)
  · intro either
    rcases either with ofCode | ofStub
    · exact .inl ofCode
    · obtain ⟨stub, kept, rfl⟩ := List.mem_map.mp ofStub
      exact .inr (List.mem_map.mpr ⟨stub, (List.mem_filter.mp kept).1, rfl⟩)

theorem nodup_addresses_assemble (codesDistinct : (codes.map (·.symbol.value)).Nodup)
    (importsDistinct : (imports.map (·.address)).Nodup) :
    ((assemble decode strings libraryPrefixes codes imports).1.map (·.address)).Nodup := by
  have stubs : ((stubsOf codes imports).map (·.address)).Nodup :=
    importsDistinct.sublist (List.filter_sublist.map _)
  have apart : ∀ code ∈ codes, ∀ stub ∈ stubsOf codes imports,
      code.symbol.value ≠ stub.address := by
    intro code listed stub kept
    have own := List.all_eq_true.mp (List.mem_filter.mp kept).2 code listed
    exact bne_iff_ne.mp own
  have addresses : (assemble decode strings libraryPrefixes codes imports).1.map (·.address) =
      (codes.map (·.symbol.value) ++ (stubsOf codes imports).map (·.address)).map Int.ofNat := by
    rw [functions_assemble, List.map_append, List.map_append, List.map_map, List.map_map,
      List.map_map, List.map_map]
    rfl
  rw [addresses]
  refine List.Nodup.map Int.ofNat_injective (List.nodup_append.mpr ⟨codesDistinct, stubs, ?_⟩)
  intro value ofCode address ofStub
  obtain ⟨code, listed, rfl⟩ := List.mem_map.mp ofCode
  obtain ⟨stub, kept, rfl⟩ := List.mem_map.mp ofStub
  exact apart code listed stub kept

end Assemble

/-! ## Functions of an image -/

/-- The functions that are made of a text section, symbols and imports, and the
calls between them, agree with each other and with the decoder. -/
structure Closed (decode : Decoder) (text : Section) (content : Content) (symbols : List Symbol)
    (imports : List Import) (functions : List Function) (calls : List CallGraph.Edge) : Prop where
  distinct : (functions.map (·.address)).Nodup
  symbolsCovered : ∀ symbol ∈ symbols, symbol.StartsIn text content →
    (symbol.value : Int) ∈ functions.map (·.address)
  importsCovered : ∀ stub ∈ imports, (stub.address : Int) ∈ functions.map (·.address)
  /-- An imported function has no body; the body of any other one holds exactly
  what the decoder gives for its code. -/
  bodies : ∀ function ∈ functions,
    function.kind = FunctionKind.imported.code ∧ function.blocks = [] ∨
    function.kind ≠ FunctionKind.imported.code ∧
      ∃ code ∈ codeIn text content symbols, function.address = code.symbol.value ∧
        List.Forall₂ DecodedInsn.ReportedAs (decode code.bytes function.address)
          function.instructions
  /-- A call leads from a function with a body, and there from an instruction
  that calls the target and nothing else, to a function. -/
  sound : ∀ call ∈ calls, call.target ∈ functions.map (·.address) ∧
    ∃ function ∈ functions, function.address = call.sourceFunction ∧
      function.kind ≠ FunctionKind.imported.code ∧
      ∃ block ∈ function.blocks, ∃ insn ∈ block.instructions,
        insn.address = call.sourceInstruction ∧ insn.callTargets = [call.target] ∧
        ∃ code ∈ codeIn text content symbols, function.address = code.symbol.value ∧
          ∃ decoded ∈ decode code.bytes function.address, decoded.ReportedAs insn ∧
            decoded.isCall = true ∧ decoded.directTarget? = some call.target
  /-- Every call to a function is listed, as often as an instruction makes it. -/
  complete : calls = functions.flatMap (·.directCalls (functions.map (·.address)))

section Closed

variable {decode : Decoder} {strings : Int → Option Bytes} {libraryPrefixes : List String}
  {text : Section} {content : Content} {symbols : List Symbol} {imports : List Import}

theorem bodies_assemble {codes : List Code} {function : Function}
    (member : function ∈ (assemble decode strings libraryPrefixes codes imports).1) :
    function.kind = FunctionKind.imported.code ∧ function.blocks = [] ∨
    function.kind ≠ FunctionKind.imported.code ∧
      ∃ code ∈ codes, function.address = code.symbol.value ∧
        List.Forall₂ DecodedInsn.ReportedAs (decode code.bytes function.address)
          function.instructions := by
  rw [functions_assemble] at member
  rcases List.mem_append.mp member with ofCode | ofStub
  · obtain ⟨code, listed, rfl⟩ := List.mem_map.mp ofCode
    exact .inr ⟨kindOfName_code_ne_imported _ _, code, listed, rfl,
      reported_function _ _ _ _ _ code⟩
  · obtain ⟨stub, _, rfl⟩ := List.mem_map.mp ofStub
    exact .inl ⟨rfl, rfl⟩

/-- A call target of a reported instruction is the only one, and the decoder
gave it. -/
theorem callTargets_of_reportedAs {decoded : DecodedInsn} {insn : Insn}
    (reported : decoded.ReportedAs insn) {target : Int} (called : target ∈ insn.callTargets) :
    insn.callTargets = [target] ∧ decoded.isCall = true ∧
      decoded.directTarget? = some target := by
  have targets := reported.callTargets
  split at targets
  · next isCall =>
      rw [targets, Option.mem_toList] at called
      rw [called] at targets
      exact ⟨targets, isCall, called⟩
  · rw [targets] at called
    cases called

theorem closed_assemble (distinct : (imports.map (·.address)).Nodup) :
    Closed decode text content symbols imports
      (assemble decode strings libraryPrefixes (codeIn text content symbols) imports).1
      (assemble decode strings libraryPrefixes (codeIn text content symbols) imports).2 := by
  have known : ∀ address, address ∈ knownAddresses (codeIn text content symbols) imports ↔
      address ∈ (assemble decode strings libraryPrefixes
        (codeIn text content symbols) imports).1.map (·.address) :=
    fun _ => mem_knownAddresses_iff _ _ _ _ _
  have calls := calls_assemble decode strings libraryPrefixes (codeIn text content symbols) imports
  refine ⟨?_, ?_, ?_, fun _ => bodies_assemble, ?_, ?_⟩
  · exact nodup_addresses_assemble _ _ _ _ _ nodup_values_codeIn distinct
  · intro symbol member inside
    obtain ⟨code, listed, same⟩ := List.mem_map.mp (value_mem_codeIn member inside)
    apply (known _).mp
    exact List.mem_append_left _ (List.mem_map.mpr ⟨code, listed, congrArg Int.ofNat same⟩)
  · intro stub member
    apply (known _).mp
    exact List.mem_append_right _ (List.mem_map.mpr ⟨stub, member, rfl⟩)
  · intro call listed
    rw [calls] at listed
    obtain ⟨function, member, made⟩ := List.mem_flatMap.mp listed
    obtain ⟨source, target, insn, held, site, called⟩ :=
      Disassembly.Function.mem_directCalls_iff.mp made
    refine ⟨(known _).mp target, function, member, source.symm, ?_⟩
    obtain ⟨block, inside, found⟩ := List.mem_flatMap.mp held
    rcases bodies_assemble member with ⟨_, empty⟩ | ⟨kind, code, has, address, reported⟩
    · rw [empty] at inside
      cases inside
    · obtain ⟨decoded, given, as⟩ := Disassembly.exists_of_mem_reported reported held
      obtain ⟨targets, isCall, direct⟩ := callTargets_of_reportedAs as called
      exact ⟨kind, block, inside, insn, found, site, targets, code, has, address, decoded, given,
        as, isCall, direct⟩
  · rw [calls]
    apply List.flatMap_congr
    intro function _
    exact function.directCalls_congr known

end Closed

namespace Binary

variable {binary : Binary} {decode : Decoder} {libraryPrefixes : List String}
  {sections : List Section} {symbols : List Symbol} {imports : List Import}
  {result : List Function × List CallGraph.Edge}

theorem functions_of_no_text (absent : findSection? sections ".text" = none)
    (made : binary.functions decode libraryPrefixes sections symbols imports = .ok result) :
    result = ([], []) := by
  unfold functions at made
  rw [absent] at made
  exact pure_eq_ok_iff.mp made

theorem functions_of_text {text : Section} (found : findSection? sections ".text" = some text)
    (made : binary.functions decode libraryPrefixes sections symbols imports = .ok result) :
    ∃ content strings, binary.content text = .ok content ∧
      result = assemble decode strings libraryPrefixes (codeIn text content symbols) imports := by
  unfold functions at made
  rw [found] at made
  simp only [bind_eq_ok_iff, pure_eq_ok_iff] at made
  obtain ⟨content, readable, strings, _, _, _, assembled⟩ := made
  exact ⟨content, strings, readable, assembled⟩

theorem closed_of_functions {text : Section} {functions : List Function}
    {calls : List CallGraph.Edge} (found : findSection? sections ".text" = some text)
    (distinct : (imports.map (·.address)).Nodup)
    (made : binary.functions decode libraryPrefixes sections symbols imports =
      .ok (functions, calls)) :
    ∃ content, binary.content text = .ok content ∧
      Closed decode text content symbols imports functions calls := by
  obtain ⟨content, strings, readable, assembled⟩ := functions_of_text found made
  have closed : Closed decode text content symbols imports (functions, calls).1
      (functions, calls).2 := by
    rw [assembled]
    exact closed_assemble distinct
  exact ⟨content, readable, closed⟩

/-! ## Imports -/

/-- The stubs lie one after the other. -/
theorem importsFrom_pairwise {stubs names relocations : Section} {index count : Nat}
    {found : List Import}
    (read : binary.importsFrom stubs names relocations index count = .ok found) :
    (∀ stub ∈ found, stubs.address + (index + 1) * stubSize ≤ stub.address) ∧
      (found.map (·.address)).Pairwise (· < ·) := by
  induction count generalizing index found with
  | zero =>
      obtain rfl : [] = found := Except.ok.inj read
      simp
  | succ count induction =>
      simp only [importsFrom, bind_eq_ok_iff] at read
      obtain ⟨number, _, name, _, rest, others, kept⟩ := read
      obtain ⟨behind, ascending⟩ := induction others
      have later : ∀ stub ∈ rest, stubs.address + (index + 1) * stubSize < stub.address := by
        intro stub member
        have bound := behind stub member
        simp only [stubSize] at bound ⊢
        omega
      split at kept
      · obtain rfl := pure_eq_ok_iff.mp kept
        exact ⟨fun stub member => (later stub member).le, ascending⟩
      · obtain rfl := pure_eq_ok_iff.mp kept
        refine ⟨?_, ?_⟩
        · intro stub member
          rcases List.mem_cons.mp member with rfl | further
          · exact le_refl _
          · exact (later stub further).le
        · rw [List.map_cons, List.pairwise_cons]
          refine ⟨?_, ascending⟩
          intro address listed
          obtain ⟨stub, member, rfl⟩ := List.mem_map.mp listed
          exact later stub member

theorem nodup_addresses_imports {binary : Binary} {sections : List Section}
    {imports : List Import} (read : binary.imports sections = .ok imports) :
    (imports.map (·.address)).Nodup := by
  simp only [Binary.imports] at read
  split at read
  · split at read
    · exact (importsFrom_pairwise read).2.imp fun ascending => ascending.ne
    · obtain rfl : [] = imports := Except.ok.inj read
      exact List.nodup_nil
  · obtain rfl : [] = imports := Except.ok.inj read
    exact List.nodup_nil

end Binary

/-! ## Programs of images -/

theorem functions_of_loadFile {decoders : Decoders} {libraryPrefixes : List String}
    {tree : Files.Tree} {path : Files.Path} {loaded : Loaded}
    (made : loadFile decoders libraryPrefixes tree path = .ok loaded) :
    ∃ binary sections symbols imports, Binary.imports binary sections = .ok imports ∧
      binary.functions (decoders binary.image.bits) libraryPrefixes sections symbols imports =
        .ok (loaded.program.functions, loaded.program.calls) := by
  unfold loadFile at made
  obtain ⟨found, _, probed⟩ := bind_eq_ok_iff.mp made
  split at probed
  · cases probed
  · obtain ⟨bytes, _, parsed⟩ := bind_eq_ok_iff.mp probed
    obtain ⟨binary, _, known⟩ := bind_eq_ok_iff.mp parsed
    split at known
    · have loads := mapError_eq_ok_iff.mp known
      unfold Binary.load at loads
      simp only [bind_eq_ok_iff, pure_eq_ok_iff] at loads
      obtain ⟨sections, _, symbols, _, imports, bound, result, functions, rfl⟩ := loads
      exact ⟨binary, sections, symbols, imports, bound, functions⟩
    · cases known

/-- The functions of a file have addresses of their own, and only they make
calls. -/
theorem agreement_of_loadFile {decoders : Decoders} {libraryPrefixes : List String}
    {tree : Files.Tree} {path : Files.Path} {loaded : Loaded}
    (made : loadFile decoders libraryPrefixes tree path = .ok loaded) :
    (loaded.program.functions.map (·.address)).Nodup ∧ loaded.program.strayCalls = [] := by
  obtain ⟨binary, sections, symbols, imports, bound, functions⟩ := functions_of_loadFile made
  cases found : findSection? sections ".text" with
  | none =>
      have empty := Binary.functions_of_no_text found functions
      rw [Prod.mk.injEq] at empty
      unfold Program.strayCalls
      rw [empty.1, empty.2]
      exact ⟨List.nodup_nil, rfl⟩
  | some text =>
      obtain ⟨content, _, closed⟩ := Binary.closed_of_functions found
        (Binary.nodup_addresses_imports bound) functions
      refine ⟨closed.distinct, List.filter_eq_nil_iff.mpr ?_⟩
      intro call listed
      obtain ⟨_, function, member, source, _⟩ := closed.sound call listed
      simpa using ⟨function, member, source⟩

/-! ## A small image -/

/-- An image of 32 bits in which one function calls itself. -/
def selfCallingImage : Bytes := [
    -- the header
    0x7F, 0x45, 0x4C, 0x46, 1, 1, 1, 0, 0, 0, 0, 0, 0, 0, 0, 0, 2, 0, 3, 0, 1, 0, 0, 0, 0, 0, 0,
    0, 0, 0, 0, 0, 0x62, 0, 0, 0, 0, 0, 0, 0, 0x34, 0, 0, 0, 0, 0, 0x28, 0, 4, 0, 3, 0,
    -- the text
    0xE8, 0xFB, 0xFF, 0xFF, 0xFF,
    -- the symbol of the function
    0x17, 0, 0, 0, 0, 0x10, 0, 0, 5, 0, 0, 0, 0x12, 0, 1, 0,
    -- the names of the sections and of the function
    0, 0x2E, 0x74, 0x65, 0x78, 0x74, 0, 0x2E, 0x73, 0x79, 0x6D, 0x74, 0x61, 0x62, 0, 0x2E, 0x73,
    0x74, 0x72, 0x74, 0x61, 0x62, 0, 0x66, 0,
    -- the section headers: none, the text, the symbols and the names
    0, 0, 0, 0, 0, 0, 0, 0, 0, 0, 0, 0, 0, 0, 0, 0, 0, 0, 0, 0, 0, 0, 0, 0, 0, 0, 0, 0, 0, 0, 0,
    0, 0, 0, 0, 0, 0, 0, 0, 0, 1, 0, 0, 0, 1, 0, 0, 0, 0, 0, 0, 0, 0, 0x10, 0, 0, 0x34, 0, 0, 0,
    5, 0, 0, 0, 0, 0, 0, 0, 0, 0, 0, 0, 0, 0, 0, 0, 0, 0, 0, 0, 7, 0, 0, 0, 2, 0, 0, 0, 0, 0, 0,
    0, 0, 0, 0, 0, 0x39, 0, 0, 0, 0x10, 0, 0, 0, 3, 0, 0, 0, 0, 0, 0, 0, 0, 0, 0, 0, 0x10, 0, 0,
    0, 0x0F, 0, 0, 0, 3, 0, 0, 0, 0, 0, 0, 0, 0, 0, 0, 0, 0x49, 0, 0, 0, 0x19, 0, 0, 0, 0, 0, 0,
    0, 0, 0, 0, 0, 0, 0, 0, 0, 0, 0, 0, 0]

def selfCallingBinary : Binary where
  image := { bytes := selfCallingImage, wide := false, bigEndian := false }
  header := { machine := 3, sectionTable := 98, sectionHeaderSize := 40, sectionCount := 4,
              namesIndex := 3 }

def textSection : Section where
  name := 1
  kind := .other
  flags := 0
  address := 0x1000
  offset := 52
  size := 5
  link := 0
  entrySize := 0
  label := ".text"

def selfCallingSections : List Section := [
  { textSection with
    name := 0, kind := .unused, address := 0, offset := 0, size := 0, label := "" },
  textSection,
  { textSection with
    name := 7, kind := .symbols, address := 0, offset := 57, size := 16, link := 3,
    entrySize := 16, label := ".symtab" },
  { textSection with
    name := 15, kind := .strings, address := 0, offset := 73, size := 25, label := ".strtab" }]

def selfCallingSymbols : List Symbol :=
  [{ name := "f", kind := functionKind, value := 0x1000, size := 5 }]

/-- Knows a call from an address to itself. -/
def selfCallDecoder : Decoder := fun code address =>
  if code = [0xE8, 0xFB, 0xFF, 0xFF, 0xFF] then
    [{ address, bytes := code, mnemonic := "call", operandText := "0x1000", isCall := true,
       operands := [.immediate address] }]
  else []

def selfCallingFunction : Function where
  address := 0x1000
  name := some "f"
  hasRealName := true
  blocks := [{
    address := 0x1000
    instructions := [{
      address := 0x1000
      mnemonic := "call"
      rawBytes := [0xE8, 0xFB, 0xFF, 0xFF, 0xFF]
      operands := [.ofKind .function "0x1000"]
      callTargets := [0x1000] }] }]

theorem functions_selfCallingBinary :
    selfCallingBinary.functions selfCallDecoder [] selfCallingSections
      selfCallingSymbols [] = .ok ([selfCallingFunction], [⟨0x1000, 0x1000, 0x1000⟩]) := by
  cbv

def selfCallingProgram : Program where
  name := "a"
  inputHash := Bytes.ofAscii (Hex.ofBytes (Sha256.digest selfCallingImage))
  architecture := "x86-32"
  addressSpace := 32
  functions := [selfCallingFunction]
  calls := [⟨0x1000, 0x1000, 0x1000⟩]

set_option maxRecDepth 2000 in
theorem load_selfCallingBinary :
    selfCallingBinary.load .x86 selfCallDecoder [] "a" =
      .ok { program := selfCallingProgram, imports := 0 } := by
  have sections : selfCallingBinary.sections = .ok selfCallingSections := by cbv
  have symbols : selfCallingBinary.functionSymbols selfCallingSections =
      .ok selfCallingSymbols := by cbv
  have imports : selfCallingBinary.imports selfCallingSections = .ok [] := by cbv
  unfold Binary.load
  rw [sections, Sequencing.ok_bind, symbols, Sequencing.ok_bind, imports, Sequencing.ok_bind,
    functions_selfCallingBinary, Sequencing.ok_bind]
  rfl

def selfCallingTree : Files.Tree where
  nodes := [(["a"], .file selfCallingImage)]

set_option maxRecDepth 2000 in
theorem loadFile_selfCallingTree :
    loadFile (fun _ => selfCallDecoder) [] selfCallingTree { names := ["a"] } =
      .ok { program := selfCallingProgram, imports := 0 } := by
  have probed : selfCallingTree.probe { names := ["a"] } =
      .ok (some (.file selfCallingImage)) := by rfl
  have read : selfCallingTree.read { names := ["a"] } = .ok selfCallingImage := by rfl
  have opened : Binary.ofBytes selfCallingImage = .ok selfCallingBinary := by rfl
  have machine : selfCallingBinary.machine? = some .x86 := rfl
  have name : ({ names := ["a"] } : Files.Path).name = "a" := rfl
  unfold loadFile
  simp only [probed, read, opened, machine, name, load_selfCallingBinary, Sequencing.ok_mapError,
    Sequencing.ok_bind, Option.isNone_some, Bool.false_eq_true, if_false]

theorem sortedFunctions_selfCallingProgram :
    selfCallingProgram.sortedFunctions = [selfCallingFunction] :=
  List.mergeSort_singleton _

theorem exported_selfCallingProgram : selfCallingProgram.exported = [selfCallingFunction] := by
  rw [Program.exported, sortedFunctions_selfCallingProgram]
  rfl

theorem flowGraphs_selfCallingProgram : selfCallingProgram.flowGraphs = [{
    address := 0x1000
    blocks := [{
      prime := 3495168731
      instructions := [{
        address := 0x1000
        prime := 3495168731
        mnemonic := some "call"
        operands := some [.ofKind .function "0x1000"]
        rawBytes := some [0xE8, 0xFB, 0xFF, 0xFF, 0xFF]
        callTargets := [0x1000] }] }]
    edges := [] }] := by
  rw [Program.flowGraphs, exported_selfCallingProgram]
  simp [selfCallingFunction, Function.flowGraph, Function.sortedBlocks,
    Disassembly.Block.record, Insn.record, Disassembly.stringReference,
    Disassembly.primeOfMnemonics, Signature.additivePrime, Disassembly.mnemonicPrime_call,
    Signature.words64]

theorem callGraph_selfCallingProgram : selfCallingProgram.callGraph = {
    vertices := [{
      address := 0x1000
      prime := 3495168731
      hasRealName := true
      mangledName := some "f" }]
    edges := [⟨0x1000, 0x1000, 0x1000⟩] } := by
  rw [Program.callGraph, sortedFunctions_selfCallingProgram]
  simp [selfCallingFunction, selfCallingProgram, Function.vertex, Function.mnemonics,
    Disassembly.primeOfMnemonics, Signature.additivePrime, Disassembly.mnemonicPrime_call,
    Signature.words64]

theorem metadata_selfCallingProgram : selfCallingProgram.metadata none = {
    inputBinary := some "a"
    inputHash := some selfCallingProgram.inputHash
    addressSpace := some 32
    architecture := some "x86-32"
    maxMnemonicLength := some 4
    numInstructions := some 1
    numFunctions := some 1
    numBasicBlocks := some 1
    numEdges := some 0 } := by
  rw [Program.metadata, Program.counts, exported_selfCallingProgram]
  rfl

theorem encodable_selfCallingProgram : selfCallingProgram.Encodable none := by
  have metadata : Codec.EncodableMetadata (selfCallingProgram.metadata none) := by
    rw [metadata_selfCallingProgram]
    constructor <;> simp [Codec.Fits]
  have vertices : ∀ vertex ∈ selfCallingProgram.callGraph.vertices,
      Codec.EncodableVertex vertex := by
    rw [callGraph_selfCallingProgram]
    intro vertex member
    obtain rfl := List.mem_singleton.mp member
    constructor <;> simp [Codec.Fits, FunctionKind.code]
  have calls : ∀ call ∈ selfCallingProgram.callGraph.edges, Codec.EncodableCall call := by
    rw [callGraph_selfCallingProgram]
    intro call member
    obtain rfl := List.mem_singleton.mp member
    constructor <;> simp [Codec.Fits]
  have operands : Markup.WellFormed [.ofKind .function "0x1000"] := by
    refine ⟨⟨?_, .inl ⟨12, by decide, rfl⟩⟩, by simp⟩
    simp [Markup.Run.Plain, Markup.Run.ofKind, Markup.Reserved]
  refine ⟨metadata, ⟨vertices, calls⟩, ?_⟩
  rw [flowGraphs_selfCallingProgram]
  intro graph member
  obtain rfl := List.mem_singleton.mp member
  refine ⟨by simp [Codec.Fits], by simp, by simp, ?_, by simp⟩
  intro block found
  obtain rfl := List.mem_singleton.mp found
  refine ⟨by simp [Codec.Fits], ?_⟩
  intro instruction listed
  obtain rfl := List.mem_singleton.mp listed
  constructor <;> simp [Codec.Fits, operands]

theorem length_inputHash_selfCallingProgram : selfCallingProgram.inputHash.length = 64 := by
  rw [selfCallingProgram, Bytes.ofAscii, List.length_map, String.length_toList,
    Hex.length_ofBytes, Sha256.length_digest]

theorem short_contents_selfCallingProgram :
    (selfCallingProgram.contents none).bytes.length < 0x80000000 := by
  have metadata :
      (Wire.encodeFields (Codec.metadataLayout (selfCallingProgram.metadata none))).length = 89 := by
    have length := length_inputHash_selfCallingProgram
    rw [metadata_selfCallingProgram]
    generalize selfCallingProgram.inputHash = hash at length ⊢
    simp only [Codec.metadataLayout, Codec.optionalBytes, Option.toList_some, List.map_cons,
      List.map_nil, Codec.bytesField, Wire.encodeFields, List.flatMap_append, List.flatMap_cons,
      List.flatMap_nil, List.length_append, Wire.Field.encode, Wire.Payload.encode, length]
    cbv
  have callGraph :
      (Wire.encodeFields (Codec.callGraphLayout selfCallingProgram.callGraph)).length = 29 := by
    rw [callGraph_selfCallingProgram]
    cbv
  have flowGraphs : (selfCallingProgram.flowGraphs.map fun graph =>
      (graph.address, Wire.encodeFields (Codec.flowGraphLayout graph))).length = 1 := by
    rw [flowGraphs_selfCallingProgram]
    rfl
  have joined : (Container.joined (selfCallingProgram.flowGraphs.map fun graph =>
      (graph.address, Wire.encodeFields (Codec.flowGraphLayout graph)))).length = 47 := by
    rw [flowGraphs_selfCallingProgram]
    cbv
  rw [Container.Contents.bytes, List.length_append, Container.Contents.length_packed_index,
    Container.Contents.body, List.length_append, List.length_append,
    Container.Contents.headerLength, Program.contents]
  simp only [metadata, callGraph, flowGraphs, joined]
  decide

/-! ## The report on an image -/

/-- What is found in an image with a text section is closed: its functions cover
the symbols and imports, and its calls are exactly the direct calls between its
functions.  So nothing is reported on a container that is made of a file. -/
theorem image_calls_closed :
    (∀ (binary : Binary) (decode : Decoder) (libraryPrefixes : List String)
      (sections : List Section) (symbols : List Symbol) (imports : List Import) (text : Section)
      (functions : List Function) (calls : List CallGraph.Edge),
      findSection? sections ".text" = some text → (imports.map (·.address)).Nodup →
      binary.functions decode libraryPrefixes sections symbols imports = .ok (functions, calls) →
      ∃ content, binary.content text = .ok content ∧
        Closed decode text content symbols imports functions calls) ∧
    ∀ (decoders : Decoders) (libraryPrefixes : List String) (tree : Files.Tree)
      (path : Files.Path) (loaded : Loaded),
      loadFile decoders libraryPrefixes tree path = .ok loaded →
      ∀ (addressSpace : Option Int) (listener : Container.Listener) (source : Container.Source)
        (index : Container.Index) (after : Container.Progress Container.Store),
        loaded.program.WithinLimits addressSpace →
        source.items = loaded.program.flowGraphs.map .record →
        Container.write listener (loaded.program.metadata addressSpace) loaded.program.callGraph
          source { bytes := [] } = (.ok index, after) →
        ∀ position strict, ∃ reader report,
          Container.Reader.ofStore { bytes := after.store.bytes, position } strict = .ok reader ∧
            (Container.validate reader).1 = .ok report ∧ report.faults = [] ∧
              report.concerns = [] := by
  refine ⟨?_, ?_⟩
  · intro binary decode libraryPrefixes sections symbols imports text functions calls found
      distinct made
    exact Binary.closed_of_functions found distinct made
  · intro decoders libraryPrefixes tree path loaded made addressSpace listener source index after
      within items written position strict
    obtain ⟨distinct, noStray⟩ := agreement_of_loadFile made
    obtain ⟨reader, opened, _, readBack⟩ :=
      Program.readBack_of_written within items written position strict
    have validated := readBack.validate_eq distinct
    rw [noStray] at validated
    exact ⟨reader, _, opened, validated, rfl, rfl⟩

/-- The image is one where the function and its call are found. -/
theorem selfCallingImage_closed :
    (∃ content, selfCallingBinary.content textSection = .ok content ∧
      Closed selfCallDecoder textSection content selfCallingSymbols [] [selfCallingFunction]
        [⟨0x1000, 0x1000, 0x1000⟩]) ∧
    ∃ index after reader report,
      Container.write (fun _ => none) (selfCallingProgram.metadata none)
          selfCallingProgram.callGraph
          { items := selfCallingProgram.flowGraphs.map .record } { bytes := [] } =
        (.ok index, after) ∧
      Container.Reader.ofStore { bytes := after.store.bytes } false = .ok reader ∧
        (Container.validate reader).1 = .ok report ∧ report.faults = [] ∧
          report.concerns = [] := by
  have distinct : (selfCallingProgram.functions.map (·.address)).Nodup := List.nodup_singleton _
  obtain ⟨index, after, written⟩ := Program.exists_write distinct encodable_selfCallingProgram
    short_contents_selfCallingProgram
  obtain ⟨reader, report, opened, validated, faults, concerns⟩ :=
    image_calls_closed.2 _ _ _ _ _ loadFile_selfCallingTree none _ _ index after
      (Program.withinLimits_of_short short_contents_selfCallingProgram) rfl written 0 false
  refine ⟨?_, index, after, reader, report, written, opened, validated, faults, concerns⟩
  exact image_calls_closed.1 _ _ _ _ _ _ _ _ _ rfl List.nodup_nil functions_selfCallingBinary

end Elf

end CodeGraph
