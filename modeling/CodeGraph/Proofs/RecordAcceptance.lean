import CodeGraph.Proofs.CallGraphRoundTrip
import CodeGraph.Proofs.FlowGraphLayout
import CodeGraph.Proofs.MetadataRoundTrip
import Mathlib

/-!
# Which records can be written

Every value of a record is checked against its field, in the order in which the
fields are made.  A record is written if all checks pass; otherwise the refusal
reports the first one that fails.  A flow graph also needs blocks, and those
are looked at before any value.
-/

namespace CodeGraph

open Sequencing
open Wire (Field)

namespace Codec

/-! ## Checks -/

/-- A value of a record, by the kind of field that it has to fit. -/
inductive Check
  | word (width : Nat) (value : Int)
  | enumerator (least greatest value : Int)
  | flags (comment : Comment)
  | operands (runs : List Markup.Run)

/-- The value fits its field.  The reserved bits of a comment are the twelve
between its kind and its operand. -/
def Check.Passes : Check → Prop
  | .word width value => 0 ≤ value ∧ value < 2 ^ width
  | .enumerator least greatest value => least ≤ value ∧ value ≤ greatest
  | .flags comment =>
      (comment.repeatable = 0 ∨ comment.repeatable = 1) ∧
        (0 ≤ comment.kind ∧ comment.kind ≤ 7) ∧
          (0 ≤ comment.operand ∧ comment.operand ≤ 0xFFFF) ∧
            0 ≤ comment.reserved ∧ comment.reserved ≤ 0xFFF0 ∧ 0x10 ∣ comment.reserved
  | .operands runs => ∃ text, Markup.encode runs = .ok text

/-- Why the value does not fit.  An enumeration field takes numbers of 32 bits
before it looks for a member. -/
inductive Check.Refuses : Check → ValueError → Prop
  | word {width : Nat} {value : Int} :
      ¬ (0 ≤ value ∧ value < 2 ^ width) → (Check.word width value).Refuses (.outOfRange value)
  | enumeratorRange {least greatest value : Int} :
      value < -0x80000000 ∨ 0x80000000 ≤ value →
      (Check.enumerator least greatest value).Refuses (.outOfRange value)
  | enumerator {least greatest value : Int} :
      -0x80000000 ≤ value → value < 0x80000000 → ¬ (least ≤ value ∧ value ≤ greatest) →
      (Check.enumerator least greatest value).Refuses (.unknownEnumerator value)
  | flags {comment : Comment} {error : Comment.FlagError} :
      comment.flags = .error error → (Check.flags comment).Refuses (.flags error)
  | operands {runs : List Markup.Run} {error : Markup.EncodeError} :
      Markup.encode runs = .error error → (Check.operands runs).Refuses (.markup error)

/-- The first check that fails, after checks that pass. -/
inductive FirstRefusal : List Check → ValueError → Prop
  | here {check : Check} {rest : List Check} {error : ValueError} :
      check.Refuses error → FirstRefusal (check :: rest) error
  | there {check : Check} {rest : List Check} {error : ValueError} :
      check.Passes → FirstRefusal rest error → FirstRefusal (check :: rest) error

theorem valid_iff_passes {comment : Comment} : comment.Valid ↔ (Check.flags comment).Passes := by
  have reserved : Comment.reservedBits comment.reserved = comment.reserved ↔
      0 ≤ comment.reserved ∧ comment.reserved ≤ 0xFFF0 ∧ 0x10 ∣ comment.reserved := by
    unfold Comment.reservedBits
    omega
  constructor
  · intro valid
    exact ⟨valid.repeatable, valid.kind, valid.operand, reserved.mp valid.reserved⟩
  · intro passes
    obtain ⟨repeatable, kind, operand, bits⟩ := passes
    exact ⟨repeatable, kind, operand, reserved.mpr bits⟩

theorem Check.passes_or_refuses (check : Check) :
    check.Passes ∨ ∃ error, check.Refuses error := by
  cases check with
  | word width value =>
      by_cases fits : 0 ≤ value ∧ value < 2 ^ width
      · exact .inl fits
      · exact .inr ⟨_, .word fits⟩
  | enumerator least greatest value =>
      by_cases member : least ≤ value ∧ value ≤ greatest
      · exact .inl member
      · by_cases far : value < -0x80000000 ∨ 0x80000000 ≤ value
        · exact .inr ⟨_, .enumeratorRange far⟩
        · exact .inr ⟨_, .enumerator (by omega) (by omega) member⟩
  | flags comment =>
      cases packed : comment.flags with
      | error error => exact .inr ⟨_, .flags packed⟩
      | ok word => exact .inl (valid_iff_passes.mp (Comment.flags_eq_ok_iff.mp packed).1)
  | operands runs =>
      cases flattened : Markup.encode runs with
      | error error => exact .inr ⟨_, .operands flattened⟩
      | ok text => exact .inl ⟨text, flattened⟩

theorem passes_or_firstRefusal (checks : List Check) :
    (∀ check ∈ checks, check.Passes) ∨ ∃ error, FirstRefusal checks error := by
  induction checks with
  | nil => exact .inl (by simp)
  | cons check rest induction =>
      rcases check.passes_or_refuses with passes | ⟨error, refuses⟩
      · rcases induction with others | ⟨error, refused⟩
        · exact .inl (List.forall_mem_cons.mpr ⟨passes, others⟩)
        · exact .inr ⟨error, .there passes refused⟩
      · exact .inr ⟨error, .here refuses⟩

/-- The first refusal of two lists of checks is in the first list, or else in
the second. -/
theorem FirstRefusal.of_append {left right : List Check} {error : ValueError}
    (refused : FirstRefusal (left ++ right) error) :
    FirstRefusal left error ∨ (∀ check ∈ left, check.Passes) ∧ FirstRefusal right error := by
  induction left with
  | nil => exact .inr ⟨by simp, refused⟩
  | cons check rest induction =>
      cases refused with
      | here refuses => exact .inl (.here refuses)
      | there passes later =>
          rcases induction later with inside | ⟨others, after⟩
          · exact .inl (.there passes inside)
          · exact .inr ⟨List.forall_mem_cons.mpr ⟨passes, others⟩, after⟩

theorem not_firstRefusal_nil (error : ValueError) : ¬ FirstRefusal [] error := by
  intro refused
  cases refused

/-! ## Computations that make checks -/

/-- A computation gives a value if all checks pass, and reports the first one
that fails otherwise. -/
structure Makes {α : Type} (computed : Except ValueError α) (checks : List Check) : Prop where
  accepts : (∀ check ∈ checks, check.Passes) → ∃ value, computed = .ok value
  refuses : ∀ error, FirstRefusal checks error → computed = .error error

section Makes

variable {α β : Type} {computed : Except ValueError α} {checks more : List Check}

theorem Makes.exists_eq_ok_iff (makes : Makes computed checks) :
    (∃ value, computed = .ok value) ↔ ∀ check ∈ checks, check.Passes := by
  constructor
  · intro succeeded
    obtain ⟨value, same⟩ := succeeded
    rcases passes_or_firstRefusal checks with passes | ⟨error, refused⟩
    · exact passes
    · rw [makes.refuses error refused] at same
      cases same
  · exact makes.accepts

theorem Makes.eq_error_iff (makes : Makes computed checks) {error : ValueError} :
    computed = .error error ↔ FirstRefusal checks error := by
  constructor
  · intro failed
    rcases passes_or_firstRefusal checks with passes | ⟨found, refused⟩
    · obtain ⟨value, succeeded⟩ := makes.accepts passes
      rw [failed] at succeeded
      cases succeeded
    · have same := makes.refuses found refused
      rw [failed] at same
      cases same
      exact refused
  · exact makes.refuses error

theorem makes_ok (value : α) : Makes (.ok value) [] :=
  ⟨fun _ => ⟨value, rfl⟩, fun error refused => (not_firstRefusal_nil error refused).elim⟩

/-- A single check, by what it passes and what it refuses. -/
theorem makes_check {check : Check} (accepts : check.Passes → ∃ value, computed = .ok value)
    (refuses : ∀ error, check.Refuses error → computed = .error error) :
    Makes computed [check] := by
  refine ⟨fun passes => accepts (passes check List.mem_cons_self), ?_⟩
  intro error refused
  cases refused with
  | here here => exact refuses error here
  | there _ later => exact (not_firstRefusal_nil error later).elim

theorem Makes.bind {next : α → Except ValueError β} (first : Makes computed checks)
    (second : ∀ value, computed = .ok value → Makes (next value) more) :
    Makes (computed >>= next) (checks ++ more) := by
  constructor
  · intro passes
    obtain ⟨here, later⟩ := List.forall_mem_append.mp passes
    obtain ⟨value, reached⟩ := first.accepts here
    rw [reached, ok_bind]
    exact (second value reached).accepts later
  · intro error refused
    rcases refused.of_append with here | ⟨passes, later⟩
    · rw [first.refuses error here]
      rfl
    · obtain ⟨value, reached⟩ := first.accepts passes
      rw [reached, ok_bind]
      exact (second value reached).refuses error later

theorem Makes.map (makes : Makes computed checks) (function : α → β) :
    Makes (computed.map function) checks := by
  constructor
  · intro passes
    obtain ⟨value, reached⟩ := makes.accepts passes
    exact ⟨function value, by rw [reached]; rfl⟩
  · intro error refused
    rw [makes.refuses error refused]
    rfl

/-- A last step that only puts the value to use makes no check. -/
theorem Makes.bind_ok (makes : Makes computed checks) (function : α → β) :
    Makes (computed >>= fun value => .ok (function value)) checks := by
  rw [← List.append_nil checks]
  exact makes.bind fun value _ => makes_ok (function value)

theorem makes_mapM {step : α → Except ValueError β} {checksOf : α → List Check}
    (each : ∀ item, Makes (step item) (checksOf item)) (items : List α) :
    Makes (items.mapM step) (items.flatMap checksOf) := by
  induction items with
  | nil => exact makes_ok []
  | cons item items induction =>
      rw [List.mapM_cons, List.flatMap_cons]
      exact (each item).bind fun value _ => induction.bind_ok (value :: ·)

theorem makes_mapM_check {step : α → Except ValueError β} {checkOf : α → Check}
    (each : ∀ item, Makes (step item) [checkOf item]) (items : List α) :
    Makes (items.mapM step) (items.map checkOf) := by
  rw [List.map_eq_flatMap]
  exact makes_mapM each items

end Makes

/-! ## Checks of fields -/

theorem makes_wordField (width number : Nat) (value : Int) :
    Makes (wordField width number value) [.word width value] := by
  apply makes_check
  · intro passes
    exact ⟨_, wordField_eq_ok_iff.mpr ⟨passes, rfl⟩⟩
  · intro error refuses
    cases refuses with
    | word unfit =>
        cases outcome : wordField width number value with
        | ok field => exact (unfit (wordField_eq_ok_iff.mp outcome).1).elim
        | error reported =>
            unfold wordField checkWord at outcome
            split at outcome
            · cases outcome
            · cases outcome
              rfl

theorem makes_enumeratorField {known : Int → Bool} {least greatest : Int}
    (members : ∀ code, known code = true ↔ least ≤ code ∧ code ≤ greatest)
    (nonnegative : 0 ≤ least) (small : greatest < 0x80000000) (number : Nat) (value : Int) :
    Makes (enumeratorField known number value) [.enumerator least greatest value] := by
  have inRange : ∀ code, known code = true → 0 ≤ code ∧ code < 0x80000000 := by
    intro code member
    have bounds := (members code).mp member
    omega
  apply makes_check
  · intro passes
    exact ⟨_, (enumeratorField_eq_ok_iff inRange).mpr ⟨(members value).mpr passes, rfl⟩⟩
  · intro error refuses
    unfold enumeratorField checkEnumerator
    cases refuses with
    | enumeratorRange far =>
        rw [if_pos far]
        rfl
    | enumerator low high outside =>
        rw [if_neg (by omega), if_neg fun member => outside ((members value).mp member)]
        rfl

theorem makes_optionalWord (width number : Nat) (value : Option Int) :
    Makes (optionalWord width number value) (value.toList.map (.word width)) := by
  cases value with
  | none => exact makes_ok []
  | some present => exact (makes_wordField width number present).map _

/-- A string reference of zero is not stored, and zero fits its field. -/
theorem makes_stringReference (stringReference : Int) :
    Makes (optionalWord 32 3 (if stringReference = 0 then none else some stringReference))
      [.word 32 stringReference] := by
  by_cases zero : stringReference = 0
  · rw [if_pos zero]
    apply makes_check
    · intro _
      exact ⟨[], rfl⟩
    · intro error refuses
      cases refuses with
      | word unfit => exact (unfit (by norm_num [zero])).elim
  · rw [if_neg zero]
    exact makes_optionalWord 32 3 (some stringReference)

theorem makes_operandFields (instruction : Instruction) :
    Makes (operandFields instruction) (instruction.operands.toList.map .operands) := by
  unfold operandFields
  cases instruction.operands with
  | none => exact makes_ok _
  | some runs =>
      apply makes_check
      · intro passes
        obtain ⟨text, flattened⟩ := passes
        exact ⟨[textField 5 text], by simp only [flattened]⟩
      · intro error refuses
        cases refuses with
        | operands refused => simp only [refused]

theorem makes_commentFields (comment : Comment) :
    Makes (commentFields comment) [.flags comment] := by
  apply makes_check
  · intro passes
    exact ⟨_, (commentFields_eq_ok_iff comment _).mpr ⟨valid_iff_passes.mpr passes, rfl⟩⟩
  · intro error refuses
    cases refuses with
    | flags refused =>
        unfold commentFields
        rw [refused]

end Codec

/-! ## Checks of records -/

/-- The addresses, signatures and operands of an instruction, then its comments. -/
def Instruction.checks (instruction : Instruction) : List Codec.Check :=
  [.word 64 instruction.address, .word 32 instruction.prime,
    .word 32 instruction.stringReference] ++
      (instruction.operands.toList.map .operands ++
        (instruction.callTargets.map (.word 64) ++ instruction.comments.map .flags))

def BasicBlock.checks (block : BasicBlock) : List Codec.Check :=
  .word 64 block.prime :: block.instructions.flatMap Instruction.checks

def FlowGraph.Edge.checks (edge : FlowGraph.Edge) : List Codec.Check :=
  [.word 64 edge.source, .word 64 edge.target, .enumerator 1 4 edge.kind]

def FlowGraph.checks (graph : FlowGraph) : List Codec.Check :=
  .word 64 graph.address ::
    (graph.blocks.flatMap BasicBlock.checks ++ graph.edges.flatMap FlowGraph.Edge.checks)

def CallGraph.Vertex.checks (vertex : CallGraph.Vertex) : List Codec.Check :=
  [.word 64 vertex.address, .word 64 vertex.prime, .enumerator 0 4 vertex.kind]

def CallGraph.Edge.checks (edge : CallGraph.Edge) : List Codec.Check :=
  [.word 64 edge.sourceFunction, .word 64 edge.sourceInstruction, .word 64 edge.target]

def CallGraph.checks (graph : CallGraph) : List Codec.Check :=
  graph.vertices.flatMap CallGraph.Vertex.checks ++ graph.edges.flatMap CallGraph.Edge.checks

/-- The numbers of a metadata record in the order of their fields. -/
def Meta.numbers (metadata : Meta) : List (Option Int) :=
  [metadata.addressSpace, metadata.maxMnemonicLength, metadata.numInstructions,
    metadata.numFunctions, metadata.numBasicBlocks, metadata.numEdges]

def Meta.checks (metadata : Meta) : List Codec.Check :=
  metadata.numbers.flatMap fun number => number.toList.map (.word 32)

/-- A flow graph has blocks, each with instructions, and all of its values fit. -/
structure FlowGraph.WellFormed (graph : FlowGraph) : Prop where
  blocks_ne_nil : graph.blocks ≠ []
  instructions_ne_nil : ∀ block ∈ graph.blocks, block.instructions ≠ []
  values : ∀ check ∈ graph.checks, check.Passes

/-- The fault of a flow graph that a refusal reports: missing blocks, else the
first block without instructions, else the first value that does not fit. -/
inductive FlowGraph.FirstFault (graph : FlowGraph) : Codec.EncodeError → Prop
  | noBlocks : graph.blocks = [] → graph.FirstFault (.noBlocks graph.address)
  | emptyBlock {position : Nat} (inside : position < graph.blocks.length) :
      graph.blocks[position].instructions = [] →
      (∀ earlier (before : earlier < position), graph.blocks[earlier].instructions ≠ []) →
      graph.FirstFault (.emptyBlock graph.address position)
  | value {error : Codec.ValueError} :
      graph.blocks ≠ [] → (∀ block ∈ graph.blocks, block.instructions ≠ []) →
      Codec.FirstRefusal graph.checks error →
      graph.FirstFault (.flowGraph graph.address error)

namespace Codec

theorem makes_instructionFields (instruction : Instruction) :
    Makes (instructionFields instruction) instruction.checks := by
  unfold instructionFields
  refine (makes_wordField 64 1 _).bind fun _ _ => ?_
  refine (makes_wordField 32 2 _).bind fun _ _ => ?_
  refine (makes_stringReference _).bind fun _ _ => ?_
  refine (makes_operandFields instruction).bind fun _ _ => ?_
  refine (makes_mapM_check (makes_wordField 64 7) _).bind fun _ _ => ?_
  exact (makes_mapM_check makes_commentFields _).bind_ok _

theorem makes_blockFields (block : BasicBlock) : Makes (blockFields block) block.checks := by
  unfold blockFields
  refine (makes_wordField 64 1 _).bind fun _ _ => ?_
  exact (makes_mapM makes_instructionFields _).bind_ok _

theorem makes_branchFields (edge : FlowGraph.Edge) : Makes (branchFields edge) edge.checks := by
  unfold branchFields
  refine (makes_wordField 64 1 _).bind fun _ _ => ?_
  refine (makes_wordField 64 2 _).bind fun _ _ => ?_
  exact (makes_enumeratorField (fun _ => isBranchKind_iff) (by decide) (by decide) 3 _).bind_ok _

theorem makes_flowGraphFields (graph : FlowGraph) :
    Makes (flowGraphFields graph) graph.checks := by
  unfold flowGraphFields
  refine (makes_wordField 64 1 _).bind fun _ _ => ?_
  refine (makes_mapM makes_blockFields _).bind fun _ _ => ?_
  exact (makes_mapM makes_branchFields _).bind_ok _

theorem makes_vertexFields (vertex : CallGraph.Vertex) :
    Makes (vertexFields vertex) vertex.checks := by
  unfold vertexFields
  refine (makes_wordField 64 1 _).bind fun _ _ => ?_
  refine (makes_wordField 64 2 _).bind fun _ _ => ?_
  exact (makes_enumeratorField (fun _ => isFunctionKind_iff) (by decide) (by decide) 3 _).bind_ok _

theorem makes_callFields (edge : CallGraph.Edge) : Makes (callFields edge) edge.checks := by
  unfold callFields
  refine (makes_wordField 64 1 _).bind fun _ _ => ?_
  refine (makes_wordField 64 2 _).bind fun _ _ => ?_
  exact (makes_wordField 64 3 _).bind_ok _

theorem makes_callGraphFields (graph : CallGraph) :
    Makes (callGraphFields graph) graph.checks := by
  unfold callGraphFields
  refine (makes_mapM makes_vertexFields _).bind fun _ _ => ?_
  exact (makes_mapM makes_callFields _).bind_ok _

theorem makes_metadataFields (metadata : Meta) :
    Makes (metadataFields metadata) metadata.checks := by
  unfold metadataFields
  refine (makes_optionalWord 32 3 _).bind fun _ _ => ?_
  refine (makes_optionalWord 32 5 _).bind fun _ _ => ?_
  refine (makes_optionalWord 32 6 _).bind fun _ _ => ?_
  refine (makes_optionalWord 32 7 _).bind fun _ _ => ?_
  refine (makes_optionalWord 32 8 _).bind fun _ _ => ?_
  exact (makes_optionalWord 32 9 _).bind fun _ _ => makes_ok _

/-! ## Encoders -/

section Written

variable {computed : Except ValueError (List Field)} {checks : List Check}
  (makes : Makes computed checks) (wrap : ValueError → EncodeError)
include makes

theorem Makes.written_iff :
    (∃ payload, (computed.map Wire.encodeFields).mapError wrap = .ok payload) ↔
      ∀ check ∈ checks, check.Passes := by
  simp only [mapError_eq_ok_iff]
  rw [exists_map_eq_ok_iff]
  exact makes.exists_eq_ok_iff

theorem Makes.refused_iff {error : EncodeError} :
    (computed.map Wire.encodeFields).mapError wrap = .error error ↔
      ∃ cause, FirstRefusal checks cause ∧ error = wrap cause := by
  simp only [mapError_eq_error_iff, map_eq_error_iff, makes.eq_error_iff]

end Written

theorem checkBlocks_eq_error_iff {graph : FlowGraph} {error : EncodeError} :
    checkBlocks graph = .error error ↔
      graph.blocks = [] ∧ error = .noBlocks graph.address ∨
        ∃ (position : Nat) (inside : position < graph.blocks.length),
          graph.blocks[position].instructions = [] ∧
            (∀ earlier (before : earlier < position), graph.blocks[earlier].instructions ≠ []) ∧
              error = .emptyBlock graph.address position := by
  have first : ∀ position, graph.blocks.findIdx? (·.instructions.isEmpty) = some position ↔
      ∃ inside : position < graph.blocks.length, graph.blocks[position].instructions = [] ∧
        ∀ earlier (before : earlier < position), graph.blocks[earlier].instructions ≠ [] := by
    intro position
    simp only [List.findIdx?_eq_some_iff_getElem, List.isEmpty_iff, ne_eq]
  unfold checkBlocks
  by_cases empty : graph.blocks = []
  · rw [if_pos (by simpa using empty), Except.error.injEq]
    constructor
    · intro same
      exact .inl ⟨empty, same.symm⟩
    · intro described
      rcases described with ⟨_, rfl⟩ | ⟨_, inside, _⟩
      · rfl
      · simp [empty] at inside
  · rw [if_neg (by simpa using empty)]
    constructor
    · intro failed
      cases found : graph.blocks.findIdx? (·.instructions.isEmpty) with
      | none =>
          rw [found] at failed
          cases failed
      | some position =>
          rw [found] at failed
          cases failed
          obtain ⟨inside, hollow, full⟩ := (first position).mp found
          exact .inr ⟨position, inside, hollow, full, rfl⟩
    · intro described
      rcases described with ⟨impossible, _⟩ | ⟨position, inside, hollow, full, rfl⟩
      · exact (empty impossible).elim
      · rw [(first position).mpr ⟨inside, hollow, full⟩]

theorem encodeFlowGraph_accepts_iff {graph : FlowGraph} :
    (∃ payload, encodeFlowGraph graph = .ok payload) ↔ graph.WellFormed := by
  have values := (makes_flowGraphFields graph).written_iff (.flowGraph graph.address)
  simp only [encodeFlowGraph_eq, bind_eq_ok_iff, checkBlocks_eq_ok_iff]
  constructor
  · intro written
    obtain ⟨payload, _, ⟨nonempty, full⟩, stored⟩ := written
    exact ⟨nonempty, full, values.mp ⟨payload, stored⟩⟩
  · intro formed
    obtain ⟨payload, stored⟩ := values.mpr formed.values
    exact ⟨payload, (), ⟨formed.blocks_ne_nil, formed.instructions_ne_nil⟩, stored⟩

theorem encodeFlowGraph_eq_error_iff {graph : FlowGraph} {error : EncodeError} :
    encodeFlowGraph graph = .error error ↔ graph.FirstFault error := by
  rw [encodeFlowGraph_eq, bind_eq_error_iff]
  simp only [checkBlocks_eq_error_iff, checkBlocks_eq_ok_iff,
    (makes_flowGraphFields graph).refused_iff]
  constructor
  · intro failed
    rcases failed with (⟨empty, rfl⟩ | ⟨position, inside, hollow, full, rfl⟩) |
      ⟨_, ⟨nonempty, full⟩, cause, refused, rfl⟩
    · exact .noBlocks empty
    · exact .emptyBlock inside hollow full
    · exact .value nonempty full refused
  · intro fault
    cases fault with
    | noBlocks empty => exact .inl (.inl ⟨empty, rfl⟩)
    | emptyBlock inside hollow full => exact .inl (.inr ⟨_, inside, hollow, full, rfl⟩)
    | value nonempty full refused => exact .inr ⟨(), ⟨nonempty, full⟩, _, refused, rfl⟩

/-- Exactly the records whose values all fit are written.  Any other record is
refused for its first fault, which the refusal names. -/
theorem encoders_accept_exactly :
    (∀ graph : FlowGraph,
      ((∃ payload, encodeFlowGraph graph = .ok payload) ↔ graph.WellFormed) ∧
        ∀ error, encodeFlowGraph graph = .error error ↔ graph.FirstFault error) ∧
      (∀ graph : CallGraph,
        ((∃ payload, encodeCallGraph graph = .ok payload) ↔
          ∀ check ∈ graph.checks, check.Passes) ∧
          ∀ error, encodeCallGraph graph = .error error ↔
            ∃ cause, FirstRefusal graph.checks cause ∧ error = .callGraph cause) ∧
        ∀ metadata : Meta,
          ((∃ payload, encodeMetadata metadata = .ok payload) ↔
            ∀ check ∈ metadata.checks, check.Passes) ∧
            ∀ error, encodeMetadata metadata = .error error ↔
              ∃ cause, FirstRefusal metadata.checks cause ∧ error = .metadata cause := by
  refine ⟨?_, ?_, ?_⟩
  · intro graph
    exact ⟨encodeFlowGraph_accepts_iff, fun _ => encodeFlowGraph_eq_error_iff⟩
  · intro graph
    have makes := makes_callGraphFields graph
    rw [encodeCallGraph_eq]
    exact ⟨makes.written_iff _, fun _ => makes.refused_iff _⟩
  · intro metadata
    have makes := makes_metadataFields metadata
    rw [encodeMetadata_eq]
    exact ⟨makes.written_iff _, fun _ => makes.refused_iff _⟩

/-- The first instruction has a comment of an unknown kind, the second one
operands of an unknown kind, and the branch leads to a negative address. -/
def faultyFlowGraph : FlowGraph where
  address := 1
  blocks := [{
    prime := 7
    instructions := [
      { address := 1, prime := 3, operands := some [⟨none, "eax"⟩],
        comments := [{ text := "", kind := 8 }] },
      { address := 2, prime := 4, operands := some [⟨some 13, ""⟩] }] }]
  edges := [⟨1, -1, 3⟩]

/-- The comment comes first, so it is the fault that is reported. -/
theorem faultyFlowGraph_refused :
    encodeFlowGraph faultyFlowGraph = .error (.flowGraph 1 (.flags (.kind 8))) ∧
      ¬ faultyFlowGraph.WellFormed := by
  obtain ⟨accepts, refuses⟩ := encoders_accept_exactly.1 faultyFlowGraph
  have word : ∀ {width : Nat} {value : Int}, 3 ≤ width → 0 ≤ value → value < 2 ^ 3 →
      (Check.word width value).Passes := by
    intro width value wide nonnegative small
    exact Fits.widen ⟨nonnegative, small⟩ wide
  have operands : (Check.operands [⟨none, "eax"⟩]).Passes := ⟨"eax", rfl⟩
  have refused : FirstRefusal faultyFlowGraph.checks (.flags (.kind 8)) := by
    refine .there (word (by decide) (by decide) (by decide)) ?_
    refine .there (word (by decide) (by decide) (by decide)) ?_
    refine .there (word (by decide) (by decide) (by decide)) ?_
    refine .there (word (by decide) (by decide) (by decide)) ?_
    refine .there (word (by decide) (by decide) (by decide)) ?_
    refine .there operands ?_
    exact .here (.flags rfl)
  have failed := (refuses _).mpr (.value (by decide) (by decide) refused)
  refine ⟨failed, fun formed => ?_⟩
  obtain ⟨payload, written⟩ := accepts.mpr formed
  rw [failed] at written
  cases written

end Codec

end CodeGraph
