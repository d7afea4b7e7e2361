import CodeGraph.Logging.Warning
import CodeGraph.Proofs.DecodedFlowGraph
import Mathlib

/-!
# Strict and lenient reading

Both ways of reading walk over the same messages, and they run alike until some
operand text cannot be split.  There strict reading stops, while lenient reading
gives its first warning, keeps the text and goes on.
-/

namespace CodeGraph

/-- The instructions of a flow graph, block after block. -/
def FlowGraph.instructions (graph : FlowGraph) : List Instruction :=
  graph.blocks.flatMap (·.instructions)

namespace Codec

/-! ## Two readings side by side -/

/-- How a strict and a lenient reading end that both started after the given
warnings: alike and without a warning, or else with a refusal of the strict one
for the text that the lenient one warns of first. -/
inductive Modes {α : Type} (given : List Warning) :
    Except DecodeError α × List Warning → Except DecodeError α × List Warning → Prop where
  | alike (outcome : Except DecodeError α) : Modes given (outcome, given) (outcome, given)
  | stopped (address : Nat) (fault : Markup.DecodeError) (further : List Warning)
      (outcome : Except DecodeError α) :
      Modes given (.error (.operands address fault), given)
        (outcome, given ++ ⟨address, fault.position⟩ :: further)

section Modes

variable {α : Type} {given : List Warning} {strict lenient : Except DecodeError α × List Warning}
  (modes : Modes given strict lenient)
include modes

theorem Modes.after_lenient : ∃ further, lenient.2 = given ++ further := by
  cases modes with
  | alike outcome => exact ⟨[], (List.append_nil given).symm⟩
  | stopped address fault further outcome => exact ⟨_, rfl⟩

theorem Modes.after_strict : strict.2 = given := by
  cases modes with
  | alike outcome => rfl
  | stopped address fault further outcome => rfl

theorem Modes.strict_eq_ok_iff {value : α} :
    strict.1 = .ok value ↔ lenient = (.ok value, given) := by
  cases modes with
  | alike outcome =>
      constructor
      · intro returned
        exact Prod.ext returned rfl
      · exact congrArg Prod.fst
  | stopped address fault further outcome =>
      constructor
      · intro impossible
        cases impossible
      · intro same
        have longer := congrArg (fun ending => ending.2.length) same
        simp at longer

theorem Modes.strict_eq_error {error : DecodeError} (refused : strict.1 = .error error) :
    lenient = (.error error, given) ∨ ∃ address fault further,
      error = .operands address fault ∧
        lenient.2 = given ++ ⟨address, fault.position⟩ :: further := by
  cases modes with
  | alike outcome => exact .inl (Prod.ext refused rfl)
  | stopped address fault further outcome =>
      cases refused
      exact .inr ⟨address, fault, further, rfl, rfl⟩

end Modes

/-- Two readings that are each other's strict and lenient form. -/
def Parallel {α : Type} (strict lenient : Reading α) : Prop :=
  ∀ given, Modes given (strict.run.run given) (lenient.run.run given)

section Parallel

variable {α β : Type}

theorem parallel_lift (checked : Except DecodeError α) :
    Parallel (liftM checked) (liftM checked) := by
  intro given
  cases checked with
  | error error => exact .alike _
  | ok value => exact .alike _

theorem parallel_pure (value : α) : Parallel (pure value) (pure value) :=
  parallel_lift (.ok value)

theorem parallel_bind {strict lenient : Reading α} {next continued : α → Reading β}
    (firsts : Parallel strict lenient) (nexts : ∀ value, Parallel (next value) (continued value)) :
    Parallel (strict >>= next) (lenient >>= continued) := by
  intro given
  have first := firsts given
  simp only [ExceptT.run_bind, StateT.run_bind]
  generalize strict.run.run given = strictly at first ⊢
  generalize lenient.run.run given = leniently at first ⊢
  cases first with
  | alike outcome =>
      cases outcome with
      | error error => exact .alike _
      | ok value => exact nexts value given
  | stopped address fault further outcome =>
      cases outcome with
      | error error => exact .stopped address fault further _
      | ok value =>
          -- Whatever is read from here on only adds to the warnings.
          obtain ⟨last, after⟩ :=
            (nexts value (given ++ ⟨address, fault.position⟩ :: further)).after_lenient
          have stops : Modes given _ _ := .stopped address fault (further ++ last)
            ((continued value).run.run (given ++ ⟨address, fault.position⟩ :: further)).1
          rw [← List.cons_append, ← List.append_assoc, ← after] at stops
          exact stops

theorem parallel_guard {condition : Prop} [Decidable condition] (error : DecodeError)
    {skipped continued : PUnit → Reading α} {strict lenient : Reading α}
    (nexts : Parallel strict lenient) :
    Parallel (if condition then throw error >>= skipped else strict)
      (if condition then throw error >>= continued else lenient) := by
  by_cases holds : condition
  · rw [if_pos holds, if_pos holds]
    intro given
    exact .alike (.error error)
  · rw [if_neg holds, if_neg holds]
    exact nexts

theorem parallel_mapM {strict lenient : α → Reading β}
    (steps : ∀ item, Parallel (strict item) (lenient item)) (items : List α) :
    Parallel (items.mapM strict) (items.mapM lenient) := by
  induction items with
  | nil =>
      rw [List.mapM_nil, List.mapM_nil]
      exact parallel_pure []
  | cons item items induction =>
      rw [List.mapM_cons, List.mapM_cons]
      refine parallel_bind (steps item) fun value => ?_
      exact parallel_bind induction fun values => parallel_pure _

end Parallel

/-- The one place where the two ways of reading part. -/
theorem parallel_readOperands (address : Nat) (stored : Option Bytes) :
    Parallel (readOperands true address stored) (readOperands false address stored) := by
  cases stored with
  | none => exact parallel_pure _
  | some stored =>
      unfold readOperands
      cases split : splitOperands stored with
      | ok runs =>
          simp only [split]
          exact parallel_pure _
      | error fault =>
          simp only [split]
          intro given
          exact .stopped address fault [] _

theorem parallel_instructionOfMessage (message : InstructionMessage) :
    Parallel (instructionOfMessage true message) (instructionOfMessage false message) := by
  unfold instructionOfMessage
  refine parallel_bind (parallel_readOperands _ _) fun operands => ?_
  refine parallel_bind (parallel_lift _) fun mnemonic => ?_
  exact parallel_bind (parallel_lift _) fun comments => parallel_pure _

theorem parallel_blockOfMessage (address position : Nat) (message : BlockMessage) :
    Parallel (blockOfMessage true address position message)
      (blockOfMessage false address position message) := by
  unfold blockOfMessage
  refine parallel_guard _ ?_
  refine parallel_bind (parallel_mapM parallel_instructionOfMessage _) fun instructions => ?_
  exact parallel_pure _

theorem parallel_flowGraphOfMessage (message : FlowGraphMessage) :
    Parallel (flowGraphOfMessage true message) (flowGraphOfMessage false message) := by
  unfold flowGraphOfMessage
  refine parallel_guard _ ?_
  refine parallel_bind (parallel_mapM (fun item => ?_) _) fun blocks => parallel_pure _
  exact parallel_blockOfMessage _ item.2 item.1

theorem modes_decodeFlowGraph (payload : Bytes) :
    Modes [] (decodeFlowGraph true payload) (decodeFlowGraph false payload) := by
  unfold decodeFlowGraph
  cases parseFlowGraph payload with
  | none => exact .alike _
  | some message =>
      simp only
      split
      · exact parallel_flowGraphOfMessage message []
      · exact .alike _

theorem warnings_decodeFlowGraph_strict (payload : Bytes) :
    (decodeFlowGraph true payload).2 = [] :=
  (modes_decodeFlowGraph payload).after_strict

/-- What strict reading returns, lenient reading returns as well. -/
theorem decodeFlowGraph_false_of_ok {strict : Bool} {payload : Bytes} {graph : FlowGraph}
    (returned : (decodeFlowGraph strict payload).1 = .ok graph) :
    (decodeFlowGraph false payload).1 = .ok graph := by
  cases strict with
  | false => exact returned
  | true =>
      rw [(modes_decodeFlowGraph payload).strict_eq_ok_iff.mp returned]

/-! ## What lenient reading warns of -/

/-- A warning is about an instruction whose operand text could not be split: it
names the instruction and the place of the fault, and the text is kept. -/
structure Warning.Reports (warning : Warning) (instruction : Instruction) : Prop where
  address : (warning.address : Int) = instruction.address
  operands : instruction.operands = none
  kept : ∃ stored fault, splitOperands stored = .error fault ∧
    instruction.rawOperands =
      some (String.ofList (Utf8.decodeCharsLossy escapeByte stored)) ∧
    warning.event = {
      level := .warning
      name := "operand_markup_undecodable"
      fields := [("address", .text (Hex.ofInt instruction.address)),
        ("position", .integer fault.position)] }

/-- The warnings are one for each instruction that keeps its operand text. -/
def Accounts (warnings : List Warning) (instructions : List Instruction) : Prop :=
  List.Forall₂ Warning.Reports warnings (instructions.filter (·.rawOperands.isSome))

theorem accounts_nil : Accounts [] [] := .nil

theorem Accounts.append {warnings others : List Warning} {instructions rest : List Instruction}
    (first : Accounts warnings instructions) (second : Accounts others rest) :
    Accounts (warnings ++ others) (instructions ++ rest) := by
  unfold Accounts
  rw [List.filter_append]
  exact List.rel_append first second

section Adds

variable {α β : Type}

theorem adds_guard {condition : Prop} [Decidable condition] {error : DecodeError}
    {skipped : PUnit → Reading α} {next : Reading α} {described : α → List Warning → Prop}
    (nextAdds : Adds next described) :
    Adds (if condition then throw error >>= skipped else next) described := by
  by_cases holds : condition
  · rw [if_pos holds]
    intro given value after returned
    cases returned
  · rw [if_neg holds]
    exact nextAdds

/-- The warnings of all steps account for the instructions of all results. -/
theorem adds_mapM {step : α → Reading β} {parts : β → List Instruction}
    (steps : ∀ item, Adds (step item) fun value added => Accounts added (parts value))
    (items : List α) :
    Adds (items.mapM step) fun values added => Accounts added (values.flatMap parts) := by
  induction items with
  | nil =>
      rw [List.mapM_nil]
      exact adds_pure accounts_nil
  | cons item items induction =>
      rw [List.mapM_cons]
      refine adds_bind (steps item) fun value earlier first => ?_
      refine adds_bind induction fun values later rest => adds_pure ?_
      rw [List.flatMap_cons, List.append_nil]
      exact first.append rest

end Adds

/-- What the operand text of the instruction at an address is read as, with the
warnings for it. -/
inductive OperandsRead (address : Nat) : Operands → List Warning → Prop where
  | split {operands : Operands} : operands.raw? = none → OperandsRead address operands []
  | kept {stored : Bytes} {fault : Markup.DecodeError} : splitOperands stored = .error fault →
      OperandsRead address (.raw (String.ofList (Utf8.decodeCharsLossy escapeByte stored)))
        [⟨address, fault.position⟩]

theorem adds_readOperands (address : Nat) (stored : Option Bytes) :
    Adds (readOperands false address stored) (OperandsRead address) := by
  cases stored with
  | none => exact adds_pure (.split rfl)
  | some stored =>
      unfold readOperands
      cases split : splitOperands stored with
      | ok runs =>
          simp only [split]
          exact adds_pure (.split rfl)
      | error fault =>
          simp only [split]
          refine adds_bind (adds_warn _) fun _ earlier warned => adds_pure ?_
          rw [warned]
          exact .kept split

theorem OperandsRead.accounts {instruction : Instruction} {address : Nat} {operands : Operands}
    {added : List Warning} (read : OperandsRead address operands added)
    (place : instruction.address = address) (runs : instruction.operands = operands.runs?)
    (raw : instruction.rawOperands = operands.raw?) : Accounts added [instruction] := by
  unfold Accounts
  cases read with
  | split none =>
      rw [List.filter_cons_of_neg (by simp [raw, none])]
      exact .nil
  | kept refused =>
      rw [List.filter_cons_of_pos (by simp [raw, Operands.raw?])]
      refine .cons ⟨place.symm, runs, _, _, refused, raw, ?_⟩ .nil
      rw [place]
      rfl

theorem adds_instructionOfMessage (message : InstructionMessage) :
    Adds (instructionOfMessage false message) fun instruction added =>
      Accounts added [instruction] := by
  unfold instructionOfMessage
  refine adds_bind (adds_readOperands _ _) fun operands earlier read => ?_
  refine adds_lift_bind fun mnemonic _ => adds_lift_bind fun comments _ => adds_pure ?_
  rw [List.append_nil]
  exact read.accounts rfl rfl rfl

theorem adds_blockOfMessage (address position : Nat) (message : BlockMessage) :
    Adds (blockOfMessage false address position message) fun block added =>
      Accounts added block.instructions := by
  unfold blockOfMessage
  refine adds_guard (adds_bind (adds_mapM adds_instructionOfMessage _) ?_)
  intro instructions added accounted
  refine adds_pure ?_
  rw [List.append_nil]
  rwa [List.flatMap_singleton'] at accounted

theorem adds_flowGraphOfMessage (message : FlowGraphMessage) :
    Adds (flowGraphOfMessage false message) fun graph added =>
      Accounts added graph.instructions := by
  unfold flowGraphOfMessage
  have blocks := adds_mapM (fun item : BlockMessage × Nat =>
    adds_blockOfMessage (word 1 message.fields) item.2 item.1) message.blocks.zipIdx
  refine adds_guard (adds_bind blocks ?_)
  intro blocks added accounted
  refine adds_pure ?_
  rw [List.append_nil]
  exact accounted

theorem accounts_of_decodeFlowGraph {payload : Bytes} {graph : FlowGraph}
    (decoded : (decodeFlowGraph false payload).1 = .ok graph) :
    Accounts (decodeFlowGraph false payload).2 graph.instructions := by
  obtain ⟨message, _, run⟩ := message_of_decodeFlowGraph decoded
  obtain ⟨added, same, accounted⟩ := adds_flowGraphOfMessage message [] graph _
    (run.symm.trans (Prod.ext decoded rfl))
  have warnings : (decodeFlowGraph false payload).2 = added := same
  rw [warnings]
  exact accounted

/-- No operand text is kept exactly when there is no warning. -/
theorem Accounts.nil_iff {warnings : List Warning} {instructions : List Instruction}
    (accounted : Accounts warnings instructions) :
    warnings = [] ↔ ∀ instruction ∈ instructions, instruction.rawOperands = none := by
  have lengths : warnings.length = (instructions.filter (·.rawOperands.isSome)).length :=
    List.Forall₂.length_eq accounted
  rw [← List.length_eq_zero_iff, lengths, List.length_eq_zero_iff, List.filter_eq_nil_iff]
  simp

/-! ## Both together -/

/-- Strict reading returns what lenient reading returns without a text that was
kept, and it refuses all else: as lenient reading does where that gives no
warning, and for the first text that was warned of where it does. -/
theorem strict_reading_iff_no_text_kept (payload : Bytes) :
    (∀ graph, (decodeFlowGraph true payload).1 = .ok graph ↔
      (decodeFlowGraph false payload).1 = .ok graph ∧
        ∀ instruction ∈ graph.instructions, instruction.rawOperands = none) ∧
    ((¬∃ graph, (decodeFlowGraph false payload).1 = .ok graph ∧
        ∀ instruction ∈ graph.instructions, instruction.rawOperands = none) →
      ∃ error, (decodeFlowGraph true payload).1 = .error error ∧
        (decodeFlowGraph false payload = (.error error, []) ∨
          ∃ address fault further, error = .operands address fault ∧
            (decodeFlowGraph false payload).2 = ⟨address, fault.position⟩ :: further)) ∧
    ∀ graph, (decodeFlowGraph false payload).1 = .ok graph →
      List.Forall₂ Warning.Reports (decodeFlowGraph false payload).2
        (graph.instructions.filter (·.rawOperands.isSome)) := by
  have modes := modes_decodeFlowGraph payload
  have accounted : ∀ graph, (decodeFlowGraph false payload).1 = .ok graph →
      Accounts (decodeFlowGraph false payload).2 graph.instructions :=
    fun _ => accounts_of_decodeFlowGraph
  have agrees : ∀ graph, (decodeFlowGraph true payload).1 = .ok graph ↔
      (decodeFlowGraph false payload).1 = .ok graph ∧
        ∀ instruction ∈ graph.instructions, instruction.rawOperands = none := by
    intro graph
    rw [modes.strict_eq_ok_iff]
    constructor
    · intro same
      have returned := congrArg Prod.fst same
      exact ⟨returned, (accounted graph returned).nil_iff.mp (congrArg Prod.snd same)⟩
    · intro kept
      obtain ⟨returned, none⟩ := kept
      exact Prod.ext returned ((accounted graph returned).nil_iff.mpr none)
  refine ⟨agrees, ?_, accounted⟩
  intro other
  cases outcome : (decodeFlowGraph true payload).1 with
  | ok graph => exact (other ⟨graph, (agrees graph).mp outcome⟩).elim
  | error error => exact ⟨error, rfl, modes.strict_eq_error outcome⟩

/-- The only instruction of the payload has operand text with an unknown marker. -/
theorem strict_reading_foreignPayload :
    (∃ fault, (decodeFlowGraph true foreignPayload).1 = .error (.operands 5 fault)) ∧
      List.Forall₂ Warning.Reports (decodeFlowGraph false foreignPayload).2
        foreignFlowGraph.instructions := by
  obtain ⟨_, refused, warned⟩ := strict_reading_iff_no_text_kept foreignPayload
  have reported := warned foreignFlowGraph decode_foreignPayload
  refine ⟨?_, reported⟩
  have kept : ¬∃ graph, (decodeFlowGraph false foreignPayload).1 = .ok graph ∧
      ∀ instruction ∈ graph.instructions, instruction.rawOperands = none := by
    rintro ⟨graph, read, none⟩
    rw [decode_foreignPayload, Except.ok.injEq] at read
    subst read
    cases none _ List.mem_cons_self
  obtain ⟨error, stopped, same | ⟨address, fault, further, rfl, first⟩⟩ := refused kept
  · have read := decode_foreignPayload
    rw [same] at read
    cases read
  · rw [first] at reported
    obtain ⟨report, _⟩ := List.forall₂_cons.mp reported
    obtain rfl : address = 5 := Int.ofNat.inj report.address
    exact ⟨fault, stopped⟩

end Codec

end CodeGraph
