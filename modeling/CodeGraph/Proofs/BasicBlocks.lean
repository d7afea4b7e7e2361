import CodeGraph.Proofs.BlockPartition
import CodeGraph.Proofs.InstructionStream
import Mathlib

/-!
# Where blocks start and end

Instructions are cut before every leader and nowhere else.  Leaders are what
jumps lead to and what stands behind the end of a block, so control enters a
block at its first instruction only and leaves it at its last one only.
-/

namespace CodeGraph.Disassembly

/-! ## Cutting at leaders -/

section Cutting

variable {leaders : List Int}

theorem exists_cutAt_cons (leaders : List Int) (insn : DecodedInsn) (rest : List DecodedInsn) :
    ∃ block blocks, cutAt leaders (insn :: rest) = (insn :: block) :: blocks := by
  rw [cutAt]
  split
  · split
    · exact ⟨_, _, rfl⟩
    · exact ⟨_, _, rfl⟩
  · exact ⟨_, _, rfl⟩

theorem cutAt_of_leader (insn : DecodedInsn) {next : DecodedInsn} {rest : List DecodedInsn}
    (leader : next.address ∈ leaders) :
    cutAt leaders (insn :: next :: rest) = [insn] :: cutAt leaders (next :: rest) := by
  obtain ⟨block, blocks, cut⟩ := exists_cutAt_cons leaders next rest
  rw [cutAt, cut]
  simp only [List.contains_iff_mem.mpr leader, if_true]

theorem cutAt_of_not_leader (insn : DecodedInsn) {next : DecodedInsn} {rest : List DecodedInsn}
    (notLeader : next.address ∉ leaders) :
    ∃ block blocks, cutAt leaders (next :: rest) = (next :: block) :: blocks ∧
      cutAt leaders (insn :: next :: rest) = (insn :: next :: block) :: blocks := by
  obtain ⟨block, blocks, cut⟩ := exists_cutAt_cons leaders next rest
  refine ⟨block, blocks, cut, ?_⟩
  have absent : leaders.contains next.address = false := by simpa using notLeader
  rw [cutAt, cut]
  simp only [absent, Bool.false_eq_true, if_false]

/-- Blocks start at the first instruction and at the leaders behind it. -/
theorem starts_cutAt (insn : DecodedInsn) (rest : List DecodedInsn) :
    (cutAt leaders (insn :: rest)).filterMap headAddress =
      insn.address :: (rest.map (·.address)).filter leaders.contains := by
  induction rest generalizing insn with
  | nil => rfl
  | cons next rest induction =>
      have later := induction next
      rw [List.map_cons]
      by_cases leader : next.address ∈ leaders
      · rw [cutAt_of_leader insn leader, List.filter_cons_of_pos (by simpa using leader), ← later]
        rfl
      · obtain ⟨block, blocks, cut, joined⟩ := cutAt_of_not_leader insn leader
        rw [cut] at later
        rw [joined, List.filter_cons_of_neg (by simpa using leader)]
        exact congrArg (insn.address :: ·) (List.cons.inj later).2

/-- Inside of a block there is no leader. -/
theorem not_leader_of_mem_tail {insns group : List DecodedInsn}
    (member : group ∈ cutAt leaders insns) : ∀ insn ∈ group.tail, insn.address ∉ leaders := by
  induction insns generalizing group with
  | nil => cases member
  | cons insn rest induction =>
      cases rest with
      | nil =>
          obtain rfl := List.mem_singleton.mp member
          exact List.forall_mem_nil _
      | cons next rest =>
          by_cases leader : next.address ∈ leaders
          · rw [cutAt_of_leader insn leader] at member
            rcases List.mem_cons.mp member with rfl | later
            · exact List.forall_mem_nil _
            · exact induction later
          · obtain ⟨block, blocks, cut, joined⟩ := cutAt_of_not_leader insn leader
            rw [joined] at member
            rw [cut] at induction
            rcases List.mem_cons.mp member with rfl | later
            · rw [List.tail_cons, List.forall_mem_cons]
              exact ⟨leader, induction List.mem_cons_self⟩
            · exact induction (List.mem_cons_of_mem _ later)

end Cutting

/-! ## Leaders -/

theorem mem_jumpTargets_iff {insns : List DecodedInsn} {address : Int} :
    address ∈ jumpTargets insns ↔ address ∈ insns.map (·.address) ∧
      ∃ jump ∈ insns, jump.isJump = true ∧ jump.directTarget? = some address := by
  simp only [jumpTargets, List.mem_filterMap, List.mem_filter, Option.filter_eq_some_iff,
    List.contains_iff_mem]
  constructor
  · intro listed
    obtain ⟨jump, ⟨member, jumps⟩, target, known⟩ := listed
    exact ⟨known, jump, member, jumps, target⟩
  · intro described
    obtain ⟨known, jump, member, jumps, target⟩ := described
    exact ⟨jump, ⟨member, jumps⟩, target, known⟩

theorem neighbours_cons_cons_iff {α : Type} {previous next first second : α} {rest : List α} :
    [previous, next] <:+: first :: second :: rest ↔
      previous = first ∧ next = second ∨ [previous, next] <:+: second :: rest := by
  rw [List.infix_cons_iff, List.cons_prefix_cons, List.cons_prefix_cons]
  simp

/-- All but the last have a neighbour behind them. -/
theorem exists_neighbour_of_mem_dropLast {α : Type} {items : List α} {item : α}
    (member : item ∈ items.dropLast) : ∃ next ∈ items.tail, [item, next] <:+: items := by
  induction items with
  | nil => cases member
  | cons first rest induction =>
      cases rest with
      | nil => cases member
      | cons second rest =>
          rw [List.dropLast_cons_cons] at member
          rcases List.mem_cons.mp member with rfl | later
          · exact ⟨second, List.mem_cons_self, neighbours_cons_cons_iff.mpr (.inl ⟨rfl, rfl⟩)⟩
          · obtain ⟨next, behind, adjacent⟩ := induction later
            exact ⟨next, List.mem_cons_of_mem _ behind,
              neighbours_cons_cons_iff.mpr (.inr adjacent)⟩

/-- The second of two neighbours is a successor if the first ends a block. -/
theorem mem_successorStarts_iff {insns : List DecodedInsn} {address : Int} :
    address ∈ successorStarts insns ↔ ∃ previous next, [previous, next] <:+: insns ∧
      previous.endsBlock = true ∧ next.address = address := by
  induction insns with
  | nil => simp [successorStarts]
  | cons first rest induction =>
      cases rest with
      | nil => simp [successorStarts, List.infix_cons_iff]
      | cons second rest =>
          have here : (address ∈ if first.endsBlock = true then [second.address] else []) ↔
              first.endsBlock = true ∧ second.address = address := by
            by_cases ends : first.endsBlock = true
            · simp [ends, eq_comm]
            · simp [ends]
          rw [successorStarts, List.mem_append, here, induction]
          simp only [neighbours_cons_cons_iff]
          constructor
          · intro either
            rcases either with ⟨ends, same⟩ | ⟨previous, next, adjacent, ends, same⟩
            · exact ⟨first, second, .inl ⟨rfl, rfl⟩, ends, same⟩
            · exact ⟨previous, next, .inr adjacent, ends, same⟩
          · intro described
            obtain ⟨previous, next, ⟨rfl, rfl⟩ | adjacent, ends, same⟩ := described
            · exact .inl ⟨ends, same⟩
            · exact .inr ⟨previous, next, adjacent, ends, same⟩

theorem mem_leaders_iff {entry address : Int} {insns : List DecodedInsn} :
    address ∈ leaders entry insns ↔
      address = entry ∨ address ∈ jumpTargets insns ∨ address ∈ successorStarts insns := by
  rw [leaders, List.mem_cons, List.mem_append]

/-! ## Blocks of a function -/

section Groups

variable {entry : Int} {insns : List DecodedInsn}

/-- Only the last instruction of a block ends it. -/
theorem not_endsBlock_of_mem_dropLast {group : List DecodedInsn}
    (member : group ∈ cutAt (leaders entry insns) insns) {insn : DecodedInsn}
    (inner : insn ∈ group.dropLast) : insn.endsBlock = false := by
  obtain ⟨next, behind, adjacent⟩ := exists_neighbour_of_mem_dropLast inner
  have joined := flatten_cutAt (leaders entry insns) insns
  have within : group <:+: insns := by
    rw [← joined]
    exact List.infix_of_mem_flatten member
  by_contra ends
  have successor : next.address ∈ successorStarts insns :=
    mem_successorStarts_iff.mpr
      ⟨insn, next, adjacent.trans within, Bool.not_eq_false _ ▸ ends, rfl⟩
  exact not_leader_of_mem_tail member next behind (mem_leaders_iff.mpr (.inr (.inr successor)))

/-- Every leader among the instructions starts a block. -/
theorem mem_starts_of_leader {address : Int} (leader : address ∈ leaders entry insns)
    (known : address ∈ insns.map (·.address)) :
    address ∈ (cutAt (leaders entry insns) insns).filterMap headAddress := by
  cases insns with
  | nil => cases known
  | cons first rest =>
      rw [starts_cutAt, List.mem_cons]
      rcases List.mem_cons.mp known with same | later
      · exact .inl same
      · exact .inr (List.mem_filter.mpr ⟨later, List.contains_iff_mem.mpr leader⟩)

/-- A jump leads to the start of a block. -/
theorem mem_starts_of_jump (entry : Int) {jump : DecodedInsn} (member : jump ∈ insns)
    (jumps : jump.isJump = true) {target : Int} (direct : jump.directTarget? = some target)
    (known : target ∈ insns.map (·.address)) :
    target ∈ (cutAt (leaders entry insns) insns).filterMap headAddress := by
  have listed := mem_jumpTargets_iff.mpr ⟨known, jump, member, jumps, direct⟩
  exact mem_starts_of_leader (mem_leaders_iff.mpr (.inr (.inl listed))) known

theorem starts_sublist :
    ((cutAt (leaders entry insns) insns).filterMap headAddress).Sublist
      (insns.map (·.address)) := by
  cases insns with
  | nil => exact .slnil
  | cons first rest =>
      rw [starts_cutAt, List.map_cons]
      exact List.filter_sublist.cons_cons _

variable {code : Bytes} (consecutive : Consecutive code entry insns)
include consecutive

theorem head?_starts {address : Int}
    (first : ((cutAt (leaders entry insns) insns).filterMap headAddress).head? = some address) :
    address = entry := by
  cases consecutive with
  | nil => cases first
  | cons here _ _ _ =>
      rw [starts_cutAt, List.head?_cons, Option.some.injEq] at first
      exact first.symm.trans here

/-- A block starts at an address behind the first for a reason. -/
theorem mem_tail_starts {address : Int}
    (later : address ∈ ((cutAt (leaders entry insns) insns).filterMap headAddress).tail) :
    address ∈ jumpTargets insns ∨ address ∈ successorStarts insns := by
  have ascending := consecutive.ascending
  cases insns with
  | nil => cases later
  | cons first rest =>
      rw [starts_cutAt, List.tail_cons, List.mem_filter, List.contains_iff_mem,
        mem_leaders_iff] at later
      rw [List.map_cons, List.pairwise_cons] at ascending
      obtain ⟨known, same | reason⟩ := later
      · have less := ascending.1 address known
        cases consecutive with
        | cons here _ _ _ => omega
      · exact reason

end Groups

/-! ## Blocks that are reported -/

theorem mem_blocksOf_iff {report : DecodedInsn → Insn} {groups : List (List DecodedInsn)}
    {block : Block} :
    block ∈ blocksOf report groups ↔ ∃ group ∈ groups,
      headAddress group = some block.address ∧ block.instructions = group.map report := by
  simp only [blocksOf, List.mem_filterMap, Option.map_eq_some_iff]
  constructor
  · intro listed
    obtain ⟨group, member, address, head, rfl⟩ := listed
    exact ⟨group, member, head, rfl⟩
  · intro described
    obtain ⟨group, member, head, same⟩ := described
    refine ⟨group, member, block.address, head, ?_⟩
    rw [← same]

theorem addresses_blocksOf (report : DecodedInsn → Insn) (groups : List (List DecodedInsn)) :
    (blocksOf report groups).map (·.address) = groups.filterMap headAddress := by
  rw [blocksOf, List.map_filterMap]
  apply List.filterMap_congr
  intro group _
  rw [Option.map_map]
  exact Option.map_id'

theorem addresses_functionBody (decode : Decoder) (code : Bytes) (entry : Int)
    (functions : List Int) (strings : Int → Option Bytes) :
    (functionBody decode code entry functions strings).blocks.map (·.address) =
      blockStarts decode code entry := by
  rw [blocks_functionBody, addresses_blocksOf]
  rfl

/-- A block has the address of its first instruction. -/
theorem head?_of_mem_blocks {decode : Decoder} {code : Bytes} {entry : Int}
    {functions : List Int} {strings : Int → Option Bytes} {block : Block}
    (member : block ∈ (functionBody decode code entry functions strings).blocks) :
    block.instructions.head?.map (·.address) = some block.address := by
  rw [blocks_functionBody, mem_blocksOf_iff] at member
  obtain ⟨group, _, head, same⟩ := member
  rw [same, List.head?_map, Option.map_map]
  exact head

/-- The blocks of a body hold instructions that follow one another in code, cut
where control can enter or leave them and nowhere else. -/
structure Body.Splits (body : Body) (code : Bytes) (entry : Int) (insns : List DecodedInsn)
    (report : DecodedInsn → Insn) : Prop where
  headed : ∀ block ∈ body.blocks,
    block.instructions.head?.map (·.address) = some block.address
  joined : instructionsOf body.blocks = insns.map report
  bytes : (instructionsOf body.blocks).flatMap (·.rawBytes) <+: code
  first : ∀ block, body.blocks.head? = some block → block.address = entry
  ascending : (body.blocks.map (·.address)).Pairwise (· < ·)
  /-- Only the last instruction of a block jumps, returns or halts. -/
  straight : ∀ block ∈ body.blocks, ∀ insn ∈ insns,
    report insn ∈ block.instructions.dropLast → insn.endsBlock = false
  /-- Jumps lead to the first instruction of a block. -/
  targets : ∀ jump ∈ insns, jump.isJump = true → ∀ target, jump.directTarget? = some target →
    target ∈ insns.map (·.address) → target ∈ body.blocks.map (·.address)
  /-- No block starts without a reason. -/
  reasons : ∀ start ∈ (body.blocks.map (·.address)).tail,
    (∃ jump ∈ insns, jump.isJump = true ∧ jump.directTarget? = some start) ∨
      ∃ previous next, [previous, next] <:+: insns ∧ previous.endsBlock = true ∧
        next.address = start

section Body

variable {decode : Decoder} {code : Bytes} {entry : Int} {functions : List Int}
  {strings : Int → Option Bytes} (consecutive : Consecutive code entry (decode code entry))
include consecutive

/-- Only the last instruction that a block reports ends it. -/
theorem not_endsBlock_of_mem_blocks {block : Block}
    (member : block ∈ (functionBody decode code entry functions strings).blocks)
    {insn : DecodedInsn} (listed : insn ∈ decode code entry)
    (inner : reportInsn (blockStarts decode code entry) functions strings insn ∈
      block.instructions.dropLast) : insn.endsBlock = false := by
  rw [blocks_functionBody, mem_blocksOf_iff] at member
  obtain ⟨group, cut, _, same⟩ := member
  rw [same, ← List.map_dropLast] at inner
  obtain ⟨other, otherInner, reported⟩ := List.mem_map.mp inner
  have otherListed : other ∈ decode code entry := by
    rw [← flatten_cutAt (leaders entry (decode code entry)) (decode code entry)]
    exact List.mem_flatten_of_mem cut (List.mem_of_mem_dropLast otherInner)
  -- An address names one instruction, so the report is of no other one.
  have address : other.address = insn.address := congrArg Insn.address reported
  obtain rfl := consecutive.eq_of_address otherListed listed address
  exact not_endsBlock_of_mem_dropLast cut otherInner

theorem splits_functionBody :
    (functionBody decode code entry functions strings).Splits code entry (decode code entry)
      (reportInsn (blockStarts decode code entry) functions strings) := by
  have addresses := addresses_functionBody decode code entry functions strings
  have joined := instructionsOf_functionBody decode code entry functions strings
  refine ⟨?_, joined, ?_, ?_, ?_, ?_, ?_, ?_⟩
  · intro block member
    exact head?_of_mem_blocks member
  · rw [joined, List.flatMap_map]
    exact consecutive.bytes_of_code
  · intro block found
    have head : (blockStarts decode code entry).head? = some block.address := by
      rw [← addresses, List.head?_map, found]
      rfl
    exact head?_starts consecutive head
  · rw [addresses]
    exact consecutive.ascending.sublist starts_sublist
  · intro block member insn listed inner
    exact not_endsBlock_of_mem_blocks consecutive member listed inner
  · intro jump member jumps target direct known
    rw [addresses]
    exact mem_starts_of_jump entry member jumps direct known
  · intro start later
    rw [addresses] at later
    rcases mem_tail_starts consecutive later with target | successor
    · exact .inl (mem_jumpTargets_iff.mp target).2
    · exact .inr (mem_successorStarts_iff.mp successor)

end Body

/-- Code whose instructions follow one another is cut into blocks exactly if the
numbers in its operands can be read, and then its blocks are basic: control
enters them at the start and leaves them at the end, and they are as long as
that allows. -/
theorem readBody_splits (decode : Decoder) (code : Bytes) (entry : Int) (functions : List Int)
    (strings : Int → Option Bytes) (consecutive : Consecutive code entry (decode code entry)) :
    ((∃ body, readBody decode code entry functions strings = .ok body) ↔
        ∀ insn ∈ decode code entry, insn.Readable) ∧
      ∀ body, readBody decode code entry functions strings = .ok body →
        body.Splits code entry (decode code entry)
          (reportInsn (body.blocks.map (·.address)) functions strings) := by
  simp only [readBody_eq_ok_iff]
  refine ⟨?_, ?_⟩
  · constructor
    · intro read
      obtain ⟨_, readable, _⟩ := read
      exact readable
    · intro readable
      exact ⟨_, readable, rfl⟩
  · intro body read
    obtain ⟨_, rfl⟩ := read
    rw [addresses_functionBody]
    exact splits_functionBody consecutive

/-- Branches to the next instruction, into the middle of one, and back to where
no other branch leads. -/
def loopingTable : List TableRow := [
  ⟨0x10, 2, {
    address := 0x10, bytes := [], mnemonic := "je", operandText := "0x12", isJump := true
    operands := [.immediate 0x12] }⟩,
  ⟨0x12, 2, {
    address := 0x12, bytes := [], mnemonic := "jne", operandText := "0x11", isJump := true
    operands := [.immediate 0x11] }⟩,
  ⟨0x14, 1, { address := 0x14, bytes := [], mnemonic := "nop" }⟩,
  ⟨0x15, 1, { address := 0x15, bytes := [], mnemonic := "nop" }⟩,
  ⟨0x16, 2, {
    address := 0x16, bytes := [], mnemonic := "jmp", operandText := "0x15", isJump := true
    operands := [.immediate 0x15] }⟩,
  ⟨0x18, 1, { address := 0x18, bytes := [], mnemonic := "hlt" }⟩]

def loopingCode : Bytes := [0x74, 0x00, 0x75, 0xFD, 0x90, 0x90, 0xEB, 0xFD, 0xF4]

def loopingBody : Body where
  blocks := [
    ⟨0x10, [{
      address := 0x10, mnemonic := "je", rawBytes := [0x74, 0x00]
      operands := [.ofKind .jumpLabel "0x12"] }]⟩,
    ⟨0x12, [{
      address := 0x12, mnemonic := "jne", rawBytes := [0x75, 0xFD]
      operands := [.ofKind .immediateInt "0x11"] }]⟩,
    ⟨0x14, [{ address := 0x14, mnemonic := "nop", rawBytes := [0x90] }]⟩,
    ⟨0x15, [
      { address := 0x15, mnemonic := "nop", rawBytes := [0x90] },
      { address := 0x16, mnemonic := "jmp", rawBytes := [0xEB, 0xFD]
        operands := [.ofKind .jumpLabel "0x15"] }]⟩,
    ⟨0x18, [{ address := 0x18, mnemonic := "hlt", rawBytes := [0xF4] }]⟩]
  branches := [⟨0x10, 0x12, 1⟩, ⟨0x10, 0x12, 2⟩, ⟨0x12, 0x14, 2⟩, ⟨0x14, 0x15, 3⟩,
    ⟨0x15, 0x15, 3⟩]

theorem readBody_looping :
    readBody (decodeTable loopingTable) loopingCode 0x10 [] (fun _ => none) = .ok loopingBody := by
  cbv

theorem loopingBody_splits :
    Consecutive loopingCode 0x10 (decodeTable loopingTable loopingCode 0x10) ∧
      readBody (decodeTable loopingTable) loopingCode 0x10 [] (fun _ => none) = .ok loopingBody ∧
      loopingBody.Splits loopingCode 0x10 (decodeTable loopingTable loopingCode 0x10)
        (reportInsn [0x10, 0x12, 0x14, 0x15, 0x18] [] fun _ => none) := by
  have consecutive := consecutive_decodeTable loopingTable loopingCode 0x10
  obtain ⟨_, splits⟩ := readBody_splits (decodeTable loopingTable) loopingCode 0x10 []
    (fun _ => none) consecutive
  exact ⟨consecutive, readBody_looping, splits loopingBody readBody_looping⟩

/-- An instruction whose operand is a number of some ones. -/
def pushOnes (count : Nat) : DecodedInsn where
  address := 0
  bytes := [0x68]
  mnemonic := "push"
  operandText := String.ofList (List.replicate count '1')

theorem checkNumbers_pushOnes (count : Nat) (long : Numeral.digitLimit < count) :
    OperandText.checkNumbers [] (pushOnes count).operandText = .error (.length count) := by
  have ones : ∀ character ∈ List.replicate count '1', OperandText.isWordChar character = true := by
    intro character member
    rw [List.eq_of_mem_replicate member]
    decide
  have nonempty : List.replicate count '1' ≠ [] := by
    rw [ne_eq, List.replicate_eq_nil_iff]
    omega
  have decimal : (List.replicate count '1').all OperandText.isDecimalDigit = true := by
    rw [List.all_replicate]
    simp [OperandText.isDecimalDigit]
  rw [pushOnes, OperandText.checkNumbers_of_digits nonempty ones, OperandText.checkNumber, decimal,
    Numeral.checkLength, List.length_replicate, if_pos long]
  rfl

/-- A number of 4301 digits cannot be read. -/
theorem pushOnes_unread :
    Consecutive [0x68] 0 [pushOnes 4301] ∧
      readBody (fun _ _ => [pushOnes 4301]) [0x68] 0 [] (fun _ => none) =
        .error (.length 4301) := by
  have consecutive : Consecutive [0x68] 0 [pushOnes 4301] :=
    .cons rfl (List.cons_ne_nil _ _) ⟨[], rfl⟩ (.nil _ _)
  have unread := checkNumbers_pushOnes 4301 (by decide)
  exact ⟨consecutive, readBody_of_unread rfl unread⟩

end CodeGraph.Disassembly
