import CodeGraph.Proofs.BasicBlocks
import CodeGraph.Proofs.ProgramOrder
import Mathlib

/-!
# Branches between blocks

A branch leads from one block of a function to another.  Which branches leave a
block depends only on its last instruction and on the block behind it.
-/

namespace CodeGraph

/-- The edges lead from blocks to blocks. -/
def FlowGraph.Closed (graph : FlowGraph) : Prop :=
  ∀ edge ∈ graph.edges, edge.source ∈ graph.blocks.filterMap (·.address?) ∧
    edge.target ∈ graph.blocks.filterMap (·.address?)

namespace Disassembly

/-- The branch from an address to a target, if there is one. -/
def branchTo (address : Int) (kind : BranchKind) (target : Option Int) : List FlowGraph.Edge :=
  target.toList.map fun target => ⟨address, target, kind.code⟩

theorem mem_branchTo_iff {address : Int} {kind : BranchKind} {target : Option Int}
    {branch : FlowGraph.Edge} :
    branch ∈ branchTo address kind target ↔
      branch.source = address ∧ target = some branch.target ∧ branch.kind = kind.code := by
  rw [branchTo, List.mem_map]
  constructor
  · intro listed
    obtain ⟨destination, found, rfl⟩ := listed
    exact ⟨rfl, Option.mem_toList.mp found, rfl⟩
  · intro described
    obtain ⟨source, found, same⟩ := described
    exact ⟨branch.target, Option.mem_toList.mpr found, by rw [← source, ← same]⟩

theorem length_branchTo_le (address : Int) (kind : BranchKind) (target : Option Int) :
    (branchTo address kind target).length ≤ 1 := by
  rw [branchTo, List.length_map]
  exact Option.length_toList_le

theorem nodup_branchTo (address : Int) (kind : BranchKind) (target : Option Int) :
    (branchTo address kind target).Nodup := by
  cases target with
  | none => exact List.nodup_nil
  | some target => exact List.nodup_singleton _

/-- Branches of two kinds are distinct, also if they lead to one target. -/
theorem nodup_branchTo_append (address : Int) {first second : BranchKind}
    (different : first.code ≠ second.code) (firstTarget secondTarget : Option Int) :
    (branchTo address first firstTarget ++ branchTo address second secondTarget).Nodup := by
  refine (nodup_branchTo _ _ _).append (nodup_branchTo _ _ _) ?_
  intro branch inFirst inSecond
  have firstKind := (mem_branchTo_iff.mp inFirst).2.2
  have secondKind := (mem_branchTo_iff.mp inSecond).2.2
  exact different (firstKind.symm.trans secondKind)

/-! ## Branches of one block -/

/-- How control passes if a jump is taken. -/
def DecodedInsn.takenKind (jump : DecodedInsn) : BranchKind :=
  if jump.isConditional then .conditionTrue else .unconditional

theorem takenKind_code_ne (jump : DecodedInsn) :
    jump.takenKind.code ≠ BranchKind.conditionFalse.code := by
  rw [DecodedInsn.takenKind]
  split
  · decide
  · decide

theorem DecodedInsn.jumps_or_stops_or_runsOn (insn : DecodedInsn) :
    insn.isJump = true ∨ insn.isJump = false ∧ insn.stops = true ∨ insn.endsBlock = false := by
  rw [endsBlock]
  cases insn.isJump with
  | true => exact .inl rfl
  | false =>
      cases insn.stops with
      | true => exact .inr (.inl ⟨rfl, rfl⟩)
      | false => exact .inr (.inr rfl)

section OneBlock

variable {starts : List Int} {entry finish address : Int} {last : DecodedInsn}
  {next : Option Int}

theorem blockBranches_of_runsOn (runsOn : last.endsBlock = false) :
    blockBranches starts entry finish address last next =
      branchTo address .unconditional next := by
  obtain ⟨noJump, noStop⟩ := Bool.or_eq_false_iff.mp runsOn
  simp only [blockBranches, noJump, noStop]
  cases next with
  | none => rfl
  | some target => rfl

theorem blockBranches_of_stops (noJump : last.isJump = false) (stops : last.stops = true) :
    blockBranches starts entry finish address last next = [] := by
  simp only [blockBranches, noJump, stops]
  rfl

theorem blockBranches_of_jump (jumps : last.isJump = true) :
    blockBranches starts entry finish address last next =
      branchTo address last.takenKind
          (last.directTarget?.filter fun target =>
            starts.contains target ∧ entry ≤ target ∧ target < finish) ++
        branchTo address .conditionFalse (next.filter fun _ => last.isConditional) := by
  simp only [blockBranches, jumps, if_true]
  congr 1
  · cases last.directTarget? with
    | none => rfl
    | some target =>
        simp only [Option.filter_some, decide_eq_true_eq]
        split
        · rfl
        · rfl
  · cases next with
    | none => rfl
    | some target => cases last.isConditional <;> rfl

/-- A branch leads to the start of a block. -/
theorem mem_blockBranches {branch : FlowGraph.Edge}
    (member : branch ∈ blockBranches starts entry finish address last next) :
    branch.source = address ∧ (branch.target ∈ starts ∨ next = some branch.target) := by
  rcases last.jumps_or_stops_or_runsOn with jumps | ⟨noJump, stops⟩ | runsOn
  · rw [blockBranches_of_jump jumps] at member
    rcases List.mem_append.mp member with taken | notTaken
    · obtain ⟨source, followed, _⟩ := mem_branchTo_iff.mp taken
      have reached := of_decide_eq_true (Option.filter_eq_some_iff.mp followed).2
      exact ⟨source, .inl (List.contains_iff_mem.mp reached.1)⟩
    · obtain ⟨source, found, _⟩ := mem_branchTo_iff.mp notTaken
      exact ⟨source, .inr (Option.filter_eq_some_iff.mp found).1⟩
  · rw [blockBranches_of_stops noJump stops] at member
    cases member
  · rw [blockBranches_of_runsOn runsOn] at member
    obtain ⟨source, found, _⟩ := mem_branchTo_iff.mp member
    exact ⟨source, .inr found⟩

end OneBlock

/-- The branches of a block that starts at an address, ends with an instruction
and is followed by the block at `next`. -/
structure Leaves (insns : List DecodedInsn) (address : Int) (last : DecodedInsn)
    (next : Option Int) (branches : List FlowGraph.Edge) : Prop where
  atMostTwo : branches.length ≤ 2
  taken : last.isJump = true → ∀ target, last.directTarget? = some target →
    target ∈ insns.map (·.address) → branches.count ⟨address, target, last.takenKind.code⟩ = 1
  notTaken : last.isJump = true → last.isConditional = true → ∀ target, next = some target →
    branches.count ⟨address, target, BranchKind.conditionFalse.code⟩ = 1
  /-- A jump has no other branches. -/
  only : last.isJump = true → ∀ branch ∈ branches,
    last.directTarget? = some branch.target ∧ branch.kind = last.takenKind.code ∨
      last.isConditional = true ∧ next = some branch.target ∧
        branch.kind = BranchKind.conditionFalse.code
  runsOn : last.endsBlock = false → branches = branchTo address .unconditional next
  stops : last.isJump = false → last.stops = true → branches = []

section Leaving

variable {code : Bytes} {entry address : Int} {insns : List DecodedInsn} {last : DecodedInsn}
  {next : Option Int} (consecutive : Consecutive code entry insns) (member : last ∈ insns)
include consecutive member

/-- A jump is followed where an instruction starts: a block starts there, and it
is in the code. -/
theorem followed_of_known (jumps : last.isJump = true) {target : Int}
    (direct : last.directTarget? = some target) (known : target ∈ insns.map (·.address)) :
    ((cutAt (leaders entry insns) insns).filterMap headAddress).contains target = true ∧
      entry ≤ target ∧ target < entry + code.length := by
  have start := mem_starts_of_jump entry member jumps direct known
  obtain ⟨insn, found, rfl⟩ := List.mem_map.mp known
  exact ⟨List.contains_iff_mem.mpr start, consecutive.inside insn found⟩

theorem leaves_of_jump (jumps : last.isJump = true) :
    Leaves insns address last next
      (blockBranches ((cutAt (leaders entry insns) insns).filterMap headAddress) entry
        (entry + code.length) address last next) := by
  rw [blockBranches_of_jump jumps]
  generalize same : Option.filter _ last.directTarget? = target?
  have distinct := nodup_branchTo_append address (takenKind_code_ne last) target?
    (next.filter fun _ => last.isConditional)
  refine ⟨?_, ?_, ?_, ?_, ?_, ?_⟩
  · have first := length_branchTo_le address last.takenKind target?
    have second := length_branchTo_le address .conditionFalse
      (next.filter fun _ => last.isConditional)
    rw [List.length_append]
    omega
  · intro _ target direct known
    have followed := decide_eq_true (followed_of_known consecutive member jumps direct known)
    rw [direct, Option.filter_some, if_pos followed] at same
    apply List.count_eq_one_of_mem distinct
    apply List.mem_append_left
    exact mem_branchTo_iff.mpr ⟨rfl, same.symm, rfl⟩
  · intro _ conditional target found
    apply List.count_eq_one_of_mem distinct
    apply List.mem_append_right
    exact mem_branchTo_iff.mpr ⟨rfl, Option.filter_eq_some_iff.mpr ⟨found, conditional⟩, rfl⟩
  · intro _ branch listed
    rcases List.mem_append.mp listed with taken | notTaken
    · obtain ⟨_, followed, kind⟩ := mem_branchTo_iff.mp taken
      have direct := Option.filter_eq_some_iff.mp (same.trans followed)
      exact .inl ⟨direct.1, kind⟩
    · obtain ⟨_, found, kind⟩ := mem_branchTo_iff.mp notTaken
      obtain ⟨known, conditional⟩ := Option.filter_eq_some_iff.mp found
      exact .inr ⟨conditional, known, kind⟩
  · intro runsOn
    rw [DecodedInsn.endsBlock, jumps] at runsOn
    cases runsOn
  · intro noJump
    rw [jumps] at noJump
    cases noJump

theorem leaves_blockBranches :
    Leaves insns address last next
      (blockBranches ((cutAt (leaders entry insns) insns).filterMap headAddress) entry
        (entry + code.length) address last next) := by
  rcases last.jumps_or_stops_or_runsOn with jumps | ⟨noJump, stops⟩ | runsOn
  · exact leaves_of_jump consecutive member jumps
  · rw [blockBranches_of_stops noJump stops]
    refine ⟨Nat.zero_le _, ?_, ?_, ?_, ?_, fun _ _ => rfl⟩
    · simp [noJump]
    · simp [noJump]
    · simp
    · intro runsOn
      rw [DecodedInsn.endsBlock, stops, Bool.or_true] at runsOn
      cases runsOn
  · obtain ⟨noJump, noStop⟩ := Bool.or_eq_false_iff.mp runsOn
    rw [blockBranches_of_runsOn runsOn]
    refine ⟨?_, ?_, ?_, ?_, fun _ => rfl, ?_⟩
    · exact (length_branchTo_le _ _ _).trans (by decide)
    · simp [noJump]
    · simp [noJump]
    · simp [noJump]
    · simp [noStop]

end Leaving

/-! ## Branches of all blocks -/

section AllBlocks

variable {starts : List Int} {entry finish : Int}

theorem branchesOf_cons {insn : DecodedInsn} {block : List DecodedInsn}
    {groups : List (List DecodedInsn)} :
    branchesOf starts entry finish ((insn :: block) :: groups) =
      blockBranches starts entry finish insn.address ((insn :: block).getLast (by simp))
          (groups.head?.bind headAddress) ++
        branchesOf starts entry finish groups := by
  rw [branchesOf, List.getLast?_eq_some_getLast (List.cons_ne_nil _ _)]
  rfl

/-- Branches lead from blocks to blocks. -/
theorem mem_branchesOf {groups : List (List DecodedInsn)} (nonempty : ∀ group ∈ groups, group ≠ [])
    {branch : FlowGraph.Edge} (member : branch ∈ branchesOf starts entry finish groups) :
    branch.source ∈ groups.filterMap headAddress ∧
      (branch.target ∈ starts ∨ branch.target ∈ groups.filterMap headAddress) := by
  induction groups with
  | nil => cases member
  | cons group rest induction =>
      obtain ⟨first, others⟩ := List.forall_mem_cons.mp nonempty
      obtain ⟨insn, block, rfl⟩ := List.exists_cons_of_ne_nil first
      have heads : ((insn :: block) :: rest).filterMap headAddress =
          insn.address :: rest.filterMap headAddress := rfl
      rw [branchesOf_cons] at member
      rw [heads]
      rcases List.mem_append.mp member with own | later
      · obtain ⟨source, start | next⟩ := mem_blockBranches own
        · exact ⟨source ▸ List.mem_cons_self, .inl start⟩
        · obtain ⟨following, found, head⟩ := Option.bind_eq_some_iff.mp next
          have listed := List.mem_filterMap.mpr ⟨following, List.mem_of_head? found, head⟩
          exact ⟨source ▸ List.mem_cons_self, .inr (List.mem_cons_of_mem _ listed)⟩
      · obtain ⟨source, target⟩ := induction others later
        exact ⟨List.mem_cons_of_mem _ source, target.imp_right (List.mem_cons_of_mem _)⟩

/-- As no two blocks start at one address, the branches from an address are those
of one block. -/
theorem filter_branchesOf {before after : List (List DecodedInsn)} {insn : DecodedInsn}
    {block : List DecodedInsn}
    (nonempty : ∀ group ∈ before ++ (insn :: block) :: after, group ≠ [])
    (distinct : ((before ++ (insn :: block) :: after).filterMap headAddress).Nodup) :
    (branchesOf starts entry finish (before ++ (insn :: block) :: after)).filter
        (·.source == insn.address) =
      blockBranches starts entry finish insn.address ((insn :: block).getLast (by simp))
        (after.head?.bind headAddress) := by
  induction before with
  | nil =>
      rw [List.nil_append] at nonempty distinct ⊢
      have fresh : insn.address ∉ after.filterMap headAddress := (List.nodup_cons.mp distinct).1
      rw [branchesOf_cons, List.filter_append, List.filter_eq_self.mpr, List.filter_eq_nil_iff.mpr,
        List.append_nil]
      · intro branch later same
        have source := (mem_branchesOf (List.forall_mem_cons.mp nonempty).2 later).1
        rw [beq_iff_eq.mp same] at source
        exact fresh source
      · intro branch own
        exact beq_iff_eq.mpr (mem_blockBranches own).1
  | cons group rest induction =>
      rw [List.cons_append] at nonempty distinct ⊢
      obtain ⟨first, others⟩ := List.forall_mem_cons.mp nonempty
      obtain ⟨other, tail, rfl⟩ := List.exists_cons_of_ne_nil first
      obtain ⟨fresh, distinct⟩ := List.nodup_cons.mp distinct
      rw [branchesOf_cons, List.filter_append, List.filter_eq_nil_iff.mpr, List.nil_append,
        induction others distinct]
      intro branch own same
      have source := (mem_blockBranches own).1
      rw [beq_iff_eq.mp same] at source
      have listed : insn.address ∈ (rest ++ (insn :: block) :: after).filterMap headAddress :=
        List.mem_filterMap.mpr ⟨_, List.mem_append_right _ List.mem_cons_self, rfl⟩
      rw [source] at listed
      exact fresh listed

/-- Every block is reported of a group, and so is the block behind it. -/
theorem exists_group_of_blocksOf {report : DecodedInsn → Insn} {groups : List (List DecodedInsn)}
    {before after : List Block} {block : Block} (nonempty : ∀ group ∈ groups, group ≠ [])
    (split : blocksOf report groups = before ++ block :: after) :
    ∃ front insn tail rest, groups = front ++ (insn :: tail) :: rest ∧
      block = ⟨insn.address, (insn :: tail).map report⟩ ∧
      after.head?.map (·.address) = rest.head?.bind headAddress := by
  induction before generalizing groups with
  | nil =>
      cases groups with
      | nil => cases split
      | cons group rest =>
          obtain ⟨first, others⟩ := List.forall_mem_cons.mp nonempty
          obtain ⟨insn, tail, rfl⟩ := List.exists_cons_of_ne_nil first
          rw [blocksOf_cons, List.nil_append, List.cons.injEq] at split
          obtain ⟨same, rfl⟩ := split
          refine ⟨[], insn, tail, rest, rfl, same.symm, ?_⟩
          cases rest with
          | nil => rfl
          | cons following _ =>
              obtain ⟨_, _, rfl⟩ := List.exists_cons_of_ne_nil (others following List.mem_cons_self)
              rfl
  | cons previous before induction =>
      cases groups with
      | nil => cases split
      | cons group rest =>
          obtain ⟨first, others⟩ := List.forall_mem_cons.mp nonempty
          obtain ⟨insn, tail, rfl⟩ := List.exists_cons_of_ne_nil first
          rw [blocksOf_cons, List.cons_append, List.cons.injEq] at split
          obtain ⟨front, found, block, rest, rfl, described⟩ := induction others split.2
          exact ⟨(insn :: tail) :: front, found, block, rest, rfl, described⟩

end AllBlocks

/-! ## Branches of a function -/

/-- The branches lead from blocks to blocks. -/
def Body.Closed (body : Body) : Prop :=
  ∀ branch ∈ body.branches, branch.source ∈ body.blocks.map (·.address) ∧
    branch.target ∈ body.blocks.map (·.address)

/-- Every block is left by the branches that its last instruction asks for. -/
def Body.Flows (body : Body) (insns : List DecodedInsn) (report : DecodedInsn → Insn) : Prop :=
  ∀ before block after, body.blocks = before ++ block :: after →
    ∃ last ∈ insns, block.instructions.getLast? = some (report last) ∧
      Leaves insns block.address last (after.head?.map (·.address))
        (body.branches.filter (·.source == block.address))

section Body

variable {decode : Decoder} {code : Bytes} {entry : Int} {functions : List Int}
  {strings : Int → Option Bytes}

theorem branches_functionBody :
    (functionBody decode code entry functions strings).branches =
      branchesOf (blockStarts decode code entry) entry (entry + code.length)
        (cutAt (leaders entry (decode code entry)) (decode code entry)) := rfl

theorem closed_functionBody :
    (functionBody decode code entry functions strings).Closed := by
  intro branch member
  rw [addresses_functionBody]
  obtain ⟨source, target⟩ := mem_branchesOf (fun _ cut => ne_nil_of_mem_cutAt cut) member
  exact ⟨source, target.elim id id⟩

theorem flows_functionBody (consecutive : Consecutive code entry (decode code entry)) :
    (functionBody decode code entry functions strings).Flows (decode code entry)
      (reportInsn (blockStarts decode code entry) functions strings) := by
  intro before block after split
  have nonempty : ∀ group ∈ cutAt (leaders entry (decode code entry)) (decode code entry),
      group ≠ [] := fun _ cut => ne_nil_of_mem_cutAt cut
  have distinct : (blockStarts decode code entry).Nodup :=
    (consecutive.ascending.sublist starts_sublist).imp ne_of_lt
  rw [blocks_functionBody] at split
  obtain ⟨front, insn, tail, rest, cut, rfl, next⟩ := exists_group_of_blocksOf nonempty split
  have last : (insn :: tail).getLast (by simp) ∈ decode code entry := by
    rw [← flatten_cutAt (leaders entry (decode code entry)) (decode code entry), cut]
    apply List.mem_flatten_of_mem (List.mem_append_right _ List.mem_cons_self)
    exact List.getLast_mem _
  refine ⟨_, last, ?_, ?_⟩
  · rw [List.getLast?_map, List.getLast?_eq_some_getLast (List.cons_ne_nil _ _)]
    rfl
  · rw [cut] at nonempty
    rw [blockStarts, cut] at distinct
    rw [next, branches_functionBody, cut, filter_branchesOf nonempty distinct]
    exact leaves_blockBranches consecutive last

/-- Records keep the addresses of blocks. -/
theorem closed_flowGraph {function : Function}
    (blocks : function.blocks = (functionBody decode code entry functions strings).blocks)
    (branches : function.branches = (functionBody decode code entry functions strings).branches) :
    function.flowGraph.Closed := by
  have addresses : ∀ address, address ∈ function.blocks.map (·.address) →
      address ∈ function.flowGraph.blocks.filterMap (·.address?) := by
    intro address listed
    obtain ⟨block, member, rfl⟩ := List.mem_map.mp listed
    have sorted : block ∈ function.sortedBlocks := function.sortedBlocks_perm.mem_iff.mpr member
    rw [blocks] at member
    refine List.mem_filterMap.mpr ⟨block.record, List.mem_map_of_mem sorted, ?_⟩
    rw [← head?_of_mem_blocks member, BasicBlock.address?, Block.record, List.head?_map,
      Option.map_map]
    rfl
  intro edge member
  have listed : edge ∈ function.branches := member
  rw [branches] at listed
  obtain ⟨source, target⟩ := closed_functionBody edge listed
  rw [← blocks] at source target
  exact ⟨addresses _ source, addresses _ target⟩

end Body

/-- The branches of a function form a graph of its blocks, and so do the edges of
its flow graph.  If the decoder goes through code without a gap, each block is
left as its last instruction says. -/
theorem readBody_flows (decode : Decoder) (code : Bytes) (entry : Int) (functions : List Int)
    (strings : Int → Option Bytes) (body : Body)
    (read : readBody decode code entry functions strings = .ok body) :
    body.Closed ∧
      (Consecutive code entry (decode code entry) → body.Flows (decode code entry)
        (reportInsn (body.blocks.map (·.address)) functions strings)) ∧
      ∀ function : Function, function.blocks = body.blocks → function.branches = body.branches →
        function.flowGraph.Closed := by
  obtain ⟨_, rfl⟩ := readBody_eq_ok_iff.mp read
  rw [addresses_functionBody]
  exact ⟨closed_functionBody, flows_functionBody, fun _ => closed_flowGraph⟩

theorem loopingBody_flows :
    readBody (decodeTable loopingTable) loopingCode 0x10 [] (fun _ => none) = .ok loopingBody ∧
      Consecutive loopingCode 0x10 (decodeTable loopingTable loopingCode 0x10) ∧
      loopingBody.Flows (decodeTable loopingTable loopingCode 0x10)
        (reportInsn [0x10, 0x12, 0x14, 0x15, 0x18] [] fun _ => none) ∧
      ({ address := 0x10, blocks := loopingBody.blocks,
         branches := loopingBody.branches : Function }).flowGraph.Closed := by
  have consecutive := consecutive_decodeTable loopingTable loopingCode 0x10
  obtain ⟨_, flows, closed⟩ := readBody_flows (decodeTable loopingTable) loopingCode 0x10 []
    (fun _ => none) loopingBody readBody_looping
  exact ⟨readBody_looping, consecutive, flows consecutive, closed _ rfl rfl⟩

end Disassembly

end CodeGraph
