import CodeGraph.Proofs.MarkupModes
import CodeGraph.Proofs.ReaderSafety
import CodeGraph.Proofs.RecordChecks
import Mathlib

/-!
# The verdict on a container

Checking a container reports every contradiction between its records and nothing
else, however many of its flow graphs cannot be read.  The counts that the
metadata declares are compared only with totals over all flow graphs.
-/

namespace CodeGraph

/-- The addresses of all vertices, repeated ones included. -/
def CallGraph.addresses (graph : CallGraph) : List Int :=
  graph.vertices.map (·.address)

theorem FlowGraph.length_instructions (graph : FlowGraph) :
    graph.instructions.length = graph.numInstructions := by
  rw [instructions, List.length_flatMap, List.sum_eq_foldr, numInstructions]

namespace Container

open Sequencing

/-! ## One result for some of the items -/

/-- The items that raise something do so once, in order, and the others raise
nothing. -/
inductive OnePer {α β : Type} (raises : α → β → Prop) : List α → List β → Prop where
  | nil : OnePer raises [] []
  | raised {item : α} {result : β} {items : List α} {results : List β} :
      raises item result → OnePer raises items results →
      OnePer raises (item :: items) (result :: results)
  | silent {item : α} {items : List α} {results : List β} :
      (∀ result, ¬raises item result) → OnePer raises items results →
      OnePer raises (item :: items) results

theorem onePer_flatMap {α β : Type} {raises : α → β → Prop} {step : α → List β}
    (described : ∀ item, (∃ result, step item = [result] ∧ raises item result) ∨
      step item = [] ∧ ∀ result, ¬raises item result)
    (items : List α) : OnePer raises items (items.flatMap step) := by
  induction items with
  | nil => exact .nil
  | cons item items induction =>
      rw [List.flatMap_cons]
      rcases described item with ⟨result, outcome, raised⟩ | ⟨outcome, silent⟩
      · rw [outcome]
        exact .raised raised induction
      · rw [outcome]
        exact .silent silent induction

/-! ## Vertices -/

/-- The vertex at an address that no later vertex has. -/
def IsLastVertex (graph : CallGraph) (address : Int) (vertex : CallGraph.Vertex) : Prop :=
  vertex.address = address ∧ ∃ before after, graph.vertices = before ++ vertex :: after ∧
    ∀ later ∈ after, later.address ≠ address

theorem lastVertex?_eq_some_iff {graph : CallGraph} {address : Int} {vertex : CallGraph.Vertex} :
    lastVertex? graph address = some vertex ↔ IsLastVertex graph address vertex := by
  unfold lastVertex? IsLastVertex
  rw [List.find?_eq_some_iff_append]
  simp only [beq_iff_eq, Bool.not_eq_true', beq_eq_false_iff_ne]
  refine and_congr_right fun _ => ?_
  constructor
  -- The search runs from the end, so what it passed over comes later.
  · rintro ⟨after, before, reversed, others⟩
    refine ⟨before.reverse, after.reverse, ?_, ?_⟩
    · rw [← List.reverse_reverse graph.vertices, reversed]
      simp
    · intro later member
      exact others later (List.mem_reverse.mp member)
  · rintro ⟨before, after, same, others⟩
    refine ⟨after.reverse, before.reverse, ?_, ?_⟩
    · rw [same]
      simp
    · intro later member
      exact others later (List.mem_reverse.mp member)

theorem lastVertex?_eq_none_iff {graph : CallGraph} {address : Int} :
    lastVertex? graph address = none ↔ address ∉ graph.addresses := by
  unfold lastVertex? CallGraph.addresses
  rw [List.find?_eq_none]
  simp

/-- Every vertex is either the first at its address or a duplicate. -/
theorem length_duplicateVertices_add (seen : List Int) (vertices : List CallGraph.Vertex) :
    (duplicateVertices seen vertices).length +
      ((vertices.map (·.address)).toFinset \ seen.toFinset).card = vertices.length := by
  induction vertices generalizing seen with
  | nil => simp [duplicateVertices]
  | cons vertex rest induction =>
      have later := induction (vertex.address :: seen)
      rw [List.toFinset_cons] at later
      rw [duplicateVertices, List.map_cons, List.toFinset_cons, List.length_append,
        List.length_cons]
      -- A new address leaves the set of those that are still to be met.
      by_cases known : vertex.address ∈ seen
      · have repeated : insert vertex.address seen.toFinset = seen.toFinset :=
          Finset.insert_eq_self.mpr (List.mem_toFinset.mpr known)
        rw [repeated] at later
        rw [if_pos (by simpa using known), List.length_singleton,
          Finset.insert_sdiff_of_mem _ (List.mem_toFinset.mpr known)]
        omega
      · have fresh : vertex.address ∉ seen.toFinset := by simpa using known
        have counted := Finset.card_erase_add_one (Finset.mem_insert_self vertex.address
          ((rest.map (·.address)).toFinset \ seen.toFinset))
        rw [Finset.erase_insert_eq_erase, ← Finset.sdiff_insert] at counted
        rw [if_neg (by simpa using known), List.length_nil,
          Finset.insert_sdiff_of_notMem _ fresh]
        omega

theorem unknownCallers_eq_map (graph : CallGraph) :
    unknownCallers graph = (graph.edges.filter fun edge =>
      edge.sourceFunction ∉ graph.addresses).map .unknownCaller := by
  unfold unknownCallers CallGraph.addresses
  congr 1
  apply List.filter_congr
  intro edge _
  rw [Bool.eq_iff_iff]
  simp

theorem mem_unknownCallers_iff {graph : CallGraph} {fault : Fault} :
    fault ∈ unknownCallers graph ↔ ∃ edge ∈ graph.edges,
      fault = .unknownCaller edge ∧ edge.sourceFunction ∉ graph.addresses := by
  rw [unknownCallers_eq_map]
  simp only [List.mem_map, List.mem_filter, decide_eq_true_eq]
  constructor
  · rintro ⟨edge, ⟨member, unknown⟩, rfl⟩
    exact ⟨edge, member, rfl, unknown⟩
  · rintro ⟨edge, member, rfl, unknown⟩
    exact ⟨edge, ⟨member, unknown⟩, rfl⟩

/-! ## Flow graphs -/

/-- The flow graphs that can be read, in the order of the index. -/
def Reader.readable (reader : Reader) : List FlowGraph :=
  (List.range reader.count).filterMap fun position : Nat =>
    (reader.flowGraphAt position).1.toOption

/-- The positions of the flow graphs that cannot be read. -/
def Reader.unreadable (reader : Reader) : List Nat :=
  (List.range reader.count).filter fun position : Nat =>
    (reader.flowGraphAt position).1.toOption.isNone

theorem exists_related_of_mem {α β : Type} {related : α → β → Prop} {items : List α}
    {others : List β} (pairs : List.Forall₂ related items others) {item : α}
    (member : item ∈ items) : ∃ other ∈ others, related item other := by
  induction pairs with
  | nil => cases member
  | @cons first partner _ _ here _ induction =>
      rcases List.mem_cons.mp member with rfl | later
      · exact ⟨partner, List.mem_cons_self, here⟩
      · obtain ⟨other, among, holds⟩ := induction later
        exact ⟨other, List.mem_cons_of_mem _ among, holds⟩

section Bodies

variable {reader : Reader} {positions : List Nat} {bodies : Bodies}
  (read : List.Forall₂ (ReadAs reader) positions bodies)
include read

theorem filterMap_toOption_of_readAs :
    (positions.filterMap fun position : Nat => (reader.flowGraphAt position).1.toOption) =
      bodies.filterMap Except.toOption := by
  induction read with
  | nil => rfl
  | @cons position body _ _ first _ induction =>
      rw [List.filterMap_cons, List.filterMap_cons, first, induction]
      cases body with
      | error error => rfl
      | ok graph => rfl

theorem length_filter_isNone_of_readAs :
    (positions.filter fun position : Nat =>
      (reader.flowGraphAt position).1.toOption.isNone).length =
        (bodies.filter (·.toOption.isNone)).length := by
  induction read with
  | nil => rfl
  | @cons position body _ _ first _ induction =>
      rw [List.filter_cons, List.filter_cons, first]
      cases body with
      | error error => exact congrArg (· + 1) induction
      | ok graph => exact induction

theorem exists_mem_of_position {position : Nat} (member : position ∈ positions) :
    ∃ body ∈ bodies, ReadAs reader position body :=
  exists_related_of_mem read member

theorem exists_position_of_mem {body : Except RecordError FlowGraph} (member : body ∈ bodies) :
    ∃ position ∈ positions, ReadAs reader position body := by
  have reversed : List.Forall₂ (flip (ReadAs reader)) bodies positions := List.Forall₂.flip read
  exact exists_related_of_mem reversed member

end Bodies

theorem ReadAs.ok_iff {reader : Reader} {position : Nat} {body : Except RecordError FlowGraph}
    (read : ReadAs reader position body) (graph : FlowGraph) :
    (reader.flowGraphAt position).1 = .ok graph ↔ body = .ok graph := by
  rw [read]
  exact mapError_eq_ok_iff

theorem ReadAs.error_iff {reader : Reader} {position : Nat} {body : Except RecordError FlowGraph}
    (read : ReadAs reader position body) (error : RecordError) :
    (reader.flowGraphAt position).1 = .error (.record error) ↔ body = .error error := by
  rw [read, mapError_eq_error_iff]
  simp

/-! ## What one flow graph adds -/

/-- The flow graph belongs to a function that should have none. -/
def Unexpected (callGraph : CallGraph) (graph : FlowGraph) (concern : Concern) : Prop :=
  ∃ vertex, IsLastVertex callGraph graph.address vertex ∧
    ∃ kind ∈ [FunctionKind.library, .imported, .invalid], vertex.kind = kind.code ∧
      concern = .unexpectedBody graph.address kind

theorem faults_checkVertex (callGraph : CallGraph) (graph : FlowGraph) :
    (checkVertex callGraph graph).1 =
      if graph.address ∈ callGraph.addresses then [] else [.noVertex graph.address] := by
  unfold checkVertex
  cases found : lastVertex? callGraph graph.address with
  | none => rw [if_neg (lastVertex?_eq_none_iff.mp found)]
  | some vertex =>
      have known : graph.address ∈ callGraph.addresses := by
        by_contra unknown
        rw [lastVertex?_eq_none_iff.mpr unknown] at found
        cases found
      rw [if_pos known]
      simp only
      split
      · rfl
      · rfl

theorem concerns_checkVertex (callGraph : CallGraph) (graph : FlowGraph) :
    (∃ concern, (checkVertex callGraph graph).2 = [concern] ∧
        Unexpected callGraph graph concern) ∨
      (checkVertex callGraph graph).2 = [] ∧
        ∀ concern, ¬Unexpected callGraph graph concern := by
  unfold checkVertex Unexpected
  simp only [← lastVertex?_eq_some_iff]
  cases found : lastVertex? callGraph graph.address with
  | none =>
      refine .inr ⟨rfl, ?_⟩
      rintro concern ⟨vertex, impossible, _⟩
      cases impossible
  | some vertex =>
      cases listed : bodyless.find? (·.code == vertex.kind) with
      | some kind =>
          have same := List.find?_some listed
          refine .inl ⟨_, by simp only [listed], vertex, rfl, kind,
            List.mem_of_find?_eq_some listed, ?_, rfl⟩
          exact (beq_iff_eq.mp same).symm
      | none =>
          refine .inr ⟨by simp only [listed], ?_⟩
          rintro concern ⟨_, same, kind, among, code, _⟩
          cases same
          exact List.find?_eq_none.mp listed kind among (beq_iff_eq.mpr code.symm)

theorem length_faults_checkBody (callGraph : CallGraph) (bodies : Bodies) :
    ((bodies.map (checkBody callGraph)).flatMap (·.1)).length =
      (bodies.filter (·.toOption.isNone)).length +
        ((bodies.filterMap Except.toOption).filter
          (·.address ∉ callGraph.addresses)).length := by
  induction bodies with
  | nil => rfl
  | cons body bodies induction =>
      rw [List.map_cons, List.flatMap_cons, List.length_append, induction]
      cases body with
      | error error =>
          rw [List.filter_cons_of_pos rfl, List.filterMap_cons_none rfl, List.length_cons]
          have one : (checkBody callGraph (.error error)).1.length = 1 := rfl
          omega
      | ok graph =>
          have kept : Except.toOption (.ok graph : Except RecordError FlowGraph) = some graph := rfl
          rw [List.filter_cons_of_neg Bool.false_ne_true, List.filterMap_cons_some kept, checkBody,
            faults_checkVertex]
          by_cases known : graph.address ∈ callGraph.addresses
          · rw [if_pos known, List.filter_cons_of_neg (by simpa using known), List.length_nil,
              Nat.zero_add]
          · rw [if_neg known, List.filter_cons_of_pos (by simpa using known)]
            simp only [List.length_cons, List.length_nil]
            omega

theorem mem_faults_checkBody_iff {callGraph : CallGraph} {bodies : Bodies} {fault : Fault} :
    fault ∈ (bodies.map (checkBody callGraph)).flatMap (·.1) ↔
      (∃ error, .error error ∈ bodies ∧ fault = .unreadable error) ∨
        ∃ graph, .ok graph ∈ bodies ∧ graph.address ∉ callGraph.addresses ∧
          fault = .noVertex graph.address := by
  rw [List.flatMap_map, List.mem_flatMap]
  constructor
  · rintro ⟨body, member, raised⟩
    cases body with
    | error error => exact .inl ⟨error, member, List.mem_singleton.mp raised⟩
    | ok graph =>
        rw [checkBody, faults_checkVertex] at raised
        split at raised
        · cases raised
        · next unknown => exact .inr ⟨graph, member, unknown, List.mem_singleton.mp raised⟩
  · rintro (⟨error, member, rfl⟩ | ⟨graph, member, unknown, rfl⟩)
    · exact ⟨_, member, List.mem_singleton_self _⟩
    · refine ⟨_, member, ?_⟩
      rw [checkBody, faults_checkVertex, if_neg unknown]
      exact List.mem_singleton_self _

theorem concerns_checkBody (callGraph : CallGraph) (bodies : Bodies) :
    (bodies.map (checkBody callGraph)).flatMap (·.2) =
      (bodies.filterMap Except.toOption).flatMap fun graph => (checkVertex callGraph graph).2 := by
  induction bodies with
  | nil => rfl
  | cons body bodies induction =>
      rw [List.map_cons, List.flatMap_cons, induction]
      cases body with
      | error error => rfl
      | ok graph => rfl

/-! ## Counts -/

/-- The totals over the flow graphs that can be read; functions are counted by
the index. -/
def Count.total (reader : Reader) : Count → Nat
  | .functions => reader.count
  | .basicBlocks => (reader.readable.flatMap (·.blocks)).length
  | .instructions => (reader.readable.flatMap (·.instructions)).length
  | .edges => (reader.readable.flatMap (·.edges)).length

/-- The metadata declares a number for a count. -/
inductive Declares (metadata : Meta) : Count → Int → Prop where
  | functions {number : Int} : metadata.numFunctions = some number →
      Declares metadata .functions number
  | basicBlocks {number : Int} : metadata.numBasicBlocks = some number →
      Declares metadata .basicBlocks number
  | instructions {number : Int} : metadata.numInstructions = some number →
      Declares metadata .instructions number
  | edges {number : Int} : metadata.numEdges = some number → Declares metadata .edges number

theorem declares_iff {metadata : Meta} {count : Count} {number : Int} :
    Declares metadata count number ↔ count.declared metadata = some number := by
  constructor
  · intro declares
    cases declares with
    | functions given => exact given
    | basicBlocks given => exact given
    | instructions given => exact given
    | edges given => exact given
  · intro given
    cases count with
    | functions => exact .functions given
    | basicBlocks => exact .basicBlocks given
    | instructions => exact .instructions given
    | edges => exact .edges given

/-- The metadata declares another number than the total. -/
def Miscounted (reader : Reader) (metadata : Meta) (count : Count) (concern : Concern) : Prop :=
  ∃ declared, Declares metadata count declared ∧ declared ≠ count.total reader ∧
    concern = .countDiffers count declared (count.total reader)

theorem Count.actual_eq_total (reader : Reader) (count : Count) :
    count.actual reader.count reader.readable = count.total reader := by
  cases count with
  | functions => rfl
  | basicBlocks => rw [actual, total, List.length_flatMap, List.sum_eq_foldr]
  | instructions =>
      simp only [actual, total, List.length_flatMap, List.sum_eq_foldr,
        FlowGraph.length_instructions]
  | edges => rw [actual, total, List.length_flatMap, List.sum_eq_foldr]

theorem onePer_checkCounts (reader : Reader) (metadata : Meta) :
    OnePer (Miscounted reader metadata) [.functions, .basicBlocks, .instructions, .edges]
      (checkCounts metadata reader.count reader.readable) := by
  unfold checkCounts
  rw [List.filterMap_eq_flatMap_toList]
  apply onePer_flatMap
  intro count
  simp only [Count.actual_eq_total]
  unfold Miscounted
  simp only [declares_iff]
  cases count.declared metadata with
  | none =>
      refine .inr ⟨rfl, ?_⟩
      rintro concern ⟨declared, impossible, _⟩
      cases impossible
  | some declared =>
      by_cases same : declared = count.total reader
      · refine .inr ⟨by simp [same], ?_⟩
        rintro concern ⟨_, given, differs, _⟩
        cases given
        exact differs same
      · exact .inl ⟨_, by simp only [if_pos same]; rfl, declared, rfl, same, rfl⟩

/-! ## The verdict -/

/-- No two records of a container contradict each other, and all can be read. -/
structure Consistent (reader : Reader) (callGraph : CallGraph) : Prop where
  distinct : callGraph.addresses.Nodup
  callers : ∀ edge ∈ callGraph.edges, edge.sourceFunction ∈ callGraph.addresses
  flowGraphs : ∀ position : Nat, position < reader.count →
    ∃ graph, (reader.flowGraphAt position).1 = .ok graph ∧ graph.address ∈ callGraph.addresses

/-- What each fault of a report stands for. -/
inductive Violation (reader : Reader) (callGraph : CallGraph) : Fault → Prop where
  | duplicateVertex {address : Int} : List.Duplicate address callGraph.addresses →
      Violation reader callGraph (.duplicateVertex address)
  | unknownCaller {edge : CallGraph.Edge} : edge ∈ callGraph.edges →
      edge.sourceFunction ∉ callGraph.addresses →
      Violation reader callGraph (.unknownCaller edge)
  | unreadable {position : Nat} {error : RecordError} : position < reader.count →
      (reader.flowGraphAt position).1 = .error (.record error) →
      Violation reader callGraph (.unreadable error)
  | noVertex {position : Nat} {graph : FlowGraph} : position < reader.count →
      (reader.flowGraphAt position).1 = .ok graph → graph.address ∉ callGraph.addresses →
      Violation reader callGraph (.noVertex graph.address)

/-- What a report says about the records of a container. -/
structure Verdict (reader : Reader) (metadata : Meta) (callGraph : CallGraph)
    (report : Report) : Prop where
  ok : report.ok = true ↔ Consistent reader callGraph
  violations : ∀ fault, fault ∈ report.faults ↔ Violation reader callGraph fault
  faults : report.faults.length =
    (callGraph.vertices.length - callGraph.addresses.dedup.length) +
      (callGraph.edges.filter (·.sourceFunction ∉ callGraph.addresses)).length +
      reader.unreadable.length +
      (reader.readable.filter (·.address ∉ callGraph.addresses)).length
  checked : report.checked = reader.readable.length
  concerns : ∃ bodies counts, report.concerns = bodies ++ counts ∧
    OnePer (Unexpected callGraph) reader.readable bodies ∧
    (reader.unreadable = [] →
      OnePer (Miscounted reader metadata) [.functions, .basicBlocks, .instructions, .edges]
        counts) ∧
    (reader.unreadable ≠ [] → counts = [])

section Report

variable {reader : Reader} {bodies : Bodies}
  (read : List.Forall₂ (ReadAs reader) (List.range reader.count) bodies)
include read

theorem mem_faults_reportOn_iff (metadata : Meta) (callGraph : CallGraph) (fault : Fault) :
    fault ∈ (reportOn metadata callGraph bodies).faults ↔ Violation reader callGraph fault := by
  unfold reportOn
  simp only [List.mem_append, mem_duplicateVertices_iff, mem_unknownCallers_iff,
    mem_faults_checkBody_iff]
  constructor
  · rintro ((⟨address, rfl, ⟨impossible, _⟩ | repeated⟩ | ⟨edge, member, rfl, unknown⟩) |
      ⟨error, member, rfl⟩ | ⟨graph, member, unknown, rfl⟩)
    · cases impossible
    · exact .duplicateVertex repeated
    · exact .unknownCaller member unknown
    · obtain ⟨position, inside, same⟩ := exists_position_of_mem read member
      exact .unreadable (List.mem_range.mp inside) same
    · obtain ⟨position, inside, same⟩ := exists_position_of_mem read member
      exact .noVertex (List.mem_range.mp inside) same unknown
  · intro violated
    cases violated with
    | duplicateVertex repeated => exact .inl (.inl ⟨_, rfl, .inr repeated⟩)
    | unknownCaller member unknown => exact .inl (.inr ⟨_, member, rfl, unknown⟩)
    | unreadable inside failed =>
        obtain ⟨body, member, same⟩ := exists_mem_of_position read (List.mem_range.mpr inside)
        obtain rfl := (same.error_iff _).mp failed
        exact .inr (.inl ⟨_, member, rfl⟩)
    | noVertex inside returned unknown =>
        obtain ⟨body, member, same⟩ := exists_mem_of_position read (List.mem_range.mpr inside)
        obtain rfl := (same.ok_iff _).mp returned
        exact .inr (.inr ⟨_, member, unknown, rfl⟩)

/-- Records are consistent when there is nothing to report. -/
theorem consistent_iff_no_violation (callGraph : CallGraph) :
    Consistent reader callGraph ↔ ∀ fault, ¬Violation reader callGraph fault := by
  constructor
  · intro consistent fault violated
    cases violated with
    | duplicateVertex repeated =>
        exact List.nodup_iff_forall_not_duplicate.mp consistent.distinct _ repeated
    | unknownCaller member unknown => exact unknown (consistent.callers _ member)
    | unreadable inside failed =>
        obtain ⟨graph, returned, _⟩ := consistent.flowGraphs _ inside
        rw [failed] at returned
        cases returned
    | noVertex inside returned unknown =>
        obtain ⟨graph, same, known⟩ := consistent.flowGraphs _ inside
        rw [returned, Except.ok.injEq] at same
        subst same
        exact unknown known
  · intro none
    constructor
    · exact List.nodup_iff_forall_not_duplicate.mpr fun address repeated =>
        none _ (.duplicateVertex repeated)
    · intro edge member
      by_contra unknown
      exact none _ (.unknownCaller member unknown)
    · intro position inside
      -- A report exists, so whatever was not read is the fault of its record.
      obtain ⟨body, _, same⟩ := exists_mem_of_position read (List.mem_range.mpr inside)
      cases body with
      | error error => exact (none _ (.unreadable inside same)).elim
      | ok graph =>
          refine ⟨graph, same, ?_⟩
          by_contra unknown
          exact none _ (.noVertex inside same unknown)

theorem length_faults_reportOn (metadata : Meta) (callGraph : CallGraph) :
    (reportOn metadata callGraph bodies).faults.length =
      (callGraph.vertices.length - callGraph.addresses.dedup.length) +
        (callGraph.edges.filter (·.sourceFunction ∉ callGraph.addresses)).length +
        reader.unreadable.length +
        (reader.readable.filter (·.address ∉ callGraph.addresses)).length := by
  have duplicates := length_duplicateVertices_add [] callGraph.vertices
  rw [List.toFinset_nil, Finset.sdiff_empty, List.card_toFinset] at duplicates
  unfold reportOn Reader.unreadable Reader.readable
  simp only [List.length_append, length_faults_checkBody, unknownCallers_eq_map, List.length_map,
    length_filter_isNone_of_readAs read, filterMap_toOption_of_readAs read]
  unfold CallGraph.addresses
  omega

theorem unreadable_eq_nil_iff :
    reader.unreadable = [] ↔ (bodies.filterMap Except.toOption).length = bodies.length := by
  rw [← List.length_eq_zero_iff, Reader.unreadable, length_filter_isNone_of_readAs read,
    List.length_eq_zero_iff, List.filter_eq_nil_iff, List.filterMap_length_eq_length]
  simp only [Bool.not_eq_true, Option.isNone_eq_false_iff]

theorem verdict_reportOn (metadata : Meta) (callGraph : CallGraph) :
    Verdict reader metadata callGraph (reportOn metadata callGraph bodies) where
  ok := by
    rw [Report.ok, List.isEmpty_iff, List.eq_nil_iff_forall_not_mem,
      consistent_iff_no_violation read]
    simp only [mem_faults_reportOn_iff read]
  violations := mem_faults_reportOn_iff read metadata callGraph
  faults := length_faults_reportOn read metadata callGraph
  checked := by
    rw [Reader.readable, filterMap_toOption_of_readAs read]
    rfl
  concerns := by
    have positions : bodies.length = reader.count := by
      rw [← read.length_eq, List.length_range]
    have readable : bodies.filterMap Except.toOption = reader.readable :=
      (filterMap_toOption_of_readAs read).symm
    refine ⟨_, _, rfl, ?_, ?_, ?_⟩
    · rw [concerns_checkBody, readable]
      exact onePer_flatMap (concerns_checkVertex callGraph) reader.readable
    · intro complete
      rw [if_pos ((unreadable_eq_nil_iff read).mp complete), readable, positions]
      exact onePer_checkCounts reader metadata
    · intro incomplete
      rw [if_neg fun complete => incomplete ((unreadable_eq_nil_iff read).mpr complete)]

end Report

/-- The verdict on a container is exact.  Only a store that fails to deliver
leaves a container without a report. -/
theorem validate_exact {store : Store} {strict : Bool} {reader : Reader}
    (opened : Reader.ofStore store strict = .ok reader) {metadata : Meta}
    (metadataRead : reader.metadata = .ok metadata) {callGraph : CallGraph}
    (callGraphRead : reader.callGraph = .ok callGraph) :
    (store.faults = {} → ∃ report, (validate reader).1 = .ok report) ∧
      ∀ report, (validate reader).1 = .ok report → Verdict reader metadata callGraph report := by
  have outcome : (validate reader).1 =
      (readBodies reader (List.range reader.count)).1.map (reportOn metadata callGraph) := by
    unfold validate
    simp only [metadataRead, callGraphRead]
  rw [outcome]
  constructor
  · intro faultless
    obtain ⟨_, rfl⟩ := (Reader.ofStore_eq_ok_iff faultless).mp opened
    obtain ⟨bodies, succeeded⟩ := (Reader.sound_of_trusted faultless strict).readBodies_succeeds
      fun _ => List.mem_range.mp
    rw [succeeded]
    exact ⟨_, rfl⟩
  · intro report returned
    obtain ⟨bodies, succeeded, rfl⟩ := map_eq_ok_iff.mp returned
    exact verdict_reportOn (readBodies_eq_ok_iff.mp succeeded) metadata callGraph

/-- Two vertices at address 5, a call from a function without a vertex, a flow
graph that starts past the end and a wrong count. -/
def contradictoryReader : Reader where
  store := { bytes :=
    [36, 0, 0, 0, 38, 0, 0, 0, 2, 0, 0, 0,
     5, 0, 0, 0, 0, 0, 0, 0, 58, 0, 0, 0,
     7, 0, 0, 0, 0, 0, 0, 0, 71, 0, 0, 0,
     48, 5,
     10, 4, 8, 5, 16, 0, 10, 4, 8, 5, 16, 0, 18, 6, 8, 6, 16, 6, 24, 5,
     8, 5, 18, 8, 8, 0, 18, 4, 8, 5, 16, 0] }
  strict := false
  size := 70
  index := ⟨36, 38, [⟨5, 58⟩, ⟨7, 71⟩]⟩

def contradictoryCallGraph : CallGraph where
  vertices := [{ address := 5, prime := 0 }, { address := 5, prime := 0 }]
  edges := [⟨6, 6, 5⟩]

def contradictoryFlowGraph : FlowGraph where
  address := 5
  blocks := [{ prime := 0, instructions := [{ address := 5, prime := 0 }] }]

theorem contradictoryReader_verdict :
    ∃ report, (validate contradictoryReader).1 = .ok report ∧
      Verdict contradictoryReader { numInstructions := some 5 } contradictoryCallGraph report ∧
      report.faults.length = 3 ∧ report.checked = 1 := by
  have opened : Reader.ofStore contradictoryReader.store false = .ok contradictoryReader := by
    decide
  have metadataRead : contradictoryReader.metadata = .ok { numInstructions := some 5 } := by cbv
  have callGraphRead : contradictoryReader.callGraph = .ok contradictoryCallGraph := by cbv
  obtain ⟨reports, exact⟩ := validate_exact opened metadataRead callGraphRead
  obtain ⟨report, returned⟩ := reports rfl
  have verdict := exact report returned
  have unreadable : contradictoryReader.unreadable = [1] := by cbv
  have readable : contradictoryReader.readable = [contradictoryFlowGraph] := by cbv
  refine ⟨report, returned, verdict, ?_, ?_⟩
  · rw [verdict.faults, unreadable, readable]
    decide
  · rw [verdict.checked, readable]
    rfl

end Container

end CodeGraph
