import CodeGraph.Container.Layout
import CodeGraph.Proofs.FlowGraphRoundTrip
import CodeGraph.Proofs.WriterSteps
import Mathlib

/-!
# A written container is its records in a row

The header is left open until the last flow graph is known, records are
appended where the store stands, and the header is patched in the end.  What
comes out is the packed index, the metadata, the call graph and the flow graphs
one after the other, at any place of any store.
-/

namespace CodeGraph.Container

open Sequencing

/-! ## Contents -/

/-- The payloads of a container, those of flow graphs with their addresses. -/
structure Contents where
  metadata : Bytes
  callGraph : Bytes
  flowGraphs : List (Int × Bytes)

/-- The entries of flow graphs that lie one after the other from an offset on. -/
def entriesFrom : Nat → List (Int × Bytes) → List Entry
  | _, [] => []
  | offset, (address, payload) :: rest =>
      ⟨address, offset⟩ :: entriesFrom (offset + payload.length) rest

/-- The payloads of flow graphs in a row. -/
def joined (flowGraphs : List (Int × Bytes)) : Bytes :=
  (flowGraphs.map Prod.snd).flatten

namespace Contents

def addresses (contents : Contents) : List Int :=
  contents.flowGraphs.map Prod.fst

/-- The size of the header, which is where the metadata starts. -/
def headerLength (contents : Contents) : Nat :=
  12 + contents.flowGraphs.length * 12

/-- The index of records that lie one after the other behind the header. -/
def index (contents : Contents) : Index where
  metaOffset := contents.headerLength
  callGraphOffset := (contents.headerLength + contents.metadata.length : Nat)
  entries := entriesFrom
    (contents.headerLength + contents.metadata.length + contents.callGraph.length)
    contents.flowGraphs

/-- Everything behind the header. -/
def body (contents : Contents) : Bytes :=
  contents.metadata ++ contents.callGraph ++ joined contents.flowGraphs

/-- Every offset takes four bytes at most. -/
def WithinOffsets (contents : Contents) : Prop :=
  ∀ placement ∈ contents.index.placements, placement.offset ≤ 0xFFFFFFFF

instance (contents : Contents) : Decidable contents.WithinOffsets :=
  inferInstanceAs (Decidable (∀ placement ∈ contents.index.placements, _))

end Contents

namespace Contents

theorem withinOffsets_iff {contents : Contents} :
    contents.WithinOffsets ↔
      contents.headerLength + contents.metadata.length ≤ maxOffset ∧
        ∀ entry ∈ contents.index.entries, entry.offset ≤ 0xFFFFFFFF := by
  unfold WithinOffsets Index.placements
  simp only [List.forall_mem_cons]
  constructor
  · intro within
    obtain ⟨_, callGraph, flowGraphs⟩ := within
    refine ⟨Int.ofNat_le.mp callGraph, ?_⟩
    intro entry member
    obtain ⟨position, found⟩ := List.mem_iff_getElem?.mp member
    exact flowGraphs _
      (List.mem_map.mpr ⟨(entry, position), List.mk_mem_zipIdx_iff_getElem?.mpr found, rfl⟩)
  · intro both
    obtain ⟨callGraph, flowGraphs⟩ := both
    have header : contents.headerLength ≤ maxOffset := by omega
    refine ⟨Int.ofNat_le.mpr header, Int.ofNat_le.mpr callGraph, ?_⟩
    intro placement member
    obtain ⟨item, found, rfl⟩ := List.mem_map.mp member
    exact flowGraphs item.1 (List.fst_mem_of_mem_zipIdx found)

end Contents

/-- The payloads are those of the records and items. -/
structure Encoded (metadata : Meta) (callGraph : CallGraph) (items : List Item)
    (contents : Contents) : Prop where
  metadata : Codec.encodeMetadata metadata = .ok contents.metadata
  callGraph : Codec.encodeCallGraph callGraph = .ok contents.callGraph
  flowGraphs : items.mapM Item.encode = .ok contents.flowGraphs

/-- The number of items is declared, or nothing is declared and it can be told. -/
def Source.Announced (source : Source) : Prop :=
  source.declared = some (source.items.length : Int) ∨
    source.declared = none ∧ source.sized = true

@[simp] theorem length_entriesFrom (offset : Nat) (flowGraphs : List (Int × Bytes)) :
    (entriesFrom offset flowGraphs).length = flowGraphs.length := by
  induction flowGraphs generalizing offset with
  | nil => rfl
  | cons flowGraph rest induction => simp [entriesFrom, induction]

@[simp] theorem addresses_entriesFrom (offset : Nat) (flowGraphs : List (Int × Bytes)) :
    (entriesFrom offset flowGraphs).map (·.address) = flowGraphs.map Prod.fst := by
  induction flowGraphs generalizing offset with
  | nil => rfl
  | cons flowGraph rest induction => simp [entriesFrom, induction]

/-! ## Appending items -/

namespace Plan

variable {store : Store} {plan : Plan}

theorem encode_of_reaches_appendItem {listener : Listener} {item : Item}
    {known : Option Stream.Opening} {entries : List Entry} {before after : Progress Store}
    {result : Stream.Opening × Entry} (run : Reaches
      (Store.asStream.appendItem plan listener known entries item) before result after) :
    ∃ flowGraph, item.encode = .ok flowGraph := by
  cases encoded : item.encode with
  | ok flowGraph => exact ⟨flowGraph, rfl⟩
  | error error =>
      unfold Stream.appendItem at run
      rw [encoded] at run
      obtain ⟨_, _, impossible, _⟩ := reaches_bind_iff.mp run
      cases impossible

theorem encoded_of_reaches {listener : Listener} {items : List Item}
    {known : Option Stream.Opening} {entries : List Entry} {before after : Progress Store}
    {result : Option Stream.Opening × List Entry} (run : Reaches
      (Store.asStream.appendItems plan listener known entries items) before result after) :
    ∃ flowGraphs, items.mapM Item.encode = .ok flowGraphs := by
  induction items generalizing known entries before with
  | nil => exact ⟨[], rfl⟩
  | cons item items induction =>
      obtain ⟨_, _, first, rest⟩ := reaches_bind_iff.mp run
      obtain ⟨flowGraph, encoded⟩ := encode_of_reaches_appendItem first
      obtain ⟨flowGraphs, encodedRest⟩ := induction rest
      exact ⟨flowGraph :: flowGraphs,
        mapM_cons_eq_ok_iff.mpr ⟨_, _, encoded, encodedRest, rfl⟩⟩

/-! An accepted item leaves entries that fit the plan and are distinct. -/

theorem Accepts.bounded {entries : List Entry} {address : Int} {start : Nat}
    (accepts : plan.Accepts entries address start) (offset : Int) :
    (entries ++ [(⟨address, offset⟩ : Entry)]).length ≤ plan.count := by
  rw [List.length_append]
  exact accepts.room

theorem Accepts.distinct {entries : List Entry} {address : Int} {start : Nat}
    (accepts : plan.Accepts entries address start)
    (distinct : (entries.map (·.address)).Nodup) (offset : Int) :
    ((entries ++ [(⟨address, offset⟩ : Entry)]).map (·.address)).Nodup := by
  rw [List.map_append, List.map_singleton]
  exact List.Nodup.append distinct (List.nodup_singleton _)
    (List.disjoint_singleton.mpr accepts.fresh)

/-- Flow graphs that can be appended behind some entries, from an offset on. -/
structure Appendable (plan : Plan) (listener : Listener) (entries : List Entry) (offset : Nat)
    (flowGraphs : List (Int × Bytes)) : Prop where
  count : entries.length + flowGraphs.length ≤ plan.count
  distinct : (entries.map (·.address) ++ flowGraphs.map Prod.fst).Nodup
  offsets : ∀ entry ∈ entriesFrom offset flowGraphs, entry.offset ≤ 0xFFFFFFFF
  heard : ∀ address ∈ flowGraphs.map Prod.fst, listener address = none

theorem appendable_nil_iff {listener : Listener} {entries : List Entry} {offset : Nat} :
    Appendable plan listener entries offset [] ↔
      entries.length ≤ plan.count ∧ (entries.map (·.address)).Nodup := by
  constructor
  · intro appendable
    exact ⟨appendable.count, by simpa using appendable.distinct⟩
  · intro both
    exact ⟨both.1, by simpa using both.2, by simp [entriesFrom], by simp⟩

theorem appendable_cons_iff {listener : Listener} {entries : List Entry} {offset : Nat}
    {address : Int} {payload : Bytes} {rest : List (Int × Bytes)} :
    Appendable plan listener entries offset ((address, payload) :: rest) ↔
      (plan.Accepts entries address offset ∧ listener address = none) ∧
        Appendable plan listener (entries ++ [⟨address, offset⟩]) (offset + payload.length)
          rest := by
  have bound : maxOffset = 0xFFFFFFFF := rfl
  constructor
  · intro appendable
    obtain ⟨count, distinct, offsets, heard⟩ := appendable
    simp only [entriesFrom, List.map_cons, List.forall_mem_cons, List.length_cons] at *
    have fresh : address ∉ entries.map (·.address) := by
      intro known
      have disjoint := (List.nodup_append.mp distinct).2.2
      exact disjoint address known address List.mem_cons_self rfl
    refine ⟨⟨⟨by omega, fresh, by omega⟩, heard.1⟩, ?_, ?_, offsets.2, heard.2⟩
    · simp only [List.length_append, List.length_singleton]
      omega
    · simpa using distinct
  · intro both
    obtain ⟨⟨⟨_, _, small⟩, told⟩, count, distinct, offsets, heard⟩ := both
    refine ⟨?_, ?_, ?_, ?_⟩
    · simp only [List.length_append, List.length_cons] at count ⊢
      omega
    · simpa using distinct
    · simp only [entriesFrom, List.forall_mem_cons]
      exact ⟨by omega, offsets⟩
    · simp only [List.map_cons, List.forall_mem_cons]
      exact ⟨told, heard⟩

theorem performs_appendItems (faultless : store.faults = {}) (start : plan.start = store.position)
    (listener : Listener) (known : Stream.Opening) {items : List Item}
    {flowGraphs : List (Int × Bytes)} (encoded : items.mapM Item.encode = .ok flowGraphs)
    (entries : List Entry) (bounded : entries.length ≤ plan.count)
    (distinct : (entries.map (·.address)).Nodup)
    (content : Bytes) (calls : List Call) :
    Performs (Store.asStream.appendItems plan listener (some known) entries items)
      ⟨store.holding content, calls⟩
      (Appendable plan listener entries content.length flowGraphs)
      (some known, entries ++ entriesFrom content.length flowGraphs)
      ⟨store.holding (content ++ joined flowGraphs),
        calls ++ (flowGraphs.map Prod.fst).map (Listener.call listener)⟩ := by
  induction items generalizing flowGraphs entries content calls with
  | nil =>
      obtain rfl := mapM_nil_eq_ok_iff.mp encoded
      have unchanged : Performs (Store.asStream.appendItems plan listener (some known) entries [])
          ⟨store.holding content, calls⟩ True (some known, entries)
          ⟨store.holding content, calls⟩ :=
        performs_pure _
      simp only [joined, entriesFrom, List.map_nil, List.flatten_nil, List.append_nil]
      apply unchanged.congr
      simp [appendable_nil_iff, bounded, distinct]
  | cons item items induction =>
      obtain ⟨⟨address, payload⟩, others, first, rest, rfl⟩ := mapM_cons_eq_ok_iff.mp encoded
      have step := performs_appendItem calls content faultless start listener entries first
        (performs_ensureBegun_some known _)
      have values : entries ++ entriesFrom content.length ((address, payload) :: others) =
          entries ++ [⟨address, content.length⟩] ++
            entriesFrom (content ++ payload).length others := by
        simp [entriesFrom]
      have bytes : content ++ joined ((address, payload) :: others) =
          content ++ payload ++ joined others := by
        simp [joined]
      have given : calls ++ (((address, payload) :: others).map Prod.fst).map
            (Listener.call listener) =
          calls ++ [Listener.call listener address] ++
            (others.map Prod.fst).map (Listener.call listener) := by
        simp
      rw [values, bytes, given]
      apply Performs.congr
      · apply performs_bind_of_accepted step
        intro accepted
        obtain ⟨_, accepts, _⟩ := accepted
        exact induction rest _ (accepts.bounded _) (accepts.distinct distinct _) _ _
      · rw [appendable_cons_iff, List.length_append, true_and]

/-- Writing begins with the first item. -/
theorem performs_appendItems_first (faultless : store.faults = {})
    (start : plan.start = store.position) (listener : Listener) {item : Item} {rest : List Item}
    {flowGraphs : List (Int × Bytes)}
    (encoded : (item :: rest).mapM Item.encode = .ok flowGraphs) :
    Performs (Store.asStream.appendItems plan listener none [] (item :: rest)) ⟨store, []⟩
      ((plan.placeholder ++ plan.metadata).length ≤ maxOffset ∧
        Appendable plan listener [] plan.front.length flowGraphs)
      (some plan.opening, entriesFrom plan.front.length flowGraphs)
      ⟨store.holding (plan.front ++ joined flowGraphs),
        (flowGraphs.map Prod.fst).map (Listener.call listener)⟩ := by
  obtain ⟨⟨address, payload⟩, others, first, encodedRest, rfl⟩ := mapM_cons_eq_ok_iff.mp encoded
  have begins := performs_ensureBegun_none [] faultless start
  have step := performs_appendItem [] plan.front faultless start listener [] first begins
  have bytes : plan.front ++ joined ((address, payload) :: others) =
      plan.front ++ payload ++ joined others := by
    simp [joined]
  rw [bytes]
  apply Performs.congr
  · apply performs_bind_of_accepted step
    intro accepted
    have more := performs_appendItems faultless start listener plan.opening encodedRest
      [⟨address, plan.front.length⟩] accepted.2.1.room (by simp) (plan.front ++ payload)
      [Listener.call listener address]
    simpa [entriesFrom] using more
  · rw [appendable_cons_iff]
    simp [and_assoc]

/-- Deferring the header to the first flow graph makes no difference: whenever
writing succeeds, it was begun at the start. -/
theorem performs_appendItems_begin (faultless : store.faults = {})
    (start : plan.start = store.position) (listener : Listener) {items : List Item}
    {flowGraphs : List (Int × Bytes)} (encoded : items.mapM Item.encode = .ok flowGraphs) :
    ∃ known middle appended begun,
      Performs (Store.asStream.appendItems plan listener none [] items) ⟨store, []⟩ appended
          (known, entriesFrom plan.front.length flowGraphs) middle ∧
        Performs (Store.asStream.ensureBegun plan known) middle begun plan.opening
            ⟨store.holding (plan.front ++ joined flowGraphs),
              (flowGraphs.map Prod.fst).map (Listener.call listener)⟩ ∧
          (appended ∧ begun ↔ (plan.placeholder ++ plan.metadata).length ≤ maxOffset ∧
            Appendable plan listener [] plan.front.length flowGraphs) := by
  cases items with
  | nil =>
      obtain rfl := mapM_nil_eq_ok_iff.mp encoded
      refine ⟨none, ⟨store, []⟩, True, (plan.placeholder ++ plan.metadata).length ≤ maxOffset,
        performs_pure _, ?_, ?_⟩
      · have nothing : plan.front ++ joined [] = plan.front := by simp [joined]
        rw [nothing]
        exact performs_ensureBegun_none [] faultless start
      · simp [appendable_nil_iff]
  | cons item rest =>
      refine ⟨some plan.opening, _, _, True, performs_appendItems_first faultless start listener
        encoded, performs_ensureBegun_some _ _, ?_⟩
      simp

/-- All payloads of a plan whose flow graphs are encoded. -/
def contents (plan : Plan) (flowGraphs : List (Int × Bytes)) : Contents :=
  ⟨plan.metadata, plan.callGraph, flowGraphs⟩

theorem index_contents {flowGraphs : List (Int × Bytes)}
    (complete : flowGraphs.length = plan.count) :
    (plan.contents flowGraphs).index =
      ⟨plan.opening.metadata, plan.opening.callGraph,
        entriesFrom plan.front.length flowGraphs⟩ := by
  have header : (plan.contents flowGraphs).headerLength = plan.placeholder.length := by
    rw [length_placeholder, ← complete]
    rfl
  simp only [Contents.index, header, opening, front, List.length_append]
  rfl

theorem appendable_contents_iff {listener : Listener} {flowGraphs : List (Int × Bytes)}
    (complete : flowGraphs.length = plan.count) :
    (plan.placeholder ++ plan.metadata).length ≤ maxOffset ∧
        Appendable plan listener [] plan.front.length flowGraphs ↔
      (plan.contents flowGraphs).addresses.Nodup ∧ (plan.contents flowGraphs).WithinOffsets ∧
        ∀ address ∈ (plan.contents flowGraphs).addresses, listener address = none := by
  have callGraphStart : (plan.contents flowGraphs).headerLength +
      (plan.contents flowGraphs).metadata.length = (plan.placeholder ++ plan.metadata).length := by
    rw [List.length_append, length_placeholder, ← complete]
    rfl
  rw [Contents.withinOffsets_iff, index_contents complete, callGraphStart]
  constructor
  · intro both
    obtain ⟨small, count, distinct, offsets, heard⟩ := both
    exact ⟨distinct, ⟨small, offsets⟩, heard⟩
  · intro conditions
    obtain ⟨distinct, ⟨small, offsets⟩, heard⟩ := conditions
    exact ⟨small, by simp [complete], distinct, offsets, heard⟩

theorem performs_run (faultless : store.faults = {}) (start : plan.start = store.position)
    (listener : Listener) {items : List Item} {flowGraphs : List (Int × Bytes)}
    (encoded : items.mapM Item.encode = .ok flowGraphs) :
    Performs (Store.asStream.run plan listener items) ⟨store, []⟩
      (flowGraphs.length = plan.count ∧ (plan.contents flowGraphs).addresses.Nodup ∧
        (plan.contents flowGraphs).WithinOffsets ∧ (plan.contents flowGraphs).index.Packable ∧
          ∀ address ∈ (plan.contents flowGraphs).addresses, listener address = none)
      (plan.contents flowGraphs).index
      ⟨store.holding ((plan.contents flowGraphs).index.packed ++ (plan.contents flowGraphs).body),
        (plan.contents flowGraphs).addresses.map (Listener.call listener)⟩ := by
  obtain ⟨known, middle, appended, begun, appends, begins, same⟩ :=
    performs_appendItems_begin faultless start listener encoded
  have layout : plan.front ++ joined flowGraphs =
      plan.placeholder ++ (plan.contents flowGraphs).body := by
    simp [front, Contents.body, contents]
  rw [layout] at begins
  have accepts : ¬ (entriesFrom plan.front.length flowGraphs).length ≠ plan.count ↔
      flowGraphs.length = plan.count := by
    rw [length_entriesFrom, not_not]
  unfold Stream.run
  apply Performs.congr
  · apply performs_bind appends
    apply performs_guard
    intro exact
    have complete := accepts.mp exact
    apply performs_bind begins
    rw [← index_contents complete]
    apply performs_bind (performs_finish _ faultless start _ _)
    · exact performs_pure _
    · rw [index_contents complete]
      exact not_not.mp exact
  · rw [accepts]
    constructor
    · intro accepted
      obtain ⟨appendedHolds, complete, begunHolds, packable, _⟩ := accepted
      obtain ⟨distinct, within, heard⟩ :=
        (appendable_contents_iff complete).mp (same.mp ⟨appendedHolds, begunHolds⟩)
      exact ⟨complete, distinct, within, packable, heard⟩
    · intro conditions
      obtain ⟨complete, distinct, within, packable, heard⟩ := conditions
      obtain ⟨appendedHolds, begunHolds⟩ :=
        same.mpr ((appendable_contents_iff complete).mpr ⟨distinct, within, heard⟩)
      exact ⟨appendedHolds, complete, begunHolds, packable, trivial⟩

end Plan

/-! ## Writing -/

theorem count_eq_ok_iff {source : Source} :
    source.count = .ok source.items.length ↔ source.Announced := by
  unfold Source.count Source.Announced
  cases declared : source.declared with
  | none => simp
  | some number =>
      simp only [Option.some.injEq, reduceCtorEq, false_and, or_false]
      split
      · constructor
        · intro impossible
          cases impossible
        · intro same
          omega
      · rw [Except.ok.injEq]
        omega

theorem make_eq_ok_iff {start : Nat} {metadata : Meta} {callGraph : CallGraph} {source : Source}
    {plan : Plan} :
    Plan.make start metadata callGraph source = .ok plan ↔
      source.count = .ok plan.count ∧ Codec.encodeMetadata metadata = .ok plan.metadata ∧
        Codec.encodeCallGraph callGraph = .ok plan.callGraph ∧ plan.start = start := by
  unfold Plan.make
  simp only [bind_eq_ok_iff, mapError_eq_ok_iff, pure_eq_ok_iff]
  constructor
  · intro made
    obtain ⟨_, count, _, metadataEncoded, _, callGraphEncoded, rfl⟩ := made
    exact ⟨count, metadataEncoded, callGraphEncoded, rfl⟩
  · intro parts
    obtain ⟨count, metadataEncoded, callGraphEncoded, rfl⟩ := parts
    exact ⟨_, count, _, metadataEncoded, _, callGraphEncoded, rfl⟩

theorem Plan.make_eq_map (start : Nat) (metadata : Meta) (callGraph : CallGraph)
    (source : Source) :
    Plan.make start metadata callGraph source =
      (Plan.make 0 metadata callGraph source).map fun plan => { plan with start } := by
  unfold Plan.make
  cases source.count with
  | error error => rfl
  | ok count =>
      cases Codec.encodeMetadata metadata with
      | error error => rfl
      | ok metadataPayload =>
          cases Codec.encodeCallGraph callGraph with
          | error error => rfl
          | ok callGraphPayload => rfl

/-- A store tells its place, so the plan can be made for this place at once. -/
theorem writeFrom_eq (listener : Listener) (metadata : Meta) (callGraph : CallGraph)
    (source : Source) (interruption : Option String) (store : Store) :
    writeFrom listener metadata callGraph source interruption store =
      match Plan.make store.tell metadata callGraph source with
      | .error error => (.error error, { store })
      | .ok plan =>
          match interruption with
          | none => (Store.asStream.run plan listener source.items).run.run { store }
          | some reason =>
              (Store.asStream.runInterrupted plan listener source.items reason).run.run
                { store } := by
  unfold writeFrom Stream.writeFrom
  rw [Plan.make_eq_map store.tell]
  cases Plan.make 0 metadata callGraph source with
  | error error => rfl
  | ok plan =>
      have made : Reaches (liftM (Except.ok plan : Except WriteError Plan))
          ({ store } : Progress Store) plan { store } := rfl
      have told : Reaches (Stream.perform Store.asStream.tell) { store } store.tell { store } := rfl
      rw [run_bind_of_reaches made, run_bind_of_reaches told]
      cases interruption with
      | none => rfl
      | some reason => rfl

theorem writeContainer_asStream (listener : Listener) (metadata : Meta) (callGraph : CallGraph)
    (source : Source) (store : Store) :
    (Store.asStream.writeContainer listener metadata callGraph source).run.run ⟨store, []⟩ =
      write listener metadata callGraph source store :=
  rfl

theorem write_eq_ok_iff_reaches {listener : Listener} {metadata : Meta} {callGraph : CallGraph}
    {source : Source} {store : Store} {index : Index} {after : Progress Store} :
    write listener metadata callGraph source store = (.ok index, after) ↔
      ∃ plan, Plan.make store.tell metadata callGraph source = .ok plan ∧
        Reaches (Store.asStream.run plan listener source.items) ⟨store, []⟩ index after := by
  rw [write, writeFrom_eq]
  cases made : Plan.make store.tell metadata callGraph source with
  | error error => simp
  | ok plan => simp [Reaches]

theorem Plan.encoded_of_reaches_run {plan : Plan} {listener : Listener} {items : List Item}
    {before after : Progress Store} {index : Index}
    (run : Reaches (Store.asStream.run plan listener items) before index after) :
    ∃ flowGraphs, items.mapM Item.encode = .ok flowGraphs := by
  obtain ⟨_, _, appends, _⟩ := reaches_bind_iff.mp run
  exact Plan.encoded_of_reaches appends

/-- Writing succeeds exactly on distinct flow graphs in the announced number,
if all that is told is heard and all that is indexed can be packed. -/
theorem write_eq_ok_iff {listener : Listener} {metadata : Meta} {callGraph : CallGraph}
    {source : Source} {store : Store} (faultless : store.faults = {}) {index : Index}
    {after : Progress Store} :
    write listener metadata callGraph source store = (.ok index, after) ↔
      ∃ contents, Encoded metadata callGraph source.items contents ∧ source.Announced ∧
        contents.addresses.Nodup ∧ contents.WithinOffsets ∧ contents.index.Packable ∧
          (∀ address ∈ contents.addresses, listener address = none) ∧
            index = contents.index ∧
              after = ⟨store.holding (contents.index.packed ++ contents.body),
                contents.addresses.map (Listener.call listener)⟩ := by
  rw [write_eq_ok_iff_reaches, Store.tell_of_faultless faultless]
  constructor
  · intro written
    obtain ⟨plan, made, run⟩ := written
    obtain ⟨count, metadataEncoded, callGraphEncoded, start⟩ := make_eq_ok_iff.mp made
    obtain ⟨flowGraphs, encoded⟩ := Plan.encoded_of_reaches_run run
    obtain ⟨conditions, rfl, rfl⟩ :=
      (Plan.performs_run faultless start listener encoded index after).mp run
    obtain ⟨complete, distinct, within, packable, heard⟩ := conditions
    have announced : source.Announced := by
      apply count_eq_ok_iff.mp
      rw [count, ← complete, length_of_mapM_eq_ok encoded]
    exact ⟨plan.contents flowGraphs, ⟨metadataEncoded, callGraphEncoded, encoded⟩, announced,
      distinct, within, packable, heard, rfl, rfl⟩
  · intro described
    obtain ⟨contents, ⟨metadataEncoded, callGraphEncoded, encoded⟩, announced, distinct, within,
      packable, heard, rfl, rfl⟩ := described
    have complete := length_of_mapM_eq_ok encoded
    have made : Plan.make store.position metadata callGraph source =
        .ok ⟨store.position, contents.flowGraphs.length, contents.metadata,
          contents.callGraph⟩ := by
      apply make_eq_ok_iff.mpr
      rw [complete]
      exact ⟨count_eq_ok_iff.mpr announced, metadataEncoded, callGraphEncoded, rfl⟩
    refine ⟨_, made, ?_⟩
    apply (Plan.performs_run faultless rfl listener encoded _ _).mpr
    exact ⟨⟨rfl, distinct, within, packable, heard⟩, rfl, rfl⟩

/-! ## Addresses and offsets that fit -/

theorem Encoded.unique {metadata : Meta} {callGraph : CallGraph} {items : List Item}
    {left right : Contents} (first : Encoded metadata callGraph items left)
    (second : Encoded metadata callGraph items right) : left = right := by
  obtain ⟨leftMetadata, leftCallGraph, leftFlowGraphs⟩ := left
  obtain ⟨rightMetadata, rightCallGraph, rightFlowGraphs⟩ := right
  obtain rfl : leftMetadata = rightMetadata :=
    Except.ok.inj (first.metadata.symm.trans second.metadata)
  obtain rfl : leftCallGraph = rightCallGraph :=
    Except.ok.inj (first.callGraph.symm.trans second.callGraph)
  obtain rfl : leftFlowGraphs = rightFlowGraphs :=
    Except.ok.inj (first.flowGraphs.symm.trans second.flowGraphs)
  rfl

theorem encode_record_eq_ok_iff {graph : FlowGraph} {flowGraph : Int × Bytes} :
    (Item.record graph).encode = .ok flowGraph ↔
      ∃ payload, Codec.encodeFlowGraph graph = .ok payload ∧
        flowGraph = (graph.address, payload) := by
  simp only [Item.encode]
  cases Codec.encodeFlowGraph graph with
  | error error => simp
  | ok payload => simp [eq_comm]

theorem fits_of_mapM_encode {items : List Item} {flowGraphs : List (Int × Bytes)}
    (encoded : items.mapM Item.encode = .ok flowGraphs)
    (fits : ∀ address payload, .encoded address payload ∈ items → Codec.Fits 64 address) :
    ∀ address ∈ flowGraphs.map Prod.fst, Codec.Fits 64 address := by
  induction items generalizing flowGraphs with
  | nil =>
      obtain rfl := mapM_nil_eq_ok_iff.mp encoded
      simp
  | cons item items induction =>
      obtain ⟨flowGraph, others, first, rest, rfl⟩ := mapM_cons_eq_ok_iff.mp encoded
      rw [List.map_cons, List.forall_mem_cons]
      constructor
      · cases item with
        | encoded address payload =>
            cases first
            exact fits address payload List.mem_cons_self
        | record graph =>
            obtain ⟨payload, written, rfl⟩ := encode_record_eq_ok_iff.mp first
            exact (Codec.encodeFlowGraph_eq_ok_iff.mp written).1.address
      · apply induction rest
        intro address payload member
        exact fits address payload (List.mem_cons_of_mem _ member)

theorem offset_nonneg_of_mem_entriesFrom {offset : Nat} {flowGraphs : List (Int × Bytes)}
    {entry : Entry} (member : entry ∈ entriesFrom offset flowGraphs) : 0 ≤ entry.offset := by
  induction flowGraphs generalizing offset with
  | nil => cases member
  | cons flowGraph rest induction =>
      rcases List.mem_cons.mp member with rfl | later
      · exact Int.natCast_nonneg offset
      · exact induction later

theorem Contents.packable_index {contents : Contents}
    (fits : ∀ address ∈ contents.addresses, Codec.Fits 64 address)
    (within : contents.WithinOffsets) : contents.index.Packable := by
  have bound : maxOffset = 0xFFFFFFFF := rfl
  have offsetCapacity : (Bytes.capacity 4 : Int) = maxOffset + 1 := by rfl
  have addressCapacity : (Bytes.capacity 8 : Int) = 2 ^ 64 := by norm_num [Bytes.capacity]
  obtain ⟨callGraph, flowGraphs⟩ := withinOffsets_iff.mp within
  have offsetFits : ∀ offset : Nat, offset ≤ maxOffset → Index.WordFits 4 offset := by
    intro offset small
    unfold Index.WordFits
    omega
  have count : contents.flowGraphs.length ≤ contents.headerLength := by
    unfold headerLength
    omega
  refine ⟨offsetFits contents.headerLength (by omega), offsetFits _ callGraph, ?_, ?_⟩
  · simp only [index, length_entriesFrom]
    exact offsetFits _ (by omega)
  · intro entry member
    have address : entry.address ∈ contents.addresses := by
      have listed := List.mem_map_of_mem (f := Entry.address) member
      rwa [index, addresses_entriesFrom] at listed
    refine ⟨?_, offset_nonneg_of_mem_entriesFrom member, ?_⟩
    · unfold Index.WordFits
      rw [addressCapacity]
      exact fits entry.address address
    · rw [offsetCapacity]
      have small := flowGraphs entry member
      omega

theorem Contents.length_packed_index (contents : Contents) :
    contents.index.packed.length = contents.headerLength := by
  rw [Index.length_packed, index, length_entriesFrom]
  rfl

theorem exists_write {listener : Listener} {metadata : Meta} {callGraph : CallGraph}
    {source : Source} {store : Store} (faultless : store.faults = {})
    (silent : ∀ address, listener address = none)
    (fits : ∀ address payload, .encoded address payload ∈ source.items → Codec.Fits 64 address)
    {contents : Contents} (encoded : Encoded metadata callGraph source.items contents)
    (announced : source.Announced) (distinct : contents.addresses.Nodup)
    (within : contents.WithinOffsets) :
    ∃ index after, write listener metadata callGraph source store = (.ok index, after) := by
  have packable := Contents.packable_index (fits_of_mapM_encode encoded.flowGraphs fits) within
  refine ⟨_, _, (write_eq_ok_iff faultless).mpr ⟨contents, encoded, announced, distinct,
    within, packable, ?_, rfl, rfl⟩⟩
  intro address _
  exact silent address

/-- Writing to a store without faults refines concatenation: it succeeds exactly
on the announced number of encodable flow graphs with distinct addresses whose
offsets fit the header, and puts header, metadata, call graph and flow graphs at
the place of the store, one after the other. -/
theorem write_refines_concatenation (listener : Listener) (metadata : Meta) (callGraph : CallGraph)
    (source : Source) (store : Store) (faultless : store.faults = {})
    (silent : ∀ address, listener address = none)
    (fits : ∀ address payload, .encoded address payload ∈ source.items → Codec.Fits 64 address) :
    ((∃ index after, write listener metadata callGraph source store = (.ok index, after)) ↔
      source.Announced ∧ ∃ contents, Encoded metadata callGraph source.items contents ∧
        contents.addresses.Nodup ∧ contents.WithinOffsets) ∧
    ∀ contents, Encoded metadata callGraph source.items contents →
      ∀ index after, write listener metadata callGraph source store = (.ok index, after) →
        index = contents.index ∧
          ∃ header, index.pack? = some header ∧ header.length = contents.headerLength ∧
            after =
              { store :=
                  { bytes := store.bytes.resize store.position ++ (header ++ contents.body) ++
                      store.bytes.drop (store.position + (header ++ contents.body).length)
                    position := store.position + (header ++ contents.body).length }
                calls := contents.addresses.map fun address => { address, answer := none } } := by
  constructor
  · constructor
    · intro written
      obtain ⟨index, after, run⟩ := written
      obtain ⟨contents, encoded, announced, distinct, within, _⟩ :=
        (write_eq_ok_iff faultless).mp run
      exact ⟨announced, contents, encoded, distinct, within⟩
    · intro conditions
      obtain ⟨announced, contents, encoded, distinct, within⟩ := conditions
      exact exists_write faultless silent fits encoded announced distinct within
  · intro contents encoded index after run
    obtain ⟨written, same, _, _, _, packable, _, rfl, rfl⟩ := (write_eq_ok_iff faultless).mp run
    obtain rfl := encoded.unique same
    have packed := Index.pack?_eq_some_iff.mpr ⟨packable, rfl⟩
    have nonempty : contents.index.packed ++ contents.body ≠ [] := by
      intro nothing
      have header := congrArg List.length (List.append_eq_nil_iff.mp nothing).1
      rw [Contents.length_packed_index, Contents.headerLength] at header
      simp at header
    refine ⟨rfl, contents.index.packed, packed, contents.length_packed_index, ?_⟩
    have unanswered : contents.addresses.map (Listener.call listener) =
        contents.addresses.map fun address => { address, answer := none } := by
      apply List.map_congr_left
      intro address _
      rw [Listener.call, silent address]
    rw [← Bytes.overwrite_of_ne_nil store.bytes store.position nonempty, Store.holding, faultless,
      unanswered]

/-- Two flow graphs, one of them encoded ahead, from a source of unknown size. -/
def mixedSource : Source where
  items := [.encoded 0x20 [0xFF], .record Codec.mixedFlowGraph]
  declared := some 2
  sized := false

/-- They are written behind the end of a store, where zeros fill the hole. -/
theorem mixedSource_written :
    ∃ index after, write (fun _ => none) {} {} mixedSource { bytes := [0x7F], position := 4 } =
        (.ok index, after) ∧ index.entries = [⟨0x20, 36⟩, ⟨0x1004, 37⟩] ∧
      after.store.bytes.take 8 = [0x7F, 0, 0, 0, 36, 0, 0, 0] ∧ after.told = [0x20, 0x1004] := by
  have graph := Codec.encodeFlowGraph_eq_ok_iff.mpr ⟨Codec.encodable_mixedFlowGraph, rfl⟩
  have second := encode_record_eq_ok_iff.mpr ⟨_, graph, rfl⟩
  have items : mixedSource.items.mapM Item.encode =
      .ok [(0x20, [0xFF]), (0x1004, Wire.encodeFields
        (Codec.flowGraphLayout Codec.mixedFlowGraph))] := by
    apply mapM_cons_eq_ok_iff.mpr
    refine ⟨_, _, rfl, ?_, rfl⟩
    apply mapM_cons_eq_ok_iff.mpr
    exact ⟨_, [], second, mapM_nil_eq_ok_iff.mpr rfl, rfl⟩
  have encoded : Encoded {} {} mixedSource.items ⟨[], [], _⟩ := ⟨rfl, rfl, items⟩
  have fits : ∀ address payload, .encoded address payload ∈ mixedSource.items →
      Codec.Fits 64 address := by
    intro address payload member
    obtain ⟨rfl, _⟩ : address = 0x20 ∧ payload = [0xFF] := by simpa [mixedSource] using member
    norm_num [Codec.Fits]
  have refines := write_refines_concatenation (fun _ => none) {} {} mixedSource
    { bytes := [0x7F], position := 4 } rfl (fun _ => rfl) fits
  obtain ⟨index, after, written⟩ := refines.1.mpr
    ⟨.inl rfl, _, encoded, by decide, by decide⟩
  obtain ⟨rfl, header, packed, _, rfl⟩ := refines.2 _ encoded index after written
  obtain ⟨_, rfl⟩ := Index.pack?_eq_some_iff.mp packed
  exact ⟨_, _, written, rfl, rfl, rfl⟩

end CodeGraph.Container
