import CodeGraph.Proofs.WriterRefinement
import Mathlib

/-!
# The errors of the writer

Whatever stream a container is written to, writing refuses a record or passes
on the failure of the stream.  The exception is an index that overflows in the
end, which happens exactly if all is accepted but some item was encoded ahead
for an address that the index cannot hold.
-/

namespace CodeGraph.Container

open Sequencing

/-! ## Errors -/

/-- What an error is about. -/
inductive ErrorKind
  /-- A record, or the list of them, cannot be stored. -/
  | invariantViolation
  /-- The stream failed, or whoever follows the writing stopped it. -/
  | ioFailure
  /-- The index cannot be packed. -/
  | packing
  deriving DecidableEq, Repr

def WriteError.kind : WriteError → ErrorKind
  | .store _ => .ioFailure
  | .indexOverflow => .packing
  | _ => .invariantViolation

theorem kind_of_encode {item : Item} {error : WriteError} (failed : item.encode = .error error) :
    error.kind = .invariantViolation := by
  cases item with
  | encoded address payload => cases failed
  | record graph =>
      simp only [Item.encode] at failed
      split at failed
      · cases failed
      · cases failed
        rfl

theorem kind_of_count {source : Source} {error : WriteError}
    (failed : source.count = .error error) : error.kind = .invariantViolation := by
  unfold Source.count at failed
  split at failed
  · split at failed
    · cases failed
      rfl
    · cases failed
  · split at failed
    · cases failed
    · cases failed
      rfl

theorem kind_of_make {start : Nat} {metadata : Meta} {callGraph : CallGraph} {source : Source}
    {error : WriteError} (failed : Plan.make start metadata callGraph source = .error error) :
    error.kind = .invariantViolation := by
  rcases bind_eq_error_iff.mp failed with count | ⟨_, _, behindCount⟩
  · exact kind_of_count count
  rcases bind_eq_error_iff.mp behindCount with unmade | ⟨_, _, behindMetadata⟩
  · obtain ⟨_, _, rfl⟩ := mapError_eq_error_iff.mp unmade
    rfl
  rcases bind_eq_error_iff.mp behindMetadata with unmade | ⟨_, _, behindCallGraph⟩
  · obtain ⟨_, _, rfl⟩ := mapError_eq_error_iff.mp unmade
    rfl
  · cases behindCallGraph

/-- All that is asked of what is written, the width of the addresses apart. -/
structure Accepted (listener : Listener) (metadata : Meta) (callGraph : CallGraph)
    (source : Source) (contents : Contents) : Prop where
  encoded : Encoded metadata callGraph source.items contents
  announced : source.Announced
  distinct : contents.addresses.Nodup
  within : contents.WithinOffsets
  heard : ∀ address ∈ contents.addresses, listener address = none

/-- Everything is accepted, but an item was encoded ahead for an address that
has no place in the index. -/
def OverflowsIndex (listener : Listener) (metadata : Meta) (callGraph : CallGraph)
    (source : Source) : Prop :=
  (∃ contents, Accepted listener metadata callGraph source contents) ∧
    ∃ address payload, .encoded address payload ∈ source.items ∧ ¬ Codec.Fits 64 address

/-- The error is a refusal or the failure of a store, or the index overflows. -/
def Explained (listener : Listener) (metadata : Meta) (callGraph : CallGraph) (source : Source)
    (error : WriteError) : Prop :=
  error.kind = .invariantViolation ∨ error.kind = .ioFailure ∨
    error.kind = .packing ∧ OverflowsIndex listener metadata callGraph source

theorem explained_of_kind {listener : Listener} {metadata : Meta} {callGraph : CallGraph}
    {source : Source} {error : WriteError} (foreseen : error.kind ≠ .packing) :
    Explained listener metadata callGraph source error := by
  cases same : error.kind with
  | invariantViolation => exact .inl same
  | ioFailure => exact .inr (.inl same)
  | packing => exact (foreseen same).elim

/-! ## Runs -/

/-- From a progress with a property, writing leads to a value and a progress with
another one, or fails with an error of which a third one holds. -/
def Leads {σ α : Type} (before : Progress σ → Prop) (streaming : Writing σ α)
    (refused : WriteError → Prop) (after : α → Progress σ → Prop) : Prop :=
  ∀ progress, before progress → ∀ outcome next, streaming.run.run progress = (outcome, next) →
    match outcome with
    | .ok value => after value next
    | .error error => refused error

section Runs

variable {σ α β : Type} {before : Progress σ → Prop} {refused : WriteError → Prop}

theorem leads_pure {after : α → Progress σ → Prop} {value : α}
    (holds : ∀ progress, before progress → after value progress) :
    Leads before (pure value) refused after := by
  intro progress start outcome next run
  cases run
  exact holds progress start

theorem leads_throw {after : α → Progress σ → Prop} {error : WriteError} (holds : refused error) :
    Leads before (throw error) refused after := by
  intro progress _ outcome next run
  cases run
  exact holds

theorem leads_lift {checked : Except WriteError α}
    (refuses : ∀ error, checked = .error error → refused error) :
    Leads before (liftM checked) refused
      fun value progress => checked = .ok value ∧ before progress := by
  intro progress start outcome next run
  cases checked with
  | ok value =>
      cases run
      exact ⟨rfl, start⟩
  | error error =>
      cases run
      exact refuses error rfl

theorem leads_bind {first : Writing σ α} {following : α → Writing σ β}
    {middle : α → Progress σ → Prop} {after : β → Progress σ → Prop}
    (leads : Leads before first refused middle)
    (continued : ∀ value, Leads (middle value) (following value) refused after) :
    Leads before (first >>= following) refused after := by
  intro progress start outcome next run
  cases reached : first.run.run progress with
  | mk given between =>
      have here := leads progress start given between reached
      simp only [ExceptT.run_bind, StateT.run_bind, reached] at run
      cases given with
      | error error =>
          cases run
          exact here
      | ok value => exact continued value between here outcome next run

theorem leads_guard {condition : Prop} [Decidable condition] {error : WriteError}
    {skipped : PUnit → Writing σ α} {following : Writing σ α} {after : α → Progress σ → Prop}
    (refuses : refused error)
    (continued : ¬ condition → Leads before following refused after) :
    Leads before (if condition then throw error >>= skipped else following) refused after := by
  by_cases holds : condition
  · rw [if_pos holds]
    intro progress _ outcome next run
    cases run
    exact refuses
  · rw [if_neg holds]
    exact continued holds

theorem leads_imp {streaming : Writing σ α} {after weaker : α → Progress σ → Prop}
    (leads : Leads before streaming refused after)
    (implies : ∀ value progress, after value progress → weaker value progress) :
    Leads before streaming refused weaker := by
  intro progress start outcome next run
  have here := leads progress start outcome next run
  cases outcome with
  | error error => exact here
  | ok value => exact implies value next here

theorem leads_of_exists {befores : α → Progress σ → Prop} {streaming : Writing σ β}
    {after : β → Progress σ → Prop}
    (leads : ∀ value, Leads (befores value) streaming refused after) :
    Leads (fun progress => ∃ value, befores value progress) streaming refused after := by
  intro progress start
  obtain ⟨value, holds⟩ := start
  exact leads value progress holds

/-- What does not depend on the progress is known from there on. -/
theorem leads_of_fact {fact : Prop} {streaming : Writing σ α} {after : α → Progress σ → Prop}
    (leads : fact → Leads before streaming refused after) :
    Leads (fun progress => fact ∧ before progress) streaming refused after :=
  fun progress start => leads start.1 progress start.2

end Runs

/-! ## What is written fits the header -/

/-- Of the entries in front only the addresses matter. -/
theorem Plan.Appendable.congr {plan : Plan} {listener : Listener} {entries others : List Entry}
    {offset : Nat} {flowGraphs : List (Int × Bytes)}
    (appendable : plan.Appendable listener entries offset flowGraphs)
    (same : others.map (·.address) = entries.map (·.address)) :
    plan.Appendable listener others offset flowGraphs := by
  have lengths := congrArg List.length same
  rw [List.length_map, List.length_map] at lengths
  refine ⟨?_, ?_, appendable.offsets, appendable.heard⟩
  · rw [lengths]
    exact appendable.count
  · rw [same]
    exact appendable.distinct

namespace Stream

/-- An offset that the header can hold. -/
def FitsHeader (offset : Int) : Prop :=
  0 ≤ offset ∧ offset ≤ maxOffset

section Steps

variable {σ : Type} (stream : Stream σ) (plan : Plan)

/-- The stream stands behind a number of bytes of the container. -/
def Behind (length : Nat) (progress : Progress σ) : Prop :=
  plan.start + length ≤ stream.place progress.store

/-- Both records ahead of the flow graphs have offsets that fit, also if nothing
but the container was written. -/
structure Opening.Fits (opening : Opening) (plan : Plan) : Prop where
  metadata : FitsHeader opening.metadata
  callGraph : FitsHeader opening.callGraph
  small : (plan.placeholder ++ plan.metadata).length ≤ maxOffset

/-- The next flow graph has its place at an offset or behind it.  Writing may
not have begun. -/
def Ready (offset : Nat) : Option Opening → Progress σ → Prop
  | none, progress => offset = plan.front.length ∧ stream.Behind plan 0 progress
  | some opening, progress => opening.Fits plan ∧ stream.Behind plan offset progress

/-- Offsets that fit and addresses that fit make an index that can be packed. -/
theorem packable_of_fits {plan : Plan} {opening : Opening} {entries : List Entry}
    (opened : opening.Fits plan) (count : entries.length = plan.count)
    (offsets : ∀ entry ∈ entries, FitsHeader entry.offset)
    (addresses : ∀ entry ∈ entries, Codec.Fits 64 entry.address) :
    Index.Packable ⟨opening.metadata, opening.callGraph, entries⟩ := by
  have words : ∀ offset, FitsHeader offset → Index.WordFits 4 offset := by
    intro offset fits
    refine ⟨fits.1, lt_of_le_of_lt fits.2 ?_⟩
    decide
  have few : FitsHeader entries.length := by
    have small := opened.small
    rw [List.length_append, Plan.length_placeholder] at small
    simp only [FitsHeader, preambleSize, entrySize] at small ⊢
    omega
  refine ⟨words _ opened.metadata, words _ opened.callGraph, words _ few, ?_⟩
  intro entry member
  exact ⟨addresses entry member, words _ (offsets entry member)⟩

section Leads

variable {refused : WriteError → Prop} (foreseen : ∀ error, error.kind ≠ .packing → refused error)

include foreseen

theorem leads_perform {α : Type} {before : Progress σ → Prop} {after : α → Progress σ → Prop}
    {attempt : Attempt σ α}
    (leads : ∀ progress value state, before progress → attempt progress.store = (.ok value, state) →
      after value { progress with store := state }) :
    Leads before (perform attempt) refused after := by
  intro progress start outcome next run
  rw [run_perform] at run
  cases tried : attempt progress.store with
  | mk result state =>
      rw [tried] at run
      cases result with
      | ok value =>
          cases run
          exact leads progress value state start tried
      | error error =>
          cases run
          exact foreseen _ (by simp [WriteError.kind])

variable {stream plan}

theorem leads_write {length : Nat} {payload : Bytes} :
    Leads (stream.Behind plan length) (perform (stream.write payload)) refused
      fun _ => stream.Behind plan (length + payload.length) := by
  apply leads_perform foreseen
  intro progress value state behind tried
  have further := stream.place_write tried
  simp only [Behind] at behind ⊢
  omega

theorem leads_append {length : Nat} {payload : Bytes} :
    Leads (stream.Behind plan length) (stream.append plan payload) refused
      fun offset progress => (length ≤ maxOffset ∧ FitsHeader offset) ∧
        stream.Behind plan (length + payload.length) progress := by
  have told : Leads (stream.Behind plan length) (perform stream.tell) refused
      fun place progress => plan.start + length ≤ place ∧ stream.Behind plan length progress := by
    apply leads_perform foreseen
    intro progress place state behind tried
    obtain ⟨rfl, same⟩ := stream.place_tell tried
    refine ⟨behind, ?_⟩
    rw [Behind, same]
    exact behind
  unfold append
  refine leads_bind told fun place => leads_of_fact fun far => ?_
  apply leads_guard (foreseen _ (by simp [WriteError.kind]))
  intro small
  refine leads_bind (leads_write foreseen) fun _ => leads_pure ?_
  intro progress behind
  exact ⟨⟨by omega, by omega, by omega⟩, behind⟩

theorem leads_begin :
    Leads (stream.Behind plan 0) (stream.begin plan) refused
      fun opening progress =>
        opening.Fits plan ∧ stream.Behind plan plan.front.length progress := by
  unfold begin
  refine leads_bind (leads_write foreseen) fun _ => ?_
  refine leads_bind (leads_append foreseen) fun metadata => leads_of_fact fun first => ?_
  refine leads_bind (leads_append foreseen) fun callGraph => leads_of_fact fun second =>
    leads_pure ?_
  intro progress behind
  simp only [Plan.front, Plan.placeholder, List.length_append, Nat.zero_add] at behind second ⊢
  refine ⟨⟨first.2, second.2, ?_⟩, behind⟩
  rw [List.length_append]
  exact second.1

theorem leads_ensureBegun {offset : Nat} {opening : Option Opening} :
    Leads (stream.Ready plan offset opening) (stream.ensureBegun plan opening) refused
      fun opening => stream.Ready plan offset (some opening) := by
  cases opening with
  | none =>
      refine leads_of_fact fun same => ?_
      rw [same]
      exact leads_begin foreseen
  | some known => exact leads_pure fun _ ready => ready

theorem leads_tellListener {before : Progress σ → Prop} {listener : Listener} {address : Int}
    (kept : ∀ progress calls, before progress → before { progress with calls }) :
    Leads before (tellListener listener address) refused
      fun _ progress => listener address = none ∧ before progress := by
  intro progress start outcome next run
  rw [run_tellListener] at run
  cases answer : listener address with
  | some reason =>
      rw [answer] at run
      cases run
      exact foreseen _ (by simp [WriteError.kind])
  | none =>
      rw [answer] at run
      cases run
      exact ⟨rfl, kept progress _ start⟩

/-- An item that was written passed the checks, and its entry has an offset that
fits. -/
theorem leads_appendItem {offset : Nat} {listener : Listener} {opening : Option Opening}
    {entries : List Entry} {item : Item} :
    Leads (stream.Ready plan offset opening)
      (stream.appendItem plan listener opening entries item) refused
      fun result progress => ∃ payload,
        (item.encode = .ok (result.2.address, payload) ∧
          (plan.Accepts entries result.2.address offset ∧ listener result.2.address = none) ∧
            FitsHeader result.2.offset) ∧
          stream.Ready plan (offset + payload.length) (some result.1) progress := by
  have refuses : ∀ error, item.encode = .error error → refused error := by
    intro error failed
    apply foreseen
    rw [kind_of_encode failed]
    decide
  unfold appendItem
  refine leads_bind (leads_lift refuses) fun given => leads_of_fact fun encoded => ?_
  obtain ⟨address, payload⟩ := given
  refine leads_bind (leads_ensureBegun foreseen) fun opening => leads_of_fact fun opened => ?_
  refine leads_guard (foreseen _ (by simp [WriteError.kind])) fun room => ?_
  refine leads_guard (foreseen _ (by simp [WriteError.kind])) fun fresh => ?_
  refine leads_bind (leads_append foreseen) fun place => leads_of_fact fun fits => ?_
  refine leads_bind (leads_tellListener foreseen fun _ _ behind => behind) fun _ =>
    leads_of_fact fun heard => leads_pure ?_
  intro progress behind
  have distinct : address ∉ entries.map (·.address) := by simpa using fresh
  have accepts : plan.Accepts entries address offset := ⟨not_le.mp room, distinct, fits.1⟩
  exact ⟨payload, ⟨encoded, ⟨accepts, heard⟩, fits.2⟩, opened, behind⟩

/-- Items that were written are appendable where only the container is written,
and their entries have offsets that fit. -/
theorem leads_appendItems {offset : Nat} {listener : Listener} {opening : Option Opening}
    {entries : List Entry} {items : List Item} (bounded : entries.length ≤ plan.count)
    (distinct : (entries.map (·.address)).Nodup)
    (fits : ∀ entry ∈ entries, FitsHeader entry.offset) :
    Leads (stream.Ready plan offset opening)
      (stream.appendItems plan listener opening entries items) refused
      fun result progress => ∃ flowGraphs,
        (items.mapM Item.encode = .ok flowGraphs ∧
          plan.Appendable listener entries offset flowGraphs ∧
            result.2.map (·.address) = entries.map (·.address) ++ flowGraphs.map Prod.fst ∧
              ∀ entry ∈ result.2, FitsHeader entry.offset) ∧
          stream.Ready plan (offset + (joined flowGraphs).length) result.1 progress := by
  induction items generalizing offset opening entries with
  | nil =>
      apply leads_pure
      intro progress ready
      exact ⟨[], ⟨rfl, Plan.appendable_nil_iff.mpr ⟨bounded, distinct⟩,
        (List.append_nil _).symm, fits⟩, ready⟩
  | cons item rest induction =>
      rw [appendItems]
      refine leads_bind (leads_appendItem foreseen) fun result => leads_of_exists fun payload =>
        leads_of_fact fun written => ?_
      obtain ⟨opening, entry⟩ := result
      obtain ⟨encoded, checks, fitsLast⟩ := written
      have fitsAll : ∀ known ∈ entries ++ [entry], FitsHeader known.offset := by
        intro known member
        rcases List.mem_append.mp member with earlier | last
        · exact fits known earlier
        · obtain rfl := List.mem_singleton.mp last
          exact fitsLast
      refine leads_imp (induction (checks.1.bounded entry.offset)
        (checks.1.distinct distinct entry.offset) fitsAll) ?_
      intro result progress reached
      obtain ⟨others, ⟨encodedRest, appendable, addresses, fitsOthers⟩, ready⟩ := reached
      refine ⟨(entry.address, payload) :: others,
        ⟨mapM_cons_eq_ok_iff.mpr ⟨_, _, encoded, encodedRest, rfl⟩, ?_, ?_, fitsOthers⟩, ?_⟩
      · exact Plan.appendable_cons_iff.mpr ⟨checks, appendable.congr (by simp)⟩
      · simp [addresses]
      · rw [Nat.add_assoc, ← List.length_append] at ready
        exact ready

theorem leads_finish {before : Progress σ → Prop} {index : Index}
    (overflows : ¬ index.Packable → refused .indexOverflow) :
    Leads before (stream.finish plan index) refused fun _ _ => index.Packable := by
  have anything : ∀ {α : Type} {before : Progress σ → Prop} (attempt : Attempt σ α),
      Leads before (perform attempt) refused fun _ _ => True :=
    fun attempt => leads_perform foreseen fun _ _ _ _ _ => trivial
  unfold finish
  refine leads_bind (anything _) fun place => leads_bind (anything _) fun _ => ?_
  cases packed : index.pack? with
  | none =>
      apply leads_throw
      apply overflows
      intro packable
      rw [Index.pack?_eq_some_iff.mpr ⟨packable, rfl⟩] at packed
      cases packed
  | some header =>
      have packable := (Index.pack?_eq_some_iff.mp packed).1
      refine leads_bind (anything _) fun _ => leads_bind (anything _) fun _ => ?_
      exact leads_imp (anything _) fun _ _ _ => packable

theorem leads_run {listener : Listener} {items : List Item}
    (overflows : ∀ flowGraphs, items.mapM Item.encode = .ok flowGraphs →
      flowGraphs.length = plan.count → (plan.placeholder ++ plan.metadata).length ≤ maxOffset →
        plan.Appendable listener [] plan.front.length flowGraphs →
          ¬ (∀ address ∈ flowGraphs.map Prod.fst, Codec.Fits 64 address) →
            refused .indexOverflow) :
    Leads (stream.Behind plan 0) (stream.run plan listener items) refused
      fun index _ => index.Packable := by
  have appends : Leads (stream.Ready plan plan.front.length none)
      (stream.appendItems plan listener none [] items) refused _ :=
    leads_appendItems foreseen (Nat.zero_le _) List.nodup_nil (by simp)
  have appendsFirst : Leads (stream.Behind plan 0) (stream.appendItems plan listener none [] items)
      refused _ := fun progress behind => appends progress ⟨rfl, behind⟩
  unfold run
  refine leads_bind appendsFirst fun result => leads_of_exists fun flowGraphs =>
    leads_of_fact fun appended => ?_
  obtain ⟨opening, entries⟩ := result
  obtain ⟨encoded, appendable, addresses, fits⟩ := appended
  refine leads_guard (foreseen _ (by simp [WriteError.kind])) fun counted => ?_
  refine leads_bind (leads_ensureBegun foreseen) fun opening => leads_of_fact fun opened => ?_
  have count := not_not.mp counted
  have complete : flowGraphs.length = plan.count := by
    have lengths := congrArg List.length addresses
    simp only [List.map_nil, List.nil_append, List.length_map] at lengths
    rw [← lengths, count]
  refine leads_bind (leads_finish foreseen ?_) fun _ => leads_pure fun _ packable => packable
  intro unpackable
  apply overflows flowGraphs encoded complete opened.small appendable
  intro wide
  apply unpackable
  apply packable_of_fits opened count fits
  intro entry member
  have listed := List.mem_map_of_mem (f := Entry.address) member
  rw [addresses] at listed
  exact wide _ listed

end Leads

end Steps

theorem leads_writeContainer {σ : Type} (stream : Stream σ) (listener : Listener)
    (metadata : Meta) (callGraph : CallGraph) (source : Source) :
    Leads (fun _ => True) (stream.writeContainer listener metadata callGraph source)
      (Explained listener metadata callGraph source) fun index _ => index.Packable := by
  have foreseen : ∀ error : WriteError, error.kind ≠ .packing →
      Explained listener metadata callGraph source error := fun _ => explained_of_kind
  unfold writeContainer writeFrom
  refine leads_bind (leads_lift fun _ failed => .inl (kind_of_make failed)) fun plan =>
    leads_of_fact fun made => ?_
  have told : Leads (fun _ => True) (perform stream.tell)
      (Explained listener metadata callGraph source)
      fun start => stream.Behind { plan with start } 0 := by
    apply leads_perform foreseen
    intro progress place state _ tried
    obtain ⟨rfl, same⟩ := stream.place_tell tried
    rw [Behind, same]
    exact le_refl _
  refine leads_bind told fun start => leads_run foreseen ?_
  intro flowGraphs encoded complete small appendable wide
  obtain ⟨count, metadataEncoded, callGraphEncoded, _⟩ := make_eq_ok_iff.mp made
  refine .inr (.inr ⟨rfl, ⟨plan.contents flowGraphs, ?_⟩, ?_⟩)
  · obtain ⟨distinct, within, heard⟩ :=
      (Plan.appendable_contents_iff complete).mp ⟨small, appendable⟩
    refine ⟨⟨metadataEncoded, callGraphEncoded, encoded⟩, ?_, distinct, within, heard⟩
    apply count_eq_ok_iff.mp
    rw [count, ← length_of_mapM_eq_ok encoded]
    exact congrArg Except.ok complete.symm
  · by_contra none
    apply wide
    apply fits_of_mapM_encode encoded
    intro address payload member
    by_contra unfit
    exact none ⟨address, payload, member, unfit⟩

end Stream

/-! ## When the index overflows -/

theorem run_bind_of_fails {σ α β : Type} {first : Writing σ α} {error : WriteError}
    {before : Progress σ} (fails : (first.run.run before).1 = .error error)
    (next : α → Writing σ β) :
    ((first >>= next).run.run before).1 = .error error := by
  cases reached : first.run.run before with
  | mk outcome middle =>
      rw [reached] at fails
      simp only [ExceptT.run_bind, StateT.run_bind, reached]
      cases outcome with
      | ok value => cases fails
      | error given =>
          cases fails
          rfl

theorem Plan.run_finish_of_not_packable {plan : Plan} {index : Index}
    (unpackable : ¬ index.Packable) (progress : Progress Store) :
    ((Store.asStream.finish plan index).run.run progress).1 = .error .indexOverflow := by
  unfold Stream.finish
  cases packed : index.pack? with
  | none => rfl
  | some header => exact (unpackable (Index.pack?_eq_some_iff.mp packed).1).elim

theorem Plan.run_of_not_packable {store : Store} {plan : Plan} (faultless : store.faults = {})
    (start : plan.start = store.position) {listener : Listener} {items : List Item}
    {flowGraphs : List (Int × Bytes)} (encoded : items.mapM Item.encode = .ok flowGraphs)
    (complete : flowGraphs.length = plan.count)
    (appendable : (plan.placeholder ++ plan.metadata).length ≤ maxOffset ∧
      plan.Appendable listener [] plan.front.length flowGraphs)
    (unpackable : ¬ (plan.contents flowGraphs).index.Packable) :
    ((Store.asStream.run plan listener items).run.run ⟨store, []⟩).1 = .error .indexOverflow := by
  obtain ⟨known, middle, appended, begun, appends, begins, same⟩ :=
    performs_appendItems_begin faultless start listener encoded
  obtain ⟨appendedHolds, begunHolds⟩ := same.mpr appendable
  rw [index_contents complete] at unpackable
  have counted : ¬ (entriesFrom plan.front.length flowGraphs).length ≠ plan.count := by
    rw [length_entriesFrom, not_not]
    exact complete
  unfold Stream.run
  rw [run_bind_of_reaches ((appends _ _).mpr ⟨appendedHolds, rfl, rfl⟩)]
  simp only [if_neg counted]
  rw [run_bind_of_reaches ((begins _ _).mpr ⟨begunHolds, rfl, rfl⟩)]
  exact run_bind_of_fails (run_finish_of_not_packable unpackable _) _

theorem mem_addresses_of_encoded {items : List Item} {flowGraphs : List (Int × Bytes)}
    (encoded : items.mapM Item.encode = .ok flowGraphs) {address : Int} {payload : Bytes}
    (member : .encoded address payload ∈ items) : address ∈ flowGraphs.map Prod.fst := by
  obtain ⟨flowGraph, written, same⟩ := exists_mem_of_mapM_eq_ok encoded member
  cases same
  exact List.mem_map_of_mem written

theorem write_eq_indexOverflow {listener : Listener} {metadata : Meta} {callGraph : CallGraph}
    {source : Source} (overflows : OverflowsIndex listener metadata callGraph source)
    {store : Store} (faultless : store.faults = {}) :
    (write listener metadata callGraph source store).1 = .error .indexOverflow := by
  obtain ⟨⟨contents, accepted⟩, address, payload, member, unfit⟩ := overflows
  obtain ⟨⟨metadataEncoded, callGraphEncoded, encoded⟩, announced, distinct, within, heard⟩ :=
    accepted
  have made : Plan.make store.tell metadata callGraph source =
      .ok ⟨store.position, contents.flowGraphs.length, contents.metadata, contents.callGraph⟩ := by
    apply make_eq_ok_iff.mpr
    rw [length_of_mapM_eq_ok encoded, Store.tell_of_faultless faultless]
    exact ⟨count_eq_ok_iff.mpr announced, metadataEncoded, callGraphEncoded, rfl⟩
  rw [write, writeFrom_eq, made]
  apply Plan.run_of_not_packable faultless rfl encoded rfl
  · exact (Plan.appendable_contents_iff rfl).mpr ⟨distinct, within, heard⟩
  · intro packable
    have listed : address ∈ contents.index.entries.map (·.address) := by
      rw [Contents.index, addresses_entriesFrom]
      exact mem_addresses_of_encoded encoded member
    obtain ⟨entry, entryMember, rfl⟩ := List.mem_map.mp listed
    exact unfit (packable.entries entry entryMember).address

/-- Writing returns an index that can be packed, or fails with an explained
error. -/
def Settled (listener : Listener) (metadata : Meta) (callGraph : CallGraph) (source : Source) :
    Except WriteError Index → Prop
  | .ok index => index.Packable
  | .error error => Explained listener metadata callGraph source error

theorem settled_writeContainer {σ : Type} (stream : Stream σ) (progress : Progress σ)
    (listener : Listener) (metadata : Meta) (callGraph : CallGraph) (source : Source) :
    Settled listener metadata callGraph source
      ((stream.writeContainer listener metadata callGraph source).run.run progress).1 := by
  have leads := stream.leads_writeContainer listener metadata callGraph source progress trivial
  cases run : (stream.writeContainer listener metadata callGraph source).run.run progress with
  | mk outcome next =>
      have here := leads outcome next run
      cases outcome with
      | ok index => exact here
      | error error => exact here

/-- Whatever stream fails at whatever point, writing to it returns an index or
refuses a record or passes on the failure of the stream, unless the index
overflows.  The same is true of stores.  A store without faults overflows the
index exactly if everything is accepted and an item was encoded ahead for an
address that is negative or takes more than 64 bits. -/
theorem writing_settles (listener : Listener) (metadata : Meta) (callGraph : CallGraph)
    (source : Source) :
    (∀ (σ : Type) (stream : Stream σ) (progress : Progress σ),
      Settled listener metadata callGraph source
        ((stream.writeContainer listener metadata callGraph source).run.run progress).1) ∧
      (∀ store, Settled listener metadata callGraph source
        (write listener metadata callGraph source store).1) ∧
        ∀ bytes position,
          (write listener metadata callGraph source { bytes, position }).1 =
              .error .indexOverflow ↔
            OverflowsIndex listener metadata callGraph source := by
  have stores : ∀ store, Settled listener metadata callGraph source
      (write listener metadata callGraph source store).1 := by
    intro store
    exact settled_writeContainer Store.asStream ⟨store, []⟩ listener metadata callGraph source
  refine ⟨fun _ stream progress => settled_writeContainer stream progress _ _ _ _, stores, ?_⟩
  intro bytes position
  constructor
  · intro failed
    have settled := stores { bytes, position }
    rw [failed] at settled
    rcases settled with refused | failed | ⟨_, overflows⟩
    · cases refused
    · cases failed
    · exact overflows
  · intro overflows
    exact write_eq_indexOverflow overflows rfl

/-- The item was encoded ahead for a negative address. -/
def negativeSource : Source where
  items := [.encoded (-1) []]

/-- Writing it fails, but neither with a refusal nor with a failure of the store. -/
theorem negativeSource_escapes :
    ∃ error, (write (fun _ => none) {} {} negativeSource { bytes := [] }).1 = .error error ∧
      error.kind ≠ .invariantViolation ∧ error.kind ≠ .ioFailure :=
  ⟨.indexOverflow, rfl, by decide, by decide⟩

end CodeGraph.Container
