import CodeGraph.Proofs.ReaderOpening
import CodeGraph.Proofs.WriterRefinement
import Mathlib

/-!
# Writing that fails

Zeros stand where the header belongs until all flow graphs are written.  So
writing that fails leaves a store that was not touched, or one that no reader
opens, and the listener was given the addresses of those items that were accepted.
-/

namespace CodeGraph.Container

open Sequencing

/-! ## Failing runs -/

/-- Whenever writing fails, its error and the progress left satisfy a property. -/
def FailsOnly {σ α : Type} (writing : Writing σ α) (before : Progress σ)
    (failure : WriteError → Progress σ → Prop) : Prop :=
  ∀ error after, writing.run.run before = (.error error, after) → failure error after

section Runs

variable {σ α β : Type} {before middle : Progress σ} {failure : WriteError → Progress σ → Prop}

theorem failsOnly_pure (value : α) : FailsOnly (pure value) before failure := by
  intro error after impossible
  cases impossible

theorem failsOnly_throw {error : WriteError} (holds : failure error before) :
    FailsOnly (throw error : Writing σ α) before failure := by
  intro given after failed
  cases failed
  exact holds

theorem failsOnly_lift {checked : Except WriteError α}
    (holds : ∀ error, checked = .error error → failure error before) :
    FailsOnly (liftM checked) before failure := by
  intro error after failed
  cases checked with
  | ok value => cases failed
  | error given =>
      cases failed
      exact holds _ rfl

theorem failsOnly_of_performs {writing : Writing σ α} {accepted : Prop} {value : α}
    (performs : Performs writing before accepted value middle) (holds : accepted) :
    FailsOnly writing before failure := by
  intro error after failed
  have run := (performs value middle).mpr ⟨holds, rfl, rfl⟩
  rw [Reaches, failed] at run
  cases run

theorem failsOnly_bind {first : Writing σ α} {next : α → Writing σ β}
    (firstFails : FailsOnly first before failure)
    (nextFails : ∀ value middle, Reaches first before value middle →
      FailsOnly (next value) middle failure) :
    FailsOnly (first >>= next) before failure := by
  intro error after failed
  cases outcome : first.run.run before with
  | mk given between =>
      simp only [ExceptT.run_bind, StateT.run_bind, outcome] at failed
      cases given with
      | error given =>
          cases failed
          exact firstFails _ _ outcome
      | ok value => exact nextFails value between outcome error after failed

/-- The second step needs only be looked at where the first one leads. -/
theorem failsOnly_bind_of_performs {first : Writing σ α} {next : α → Writing σ β} {accepted : Prop}
    {value : α} (performs : Performs first before accepted value middle)
    (firstFails : FailsOnly first before failure)
    (nextFails : accepted → FailsOnly (next value) middle failure) :
    FailsOnly (first >>= next) before failure := by
  apply failsOnly_bind firstFails
  intro given between reached
  obtain ⟨holds, rfl, rfl⟩ := (performs given between).mp reached
  exact nextFails holds

/-- A refusal in front of further writing. -/
theorem failsOnly_guard {condition : Prop} [Decidable condition] {error : WriteError}
    {skipped : PUnit → Writing σ α} {next : Writing σ α}
    (refused : condition → failure error before)
    (nextFails : ¬ condition → FailsOnly next before failure) :
    FailsOnly (if condition then throw error >>= skipped else next) before failure := by
  by_cases holds : condition
  · rw [if_pos holds]
    intro given after failed
    cases failed
    exact refused holds
  · rw [if_neg holds]
    exact nextFails holds

theorem failsOnly_tellListener {listener : Listener} {address : Int}
    (stopped : ∀ reason, listener address = some reason → failure (.store (.stopped reason))
      { before with calls := before.calls ++ [Listener.call listener address] }) :
    FailsOnly (Stream.tellListener listener address) before failure := by
  intro error after failed
  rw [Stream.run_tellListener] at failed
  cases answer : listener address with
  | none =>
      rw [answer] at failed
      cases failed
  | some reason =>
      rw [answer] at failed
      cases failed
      exact stopped reason answer

end Runs

/-! ## Steps -/

namespace Plan

section Steps

variable {store : Store} {plan : Plan} (calls : List Call) (content : Bytes)
  {failure : WriteError → Progress Store → Prop}
variable (faultless : store.faults = {}) (start : plan.start = store.position)

include faultless start

theorem failsOnly_append {payload : Bytes}
    (late : maxOffset < content.length → ∀ error, failure error ⟨store.holding content, calls⟩) :
    FailsOnly (Store.asStream.append plan payload) ⟨store.holding content, calls⟩ failure := by
  have tell := performs_tell (store.holding content) calls
  have write := performs_write_holding calls content faultless payload
  unfold Stream.append
  refine failsOnly_bind_of_performs tell (failsOnly_of_performs tell trivial) fun _ => ?_
  simp only [tell_sub_start content faultless start, Nat.cast_lt]
  refine failsOnly_guard (fun past => late past _) fun _ => ?_
  refine failsOnly_bind_of_performs write (failsOnly_of_performs write trivial) fun _ => ?_
  exact failsOnly_pure _

theorem failsOnly_begin
    (late : maxOffset < (plan.placeholder ++ plan.metadata).length →
      ∀ error rest, failure error ⟨store.holding (plan.placeholder ++ rest), calls⟩) :
    FailsOnly (Store.asStream.begin plan) ⟨store, calls⟩ failure := by
  have header := performs_write calls faultless plan.placeholder
  have metadata := performs_append calls plan.placeholder faultless start plan.metadata
  have callGraph := performs_append calls (plan.placeholder ++ plan.metadata) faultless start
    plan.callGraph
  unfold Stream.begin
  refine failsOnly_bind_of_performs header (failsOnly_of_performs header trivial) fun _ => ?_
  refine failsOnly_bind_of_performs metadata ?_ fun _ => ?_
  · refine failsOnly_append calls _ faultless start ?_
    intro past error
    have longer : maxOffset < (plan.placeholder ++ plan.metadata).length := by
      rw [List.length_append]
      omega
    have left := late longer error []
    rwa [List.append_nil] at left
  refine failsOnly_bind_of_performs callGraph ?_ fun _ => failsOnly_pure _
  refine failsOnly_append calls _ faultless start ?_
  intro past error
  exact late past error plan.metadata

omit start in
/-- The index is packed before zeros are written over. -/
theorem failsOnly_finish {index : Index}
    (unpacked : ∀ error, failure error
      ⟨{ store.holding content with position := plan.start }, calls⟩) :
    FailsOnly (Store.asStream.finish plan index) ⟨store.holding content, calls⟩ failure := by
  have held := Store.faultless_holding faultless content
  have atStart := Store.faultless_moved held plan.start
  have tell := performs_tell (store.holding content) calls
  have seek := performs_seek (store.holding content) calls plan.start
  rw [Store.seek_of_faultless held] at seek
  unfold Stream.finish
  refine failsOnly_bind_of_performs tell (failsOnly_of_performs tell trivial) fun _ => ?_
  refine failsOnly_bind_of_performs seek (failsOnly_of_performs seek trivial) fun _ => ?_
  cases index.pack? with
  | none =>
      refine failsOnly_bind (failsOnly_throw (unpacked _)) ?_
      intro _ _ impossible
      cases impossible
  | some header =>
      have write := performs_write calls atStart header
      have back := performs_seek
        ({ store.holding content with position := plan.start }.holding header) calls
        (store.holding content).tell
      refine failsOnly_bind_of_performs write (failsOnly_of_performs write trivial) fun _ => ?_
      refine failsOnly_bind_of_performs back (failsOnly_of_performs back trivial) fun _ => ?_
      exact failsOnly_of_performs (performs_flush _ calls) trivial

/-- An item fails to be encoded, to be accepted or to be told. -/
theorem failsOnly_appendItem {listener : Listener} {entries : List Entry} {item : Item}
    {known : Option Stream.Opening} {found : Stream.Opening} {before : Progress Store}
    {begun : Prop} (begins : Performs (Store.asStream.ensureBegun plan known) before begun found
      ⟨store.holding content, calls⟩)
    (unencoded : ∀ error, item.encode = .error error → failure error before)
    (notBegun : ∀ next, item.encode = .ok next →
      FailsOnly (Store.asStream.ensureBegun plan known) before failure)
    (refused : ∀ address payload, item.encode = .ok (address, payload) →
      ¬ plan.Accepts entries address content.length →
        ∀ error, failure error ⟨store.holding content, calls⟩)
    (stopped : ∀ address payload reason, item.encode = .ok (address, payload) →
      plan.Accepts entries address content.length → listener address = some reason →
          failure (.store (.stopped reason)) ⟨store.holding (content ++ payload),
            calls ++ [Listener.call listener address]⟩) :
    FailsOnly (Store.asStream.appendItem plan listener known entries item) before failure := by
  unfold Stream.appendItem
  cases encoded : item.encode with
  | error error =>
      refine failsOnly_bind (failsOnly_lift ?_) ?_
      · intro given same
        obtain rfl := Except.error.inj same
        exact unencoded _ encoded
      · intro _ _ impossible
        cases impossible
  | ok next =>
      obtain ⟨address, payload⟩ := next
      have append := performs_append calls content faultless start payload
      refine failsOnly_bind_of_performs (performs_lift rfl before) (failsOnly_lift (by simp))
        fun _ => ?_
      refine failsOnly_bind_of_performs begins (notBegun _ encoded) fun _ => ?_
      refine failsOnly_guard ?_ fun room => ?_
      · intro full
        refine refused address payload encoded (fun accepts => ?_) _
        exact absurd accepts.room (not_lt.mpr full)
      refine failsOnly_guard ?_ fun fresh => ?_
      · intro known
        have listed : address ∈ entries.map (·.address) := by simpa using known
        exact refused address payload encoded (fun accepts => accepts.fresh listed) _
      refine failsOnly_bind_of_performs append ?_ fun small => ?_
      · refine failsOnly_append calls content faultless start ?_
        intro past error
        refine refused address payload encoded (fun accepts => ?_) error
        exact absurd accepts.small (not_le.mpr past)
      refine failsOnly_bind (failsOnly_tellListener ?_) fun _ _ _ => failsOnly_pure _
      intro reason answer
      have unknown : address ∉ entries.map (·.address) := by simpa using fresh
      exact stopped address payload reason encoded ⟨not_le.mp room, unknown, small⟩ answer

end Steps

/-! ## Items -/

/-- A listener that hears everything. -/
def silent : Listener := fun _ => none

/-- Why writing items behind some entries, from an offset on, comes to an end,
and the addresses that the listener was given until then: those of all items that
were accepted, the last of which may be the one at which it stopped the writing. -/
inductive Stops (plan : Plan) (listener : Listener) (entries : List Entry) (offset : Nat)
    (items : List Item) (error : WriteError) : List Int → Prop
  /-- An item cannot be encoded or is not accepted. -/
  | refused {front : List Item} {item : Item} {rest : List Item} {flowGraphs : List (Int × Bytes)}
      (split : items = front ++ item :: rest) (encoded : front.mapM Item.encode = .ok flowGraphs)
      (accepted : plan.Appendable listener entries offset flowGraphs)
      (refused : ∀ next, item.encode = .ok next →
        ¬ plan.Appendable silent entries offset (flowGraphs ++ [next])) :
      Stops plan listener entries offset items error (flowGraphs.map Prod.fst)
  /-- The listener stops the writing at an item that was accepted. -/
  | stopped {front : List Item} {item : Item} {rest : List Item} {flowGraphs : List (Int × Bytes)}
      {next : Int × Bytes} {reason : String}
      (split : items = front ++ item :: rest) (encoded : front.mapM Item.encode = .ok flowGraphs)
      (accepted : plan.Appendable listener entries offset flowGraphs)
      (encodedNext : item.encode = .ok next)
      (acceptedNext : plan.Appendable silent entries offset (flowGraphs ++ [next]))
      (answer : listener next.1 = some reason) (same : error = .store (.stopped reason)) :
      Stops plan listener entries offset items error ((flowGraphs ++ [next]).map Prod.fst)
  /-- All items were accepted. -/
  | exhausted {flowGraphs : List (Int × Bytes)}
      (encoded : items.mapM Item.encode = .ok flowGraphs)
      (accepted : plan.Appendable listener entries offset flowGraphs) :
      Stops plan listener entries offset items error (flowGraphs.map Prod.fst)

theorem Stops.cons {plan : Plan} {listener : Listener} {entries : List Entry} {offset : Nat}
    {item : Item} {items : List Item} {error : WriteError} {address : Int} {payload : Bytes}
    {given : List Int} (encodedFirst : item.encode = .ok (address, payload))
    (accepts : plan.Accepts entries address offset) (heard : listener address = none)
    (stops : plan.Stops listener (entries ++ [⟨address, offset⟩]) (offset + payload.length) items
      error given) :
    plan.Stops listener entries offset (item :: items) error (address :: given) := by
  have begun : ∀ {rest : List (Int × Bytes)}, plan.Appendable silent entries offset
      ((address, payload) :: rest) ↔ plan.Appendable silent (entries ++ [⟨address, offset⟩])
        (offset + payload.length) rest := by
    intro rest
    rw [appendable_cons_iff]
    simp [accepts, silent]
  cases stops with
  | refused split encoded accepted refused =>
      subst split
      refine .refused (List.cons_append ..).symm
        (mapM_cons_eq_ok_iff.mpr ⟨_, _, encodedFirst, encoded, rfl⟩)
        (appendable_cons_iff.mpr ⟨⟨accepts, heard⟩, accepted⟩) ?_
      intro next encodedNext acceptedNext
      exact refused next encodedNext (begun.mp acceptedNext)
  | stopped split encoded accepted encodedNext acceptedNext answer same =>
      subst split
      exact .stopped (List.cons_append ..).symm
        (mapM_cons_eq_ok_iff.mpr ⟨_, _, encodedFirst, encoded, rfl⟩)
        (appendable_cons_iff.mpr ⟨⟨accepts, heard⟩, accepted⟩) encodedNext
        (begun.mpr acceptedNext) answer same
  | exhausted encoded accepted =>
      exact .exhausted (mapM_cons_eq_ok_iff.mpr ⟨_, _, encodedFirst, encoded, rfl⟩)
        (appendable_cons_iff.mpr ⟨⟨accepts, heard⟩, accepted⟩)

/-- One item behind entries that have room and are distinct is accepted exactly
if it passes the checks. -/
theorem appendable_singleton_iff {plan : Plan} {listener : Listener} {entries : List Entry}
    {offset : Nat} {address : Int} {payload : Bytes}
    (distinct : (entries.map (·.address)).Nodup) :
    plan.Appendable listener entries offset [(address, payload)] ↔
      plan.Accepts entries address offset ∧ listener address = none := by
  rw [appendable_cons_iff, appendable_nil_iff]
  constructor
  · intro both
    exact both.1
  · intro checks
    exact ⟨checks, checks.1.bounded _, checks.1.distinct distinct _⟩

/-! An item right behind the entries, when no address was given yet. -/

section First

variable {plan : Plan} {listener : Listener} {entries : List Entry} {offset : Nat} {item : Item}
  (items : List Item) (bounded : entries.length ≤ plan.count)
  (distinct : (entries.map (·.address)).Nodup)

include bounded distinct

theorem Stops.of_unencoded {failed : WriteError} (unencoded : item.encode = .error failed)
    (error : WriteError) : plan.Stops listener entries offset (item :: items) error [] := by
  refine .refused (List.nil_append _).symm rfl (appendable_nil_iff.mpr ⟨bounded, distinct⟩) ?_
  intro next encoded
  rw [unencoded] at encoded
  cases encoded

theorem Stops.of_unaccepted {address : Int} {payload : Bytes}
    (encoded : item.encode = .ok (address, payload))
    (refused : ¬ plan.Accepts entries address offset) (error : WriteError) :
    plan.Stops listener entries offset (item :: items) error [] := by
  refine .refused (List.nil_append _).symm rfl (appendable_nil_iff.mpr ⟨bounded, distinct⟩) ?_
  intro next encodedNext accepted
  rw [encoded] at encodedNext
  cases encodedNext
  exact refused ((appendable_singleton_iff distinct).mp accepted).1

theorem Stops.of_stopped {address : Int} {payload : Bytes} {reason : String}
    (encoded : item.encode = .ok (address, payload))
    (accepts : plan.Accepts entries address offset) (answer : listener address = some reason) :
    plan.Stops listener entries offset (item :: items) (.store (.stopped reason)) [address] := by
  refine .stopped (List.nil_append _).symm rfl (appendable_nil_iff.mpr ⟨bounded, distinct⟩)
    encoded ?_ answer rfl
  exact (appendable_singleton_iff distinct).mpr ⟨accepts, rfl⟩

end First

/-- A store was not touched, or zeros stand where the header belongs. -/
def LeavesZeros (plan : Plan) (store left : Store) : Prop :=
  left = store ∨ ∃ (rest : Bytes) (position : Nat),
    left = { store.holding (plan.placeholder ++ rest) with position }

theorem leavesZeros_holding {store : Store} {plan : Plan} (rest : Bytes) :
    plan.LeavesZeros store (store.holding (plan.placeholder ++ rest)) :=
  .inr ⟨rest, _, rfl⟩

theorem leavesZeros_front {store : Store} {plan : Plan} (more : Bytes) (position : Nat) :
    plan.LeavesZeros store { store.holding (plan.front ++ more) with position } :=
  .inr ⟨plan.metadata ++ plan.callGraph ++ more, position, by simp [Plan.front]⟩

section Items

variable {store : Store} {plan : Plan} (faultless : store.faults = {})
  (start : plan.start = store.position)

include faultless start

/-- Writing items fails behind what was written before, at an item. -/
theorem failsOnly_appendItems (listener : Listener) (known : Stream.Opening) (items : List Item)
    (entries : List Entry) (bounded : entries.length ≤ plan.count)
    (distinct : (entries.map (·.address)).Nodup) (content : Bytes) (calls : List Call) :
    FailsOnly (Store.asStream.appendItems plan listener (some known) entries items)
      ⟨store.holding content, calls⟩ fun error after =>
        (∃ more, after.store = store.holding (content ++ more)) ∧
          ∃ given, after.calls = calls ++ given.map (Listener.call listener) ∧
            plan.Stops listener entries content.length items error given := by
  induction items generalizing entries content calls with
  | nil => exact failsOnly_pure _
  | cons item items induction =>
      refine failsOnly_bind ?_ ?_
      · refine failsOnly_appendItem calls content faultless start
          (performs_ensureBegun_some known _) ?_ (fun _ _ => failsOnly_pure _) ?_ ?_
        · intro error unencoded
          exact ⟨⟨[], by simp⟩, [], by simp, .of_unencoded items bounded distinct unencoded error⟩
        · intro address payload encoded refused error
          exact ⟨⟨[], by simp⟩, [], by simp,
            .of_unaccepted items bounded distinct encoded refused error⟩
        · intro address payload reason encoded accepted answer
          exact ⟨⟨payload, rfl⟩, [address], rfl,
            .of_stopped items bounded distinct encoded accepted answer⟩
      · intro value middle reached
        obtain ⟨⟨address, payload⟩, encoded⟩ := encode_of_reaches_appendItem reached
        have step := performs_appendItem calls content faultless start listener entries encoded
          (performs_ensureBegun_some known _)
        obtain ⟨⟨_, accepts, heard⟩, rfl, rfl⟩ := (step _ _).mp reached
        -- the checks that the item passed carry both assumptions on the entries over
        have more := induction _ (accepts.bounded content.length)
          (accepts.distinct distinct content.length) (content ++ payload)
          (calls ++ [Listener.call listener address])
        intro error after failed
        obtain ⟨⟨rest, left⟩, given, called, stops⟩ := more error after failed
        rw [List.append_assoc] at left called
        rw [List.length_append] at stops
        exact ⟨⟨payload ++ rest, left⟩, address :: given, called,
          .cons encoded accepts heard stops⟩

/-- The listener was called with some addresses until writing came to an end. -/
def Ends (plan : Plan) (listener : Listener) (items : List Item) (error : WriteError)
    (calls : List Call) : Prop :=
  ∃ given, calls = given.map (Listener.call listener) ∧
    plan.Stops listener [] plan.front.length items error given

/-- Where writing begins, an item that fails to be written leaves the store as it
was or with zeros. -/
theorem failsOnly_appendItems_first (listener : Listener) (items : List Item) :
    FailsOnly (Store.asStream.appendItems plan listener none [] items) ⟨store, []⟩
      fun error after =>
        plan.LeavesZeros store after.store ∧ plan.Ends listener items error after.calls := by
  cases items with
  | nil => exact failsOnly_pure _
  | cons item items =>
      have bounded : ([] : List Entry).length ≤ plan.count := Nat.zero_le _
      have distinct : (([] : List Entry).map (·.address)).Nodup := List.nodup_nil
      have begins := performs_ensureBegun_none [] faultless start
      refine failsOnly_bind ?_ ?_
      · refine failsOnly_appendItem [] plan.front faultless start begins ?_ ?_ ?_ ?_
        · intro error unencoded
          exact ⟨.inl rfl, [], rfl, .of_unencoded items bounded distinct unencoded error⟩
        · intro next encoded
          obtain ⟨address, payload⟩ := next
          refine failsOnly_begin [] faultless start ?_
          intro late error rest
          refine ⟨leavesZeros_holding rest, [], rfl,
            .of_unaccepted items bounded distinct encoded ?_ error⟩
          intro accepts
          have longer : (plan.placeholder ++ plan.metadata).length ≤ plan.front.length := by
            simp only [Plan.front, List.length_append]
            omega
          exact absurd (longer.trans accepts.small) (not_le.mpr late)
        · intro address payload encoded refused error
          have left : plan.LeavesZeros store (store.holding (plan.front ++ [])) :=
            leavesZeros_front [] _
          rw [List.append_nil] at left
          exact ⟨left, [], rfl, .of_unaccepted items bounded distinct encoded refused error⟩
        · intro address payload reason encoded accepted answer
          exact ⟨leavesZeros_front payload _, [address], rfl,
            .of_stopped items bounded distinct encoded accepted answer⟩
      · intro value middle reached
        obtain ⟨⟨address, payload⟩, encoded⟩ := encode_of_reaches_appendItem reached
        have step := performs_appendItem [] plan.front faultless start listener [] encoded begins
        obtain ⟨⟨_, accepts, heard⟩, rfl, rfl⟩ := (step _ _).mp reached
        have more := failsOnly_appendItems faultless start listener plan.opening items
          [⟨address, plan.front.length⟩] accepts.room (List.nodup_singleton _)
          (plan.front ++ payload) [Listener.call listener address]
        intro error after failed
        obtain ⟨⟨rest, left⟩, given, called, stops⟩ := more error after failed
        rw [List.append_assoc] at left
        rw [List.length_append] at stops
        rw [left]
        exact ⟨leavesZeros_front _ _, address :: given, called,
          .cons encoded accepts heard stops⟩

/-- What is known after all items were written. -/
theorem reaches_appendItems_begin {listener : Listener} {items : List Item}
    {known : Option Stream.Opening} {entries : List Entry} {middle : Progress Store}
    (reached : Reaches (Store.asStream.appendItems plan listener none [] items) ⟨store, []⟩
      (known, entries) middle) :
    (∀ error, plan.Ends listener items error middle.calls) ∧
      (known = none ∧ middle.store = store ∨
        known = some plan.opening ∧ ∃ more, middle.store = store.holding (plan.front ++ more)) := by
  obtain ⟨flowGraphs, encoded⟩ := encoded_of_reaches reached
  cases items with
  | nil =>
      obtain rfl := mapM_nil_eq_ok_iff.mp encoded
      cases reached
      have accepted : plan.Appendable listener [] plan.front.length [] :=
        appendable_nil_iff.mpr ⟨Nat.zero_le _, List.nodup_nil⟩
      exact ⟨fun _ => ⟨[], rfl, .exhausted encoded accepted⟩, .inl ⟨rfl, rfl⟩⟩
  | cons item items =>
      have performs := performs_appendItems_first faultless start listener encoded
      obtain ⟨⟨_, accepted⟩, same, rfl⟩ := (performs _ _).mp reached
      cases same
      exact ⟨fun _ => ⟨_, rfl, .exhausted encoded accepted⟩, .inr ⟨rfl, _, rfl⟩⟩

theorem failsOnly_run (listener : Listener) (items : List Item) :
    FailsOnly (Store.asStream.run plan listener items) ⟨store, []⟩ fun error after =>
      plan.LeavesZeros store after.store ∧ plan.Ends listener items error after.calls := by
  unfold Stream.run
  refine failsOnly_bind (failsOnly_appendItems_first faultless start listener items) ?_
  rintro ⟨known, entries⟩ ⟨middle, calls⟩ reached
  obtain ⟨ends, written⟩ := reaches_appendItems_begin faultless start reached
  have finishes : ∀ (index : Index) (more : Bytes),
      FailsOnly (Store.asStream.finish plan index >>= fun _ => pure index)
        ⟨store.holding (plan.front ++ more), calls⟩ fun error after =>
          plan.LeavesZeros store after.store ∧ plan.Ends listener items error after.calls := by
    intro index more
    refine failsOnly_bind (failsOnly_finish _ _ faultless ?_) fun _ _ _ => failsOnly_pure _
    intro error
    exact ⟨leavesZeros_front more _, ends error⟩
  rcases written with ⟨rfl, rfl⟩ | ⟨rfl, more, rfl⟩
  · refine failsOnly_guard (fun _ => ⟨.inl rfl, ends _⟩) fun _ => ?_
    refine failsOnly_bind_of_performs (performs_ensureBegun_none _ faultless start) ?_ fun _ => ?_
    · refine failsOnly_begin _ faultless start ?_
      intro _ error rest
      exact ⟨leavesZeros_holding rest, ends error⟩
    · have finish := finishes ⟨plan.opening.metadata, plan.opening.callGraph, entries⟩ []
      rw [List.append_nil] at finish
      exact finish
  · refine failsOnly_guard (fun _ => ⟨leavesZeros_front _ _, ends _⟩) fun _ => ?_
    refine failsOnly_bind_of_performs (performs_ensureBegun_some _ _) (failsOnly_pure _)
      fun _ => ?_
    exact finishes _ more

theorem failsOnly_runInterrupted (listener : Listener) (items : List Item) (reason : String) :
    FailsOnly (Store.asStream.runInterrupted plan listener items reason) ⟨store, []⟩
      fun error after =>
        plan.LeavesZeros store after.store ∧ plan.Ends listener items error after.calls := by
  unfold Stream.runInterrupted
  refine failsOnly_bind (failsOnly_appendItems_first faultless start listener items) ?_
  rintro ⟨known, entries⟩ ⟨middle, calls⟩ reached
  obtain ⟨ends, written⟩ := reaches_appendItems_begin faultless start reached
  rcases written with ⟨_, rfl⟩ | ⟨_, more, rfl⟩
  · exact failsOnly_throw ⟨.inl rfl, ends _⟩
  · exact failsOnly_throw ⟨leavesZeros_front _ _, ends _⟩

end Items

/-! ## Failures before anything is written -/

section Untouched

variable {plan : Plan} {listener : Listener} {before : Progress Store}

theorem failsOnly_appendItems_unencoded {item : Item} {rest : List Item} {failed : WriteError}
    (unencoded : item.encode = .error failed) :
    FailsOnly (Store.asStream.appendItems plan listener none [] (item :: rest)) before
      fun _ after => after = before := by
  refine failsOnly_bind ?_ ?_
  · unfold Stream.appendItem
    rw [unencoded]
    refine failsOnly_bind (failsOnly_lift fun _ _ => rfl) ?_
    intro _ _ impossible
    cases impossible
  · intro _ _ reached
    obtain ⟨_, encoded⟩ := encode_of_reaches_appendItem reached
    rw [unencoded] at encoded
    cases encoded

/-- Whatever would follow the items, nothing is written if the first one cannot
be encoded. -/
theorem failsOnly_unencoded_bind {α : Type} {item : Item} {rest : List Item}
    {failed : WriteError} (unencoded : item.encode = .error failed)
    {next : Option Stream.Opening × List Entry → Writing Store α} :
    FailsOnly (Store.asStream.appendItems plan listener none [] (item :: rest) >>= next) before
      fun _ after => after = before := by
  refine failsOnly_bind (failsOnly_appendItems_unencoded unencoded) ?_
  intro _ _ reached
  obtain ⟨flowGraphs, encoded⟩ := encoded_of_reaches reached
  obtain ⟨_, _, first, _⟩ := mapM_cons_eq_ok_iff.mp encoded
  rw [unencoded] at first
  cases first

theorem failsOnly_run_nil (expected : 0 < plan.count) :
    FailsOnly (Store.asStream.run plan listener []) before fun _ after => after = before := by
  refine failsOnly_bind (failsOnly_pure _) ?_
  intro value middle reached
  cases reached
  refine failsOnly_guard (fun _ => rfl) fun same => ?_
  simp only [List.length_nil] at same
  omega

theorem failsOnly_runInterrupted_nil (reason : String) :
    FailsOnly (Store.asStream.runInterrupted plan listener [] reason) before
      fun _ after => after = before := by
  refine failsOnly_bind (failsOnly_pure _) ?_
  intro value middle reached
  cases reached
  exact failsOnly_throw rfl

end Untouched

end Plan

/-! ## What a failure leaves -/

/-- Zeros in place of the first words are no header. -/
theorem not_trustedHeader_of_zeros {data : Bytes}
    (zeros : data.slice 0 12 = List.replicate 12 0) : ¬ TrustedHeader data := by
  intro trusted
  have word : numberAt data 4 4 = 0 := by
    have inside := slice_slice data 0 (show 4 + 4 ≤ 12 by decide)
    rw [zeros, Nat.zero_add] at inside
    rw [numberAt, ← inside]
    decide
  have starts := trusted.callGraph.1
  rw [word, headerEnd] at starts
  omega

/-- The data in front of the place of a store are kept, and those behind it
start with zeros, so that no reader opens them. -/
structure Store.Spoiled (store left : Store) : Prop where
  kept : left.bytes.take store.position = store.bytes.resize store.position
  zeros : left.bytes.slice store.position 12 = List.replicate 12 0
  refused : ∀ (position : Nat) (strict : Bool), ∃ fault,
    Reader.ofStore { bytes := left.bytes.drop store.position, position } strict =
      .error (.malformed fault)

theorem Plan.LeavesZeros.spoiled {plan : Plan} {store left : Store}
    (leaves : plan.LeavesZeros store left) : left = store ∨ store.Spoiled left := by
  rcases leaves with same | ⟨rest, position, rfl⟩
  · exact .inl same
  right
  have long : 12 ≤ plan.placeholder.length := by
    rw [plan.length_placeholder, preambleSize]
    omega
  have nonempty : plan.placeholder ++ rest ≠ [] := by
    intro nothing
    rw [(List.append_eq_nil_iff.mp nothing).1] at long
    cases long
  have bytes := store.bytes_holding nonempty
  have behind : (store.holding (plan.placeholder ++ rest)).bytes.drop store.position =
      plan.placeholder ++ rest ++
        store.bytes.drop (store.position + (plan.placeholder ++ rest).length) := by
    rw [bytes, List.drop_left' (Bytes.length_resize _ _)]
  have zeros : ((store.holding (plan.placeholder ++ rest)).bytes.drop store.position).take 12 =
      List.replicate 12 0 := by
    rw [behind, List.append_assoc, List.take_append_of_le_length long, Plan.placeholder,
      List.take_replicate, min_eq_left]
    rwa [Plan.placeholder, List.length_replicate] at long
  refine ⟨?_, zeros, ?_⟩
  · simp only [bytes]
    exact List.take_left' (Bytes.length_resize _ _)
  · intro given strict
    refine Reader.malformed_of_not_trusted rfl ?_ strict
    exact not_trustedHeader_of_zeros zeros

/-- Writing fails before anything was written: what is written first cannot be
made, or there is no first flow graph where one is needed. -/
inductive FailsEarly (metadata : Meta) (callGraph : CallGraph) (source : Source)
    (interruption : Option String) : Prop
  | count (error : WriteError) (failed : source.count = .error error)
  | metadata (error : Codec.EncodeError) (failed : Codec.encodeMetadata metadata = .error error)
  | callGraph (error : Codec.EncodeError) (failed : Codec.encodeCallGraph callGraph = .error error)
  | first (item : Item) (rest : List Item) (error : WriteError)
      (split : source.items = item :: rest) (failed : item.encode = .error error)
  | interrupted (nothing : source.items = []) (reason : String)
      (failed : interruption = some reason)
  | missing (nothing : source.items = []) (count : Nat) (announced : source.count = .ok count)
      (expected : 0 < count)

section Write

variable {listener : Listener} {metadata : Meta} {callGraph : CallGraph} {source : Source}
  {interruption : Option String} {store : Store} {error : WriteError} {after : Progress Store}

/-- No plan can be made, or a run of the plan fails. -/
theorem cases_of_writeFrom
    (failed : writeFrom listener metadata callGraph source interruption store =
      (.error error, after)) :
    (Plan.make store.tell metadata callGraph source = .error error ∧ after = ⟨store, []⟩) ∨
      ∃ plan, Plan.make store.tell metadata callGraph source = .ok plan ∧
        (interruption = none ∧
            (Store.asStream.run plan listener source.items).run.run ⟨store, []⟩ =
              (.error error, after) ∨
          ∃ reason, interruption = some reason ∧
            (Store.asStream.runInterrupted plan listener source.items reason).run.run ⟨store, []⟩ =
              (.error error, after)) := by
  rw [writeFrom_eq] at failed
  cases made : Plan.make store.tell metadata callGraph source with
  | error given =>
      rw [made] at failed
      cases failed
      exact .inl ⟨rfl, rfl⟩
  | ok plan =>
      rw [made] at failed
      cases interruption with
      | none => exact .inr ⟨plan, rfl, .inl ⟨rfl, failed⟩⟩
      | some reason => exact .inr ⟨plan, rfl, .inr ⟨reason, rfl, failed⟩⟩

theorem untouched_of_failsEarly
    (failed : writeFrom listener metadata callGraph source interruption store =
      (.error error, after))
    (early : FailsEarly metadata callGraph source interruption) : after = ⟨store, []⟩ := by
  rcases cases_of_writeFrom failed with ⟨_, same⟩ | ⟨plan, made, run⟩
  · exact same
  obtain ⟨count, metadataEncoded, callGraphEncoded, _⟩ := make_eq_ok_iff.mp made
  cases early with
  | count given refused =>
      rw [refused] at count
      cases count
  | metadata given refused =>
      rw [refused] at metadataEncoded
      cases metadataEncoded
  | callGraph given refused =>
      rw [refused] at callGraphEncoded
      cases callGraphEncoded
  | first item rest given split unencoded =>
      rw [split] at run
      rcases run with ⟨_, run⟩ | ⟨reason, _, run⟩
      · exact Plan.failsOnly_unencoded_bind unencoded error after run
      · exact Plan.failsOnly_unencoded_bind unencoded error after run
  | interrupted nothing reason interrupted =>
      rw [nothing] at run
      rcases run with ⟨complete, _⟩ | ⟨reason, _, run⟩
      · rw [interrupted] at complete
        cases complete
      · exact Plan.failsOnly_runInterrupted_nil reason error after run
  | missing nothing expected announced positive =>
      rw [announced] at count
      rw [nothing] at run
      obtain rfl := Except.ok.inj count
      rcases run with ⟨_, run⟩ | ⟨reason, _, run⟩
      · exact Plan.failsOnly_run_nil positive error after run
      · exact Plan.failsOnly_runInterrupted_nil reason error after run

end Write

theorem given_of_calls {progress : Progress Store} {listener : Listener} {given : List Int}
    (called : progress.calls = given.map (Listener.call listener)) : progress.given = given := by
  rw [Progress.given, called, List.map_map]
  exact List.map_id given

/-- Writing that fails leaves the store as it was, or spoiled from its place on;
the former if it fails early.  The listener was given the addresses of the leading
items that were accepted, one at which it stopped included, and no other. -/
theorem failed_write_is_refused (listener : Listener) (metadata : Meta) (callGraph : CallGraph)
    (source : Source) (interruption : Option String) (store : Store)
    (faultless : store.faults = {}) (error : WriteError) (after : Progress Store)
    (failed : writeFrom listener metadata callGraph source interruption store =
      (.error error, after)) :
    (after.store = store ∨ store.Spoiled after.store) ∧
      (FailsEarly metadata callGraph source interruption → after = ⟨store, []⟩) ∧
        after.calls = after.given.map (Listener.call listener) ∧
          (∀ refused, Plan.make store.tell metadata callGraph source = .error refused →
            after.given = []) ∧
            ∀ plan, Plan.make store.tell metadata callGraph source = .ok plan →
              plan.Stops listener [] plan.front.length source.items error after.given := by
  rcases cases_of_writeFrom failed with ⟨refused, rfl⟩ | ⟨plan, made, run⟩
  · refine ⟨.inl rfl, untouched_of_failsEarly failed, rfl, fun _ _ => rfl, ?_⟩
    intro plan made
    rw [refused] at made
    cases made
  · have start : plan.start = store.position := by
      rw [(make_eq_ok_iff.mp made).2.2.2, Store.tell_of_faultless faultless]
    have left : plan.LeavesZeros store after.store ∧
        plan.Ends listener source.items error after.calls := by
      rcases run with ⟨_, run⟩ | ⟨reason, _, run⟩
      · exact Plan.failsOnly_run faultless start listener source.items error after run
      · exact Plan.failsOnly_runInterrupted faultless start listener source.items reason error
          after run
    obtain ⟨zeros, given, called, stops⟩ := left
    obtain rfl := given_of_calls called
    refine ⟨zeros.spoiled, untouched_of_failsEarly failed, called, ?_, ?_⟩
    · intro refused unmade
      rw [made] at unmade
      cases unmade
    · intro other same
      rw [made] at same
      obtain rfl := Except.ok.inj same
      exact stops

/-- The third item has the address of the first. -/
def repeatingSource : Source where
  items := [.encoded 5 [1], .encoded 6 [2, 2], .encoded 5 [3]]

/-- Stops at the address of the second item. -/
def stoppingListener : Listener :=
  fun address => if address = 6 then some "stop" else none

/-- The first two items behind zeros, where a byte stood before. -/
def repeatingStore : Store where
  bytes := 0x7F :: List.replicate 51 0 ++ [1, 2, 2]
  position := 55

/-- The first two items were written and given to the listener, also where it stops
at the second one. -/
theorem repeatingSource_refused :
    (∃ after, writeFrom (fun _ => none) {} {} repeatingSource none
        { bytes := [0x7F], position := 4 } = (.error (.duplicate 5), after) ∧
      Store.Spoiled { bytes := [0x7F], position := 4 } after.store ∧ after.given = [5, 6]) ∧
    ∃ after, writeFrom stoppingListener {} {} repeatingSource none
        { bytes := [0x7F], position := 4 } = (.error (.store (.stopped "stop")), after) ∧
      Store.Spoiled { bytes := [0x7F], position := 4 } after.store ∧ after.given = [5, 6] := by
  have changed : repeatingStore ≠ { bytes := [0x7F], position := 4 } := by decide
  constructor
  · have failed : writeFrom (fun _ => none) {} {} repeatingSource none
        { bytes := [0x7F], position := 4 } =
          (.error (.duplicate 5), ⟨repeatingStore, [⟨5, none⟩, ⟨6, none⟩]⟩) := by
      decide +kernel
    obtain ⟨left, _⟩ := failed_write_is_refused _ {} {} _ none _ rfl _ _ failed
    exact ⟨_, failed, left.resolve_left changed, rfl⟩
  · have failed : writeFrom stoppingListener {} {} repeatingSource none
        { bytes := [0x7F], position := 4 } =
          (.error (.store (.stopped "stop")),
            ⟨repeatingStore, [⟨5, none⟩, ⟨6, some "stop"⟩]⟩) := by
      decide +kernel
    obtain ⟨left, _⟩ := failed_write_is_refused _ {} {} _ none _ rfl _ _ failed
    exact ⟨_, failed, left.resolve_left changed, rfl⟩

end CodeGraph.Container
