import CodeGraph.Container.Writer
import CodeGraph.Proofs.IndexRoundTrip
import CodeGraph.Proofs.StoreOverwrite
import Mathlib

/-!
# Steps of writing a container

Each step of the writer, run on a store without faults that holds some content
of the container, is described by when exactly it succeeds, and by its value
and the content that the store holds then.
-/

namespace CodeGraph.Container

/-! ## Runs -/

/-- Writing succeeds with a value, from one progress to another. -/
def Reaches {σ α : Type} (writing : Writing σ α) (before : Progress σ) (value : α)
    (after : Progress σ) : Prop :=
  writing.run.run before = (.ok value, after)

/-- Writing succeeds exactly when it is accepted, and then with this value and
progress. -/
def Performs {σ α : Type} (writing : Writing σ α) (before : Progress σ) (accepted : Prop)
    (value : α) (after : Progress σ) : Prop :=
  ∀ given reached, Reaches writing before given reached ↔
    accepted ∧ given = value ∧ reached = after

section Runs

variable {σ α β : Type} {before middle after : Progress σ} {accepted continued : Prop}

theorem Performs.congr {writing : Writing σ α} {value : α}
    (performs : Performs writing before accepted value after) (same : accepted ↔ continued) :
    Performs writing before continued value after := by
  intro given reached
  rw [performs given reached, same]

theorem performs_pure (value : α) : Performs (pure value) before True value before := by
  intro given reached
  constructor
  · intro run
    cases run
    exact ⟨trivial, rfl, rfl⟩
  · intro described
    obtain ⟨_, rfl, rfl⟩ := described
    rfl

theorem performs_lift {checked : Except WriteError α} {value : α} (succeeded : checked = .ok value)
    (before : Progress σ) : Performs (liftM checked) before True value before := by
  subst succeeded
  exact performs_pure value

theorem run_bind_of_reaches {first : Writing σ α} {next : α → Writing σ β} {value : α}
    (reaches : Reaches first before value middle) :
    (first >>= next).run.run before = (next value).run.run middle := by
  unfold Reaches at reaches
  simp only [ExceptT.run_bind, StateT.run_bind, reaches]
  rfl

theorem reaches_bind_iff {first : Writing σ α} {next : α → Writing σ β} {result : β} :
    Reaches (first >>= next) before result after ↔
      ∃ value middle, Reaches first before value middle ∧
        Reaches (next value) middle result after := by
  unfold Reaches
  cases outcome : first.run.run before with
  | mk given between =>
      simp only [ExceptT.run_bind, StateT.run_bind, outcome]
      cases given with
      | error error =>
          constructor
          · intro impossible
            cases impossible
          · intro reached
            obtain ⟨_, _, impossible, _⟩ := reached
            cases impossible
      | ok value =>
          constructor
          · intro rest
            exact ⟨value, between, rfl, rest⟩
          · intro reached
            obtain ⟨_, _, same, rest⟩ := reached
            cases same
            exact rest

/-- The second step only needs to be described when the first is accepted. -/
theorem performs_bind_of_accepted {first : Writing σ α} {next : α → Writing σ β} {value : α}
    {result : β} (firstPerforms : Performs first before accepted value middle)
    (nextPerforms : accepted → Performs (next value) middle continued result after) :
    Performs (first >>= next) before (accepted ∧ continued) result after := by
  intro given reached
  rw [reaches_bind_iff, and_assoc]
  constructor
  · intro run
    obtain ⟨_, _, firstRun, nextRun⟩ := run
    obtain ⟨holds, rfl, rfl⟩ := (firstPerforms _ _).mp firstRun
    exact ⟨holds, (nextPerforms holds _ _).mp nextRun⟩
  · intro described
    obtain ⟨holds, rest⟩ := described
    exact ⟨value, middle, (firstPerforms _ _).mpr ⟨holds, rfl, rfl⟩,
      (nextPerforms holds _ _).mpr rest⟩

theorem performs_bind {first : Writing σ α} {next : α → Writing σ β} {value : α} {result : β}
    (firstPerforms : Performs first before accepted value middle)
    (nextPerforms : Performs (next value) middle continued result after) :
    Performs (first >>= next) before (accepted ∧ continued) result after :=
  performs_bind_of_accepted firstPerforms fun _ => nextPerforms

/-- A refusal in front of further writing. -/
theorem performs_guard {condition : Prop} [Decidable condition] (error : WriteError)
    {skipped : PUnit → Writing σ α} {next : Writing σ α} {value : α}
    (performs : ¬ condition → Performs next before accepted value after) :
    Performs (if condition then throw error >>= skipped else next) before
      (¬ condition ∧ accepted) value after := by
  by_cases holds : condition
  · rw [if_pos holds]
    intro given reached
    rw [reaches_bind_iff]
    constructor
    · intro run
      obtain ⟨_, _, impossible, _⟩ := run
      cases impossible
    · intro impossible
      exact (impossible.1.1 holds).elim
  · rw [if_neg holds]
    apply (performs holds).congr
    simp [holds]

theorem Stream.run_perform (attempt : Attempt σ α) (progress : Progress σ) :
    (perform attempt).run.run progress =
      ((attempt progress.store).1.mapError WriteError.store,
        { progress with store := (attempt progress.store).2 }) := by
  have known : Reaches (get : Writing σ (Progress σ)) progress progress progress := rfl
  unfold perform
  rw [run_bind_of_reaches known]
  cases attempt progress.store with
  | mk outcome next =>
      cases outcome with
      | ok value => rfl
      | error error => rfl

theorem performs_perform {attempt : Attempt σ α} {state next : σ} {value : α}
    (tried : attempt state = (.ok value, next)) (calls : List Call) :
    Performs (Stream.perform attempt) ⟨state, calls⟩ True value ⟨next, calls⟩ := by
  have run : (Stream.perform attempt).run.run ⟨state, calls⟩ = (.ok value, ⟨next, calls⟩) := by
    rw [Stream.run_perform]
    simp only [tried]
    rfl
  intro given reached
  rw [Reaches, run]
  constructor
  · intro same
    cases same
    exact ⟨trivial, rfl, rfl⟩
  · intro described
    obtain ⟨_, rfl, rfl⟩ := described
    rfl

/-- The listener is given an address also if it stops there. -/
theorem Stream.run_tellListener (listener : Listener) (address : Int) (progress : Progress σ) :
    (tellListener listener address).run.run progress =
      (match listener address with
        | none => .ok ()
        | some reason => .error (.store (.stopped reason)),
        { progress with calls := progress.calls ++ [Listener.call listener address] }) := by
  have reached : (tellListener listener address).run.run progress =
      (match listener address with
        | none => (pure () : Writing σ Unit)
        | some reason => throw (WriteError.store (.stopped reason))).run.run
          { progress with calls := progress.calls ++ [Listener.call listener address] } := rfl
  rw [reached]
  cases listener address with
  | none => rfl
  | some reason => rfl

theorem performs_tellListener (listener : Listener) (address : Int) :
    Performs (Stream.tellListener listener address) before (listener address = none) ()
      { before with calls := before.calls ++ [Listener.call listener address] } := by
  intro given reached
  rw [Reaches, Stream.run_tellListener]
  cases listener address with
  | none =>
      constructor
      · intro run
        cases run
        exact ⟨rfl, rfl, rfl⟩
      · intro described
        obtain ⟨_, rfl, rfl⟩ := described
        rfl
  | some reason =>
      constructor
      · intro run
        cases run
      · intro impossible
        cases impossible.1

end Runs

/-! ## Steps -/

namespace Plan

/-- The zeros that are written in place of the header. -/
def placeholder (plan : Plan) : Bytes :=
  List.replicate (headerSize plan.count).toNat 0

theorem length_placeholder (plan : Plan) :
    plan.placeholder.length = preambleSize + plan.count * entrySize := by
  unfold placeholder headerSize
  rw [List.length_replicate]
  omega

theorem performs_tell (store : Store) (calls : List Call) :
    Performs (Stream.perform Store.asStream.tell) ⟨store, calls⟩ True store.tell ⟨store, calls⟩ :=
  performs_perform rfl calls

theorem performs_seek (store : Store) (calls : List Call) (place : Nat) :
    Performs (Stream.perform (Store.asStream.seek place)) ⟨store, calls⟩ True ()
      ⟨store.seek place, calls⟩ :=
  performs_perform rfl calls

theorem performs_flush (store : Store) (calls : List Call) :
    Performs (Stream.perform Store.asStream.flush) ⟨store, calls⟩ True () ⟨store, calls⟩ :=
  performs_perform rfl calls

section Steps

variable {store : Store} {plan : Plan} (calls : List Call) (content : Bytes)
variable (faultless : store.faults = {}) (start : plan.start = store.position)

include faultless

theorem performs_write (data : Bytes) :
    Performs (Stream.perform (Store.asStream.write data)) ⟨store, calls⟩ True ()
      ⟨store.holding data, calls⟩ := by
  apply performs_perform
  simp only [Store.asStream, Store.write_of_faultless faultless]

theorem performs_write_holding (data : Bytes) :
    Performs (Stream.perform (Store.asStream.write data)) ⟨store.holding content, calls⟩ True ()
      ⟨store.holding (content ++ data), calls⟩ := by
  rw [← Store.holding_holding]
  exact performs_write calls (Store.faultless_holding faultless content) data

include start

/-- Offsets are counted from the start of the container. -/
theorem tell_sub_start : ((store.holding content).tell : Int) - plan.start = content.length := by
  rw [Store.tell_of_faultless (Store.faultless_holding faultless content), start]
  simp only [Store.holding]
  omega

theorem performs_append (payload : Bytes) :
    Performs (Store.asStream.append plan payload) ⟨store.holding content, calls⟩
      (content.length ≤ maxOffset) (content.length : Int)
      ⟨store.holding (content ++ payload), calls⟩ := by
  unfold Stream.append
  apply Performs.congr
  · apply performs_bind (performs_tell _ calls)
    simp only [tell_sub_start content faultless start]
    apply performs_guard
    intro _
    apply performs_bind (performs_write_holding calls content faultless payload)
    exact performs_pure (content.length : Int)
  · simp

/-- Where the first two records start behind the placeholder. -/
def opening (plan : Plan) : Stream.Opening where
  metadata := plan.placeholder.length
  callGraph := (plan.placeholder ++ plan.metadata).length

/-- What is written in front of the flow graphs. -/
def front (plan : Plan) : Bytes :=
  plan.placeholder ++ plan.metadata ++ plan.callGraph

theorem performs_begin :
    Performs (Store.asStream.begin plan) ⟨store, calls⟩
      ((plan.placeholder ++ plan.metadata).length ≤ maxOffset) plan.opening
      ⟨store.holding plan.front, calls⟩ := by
  have header := performs_write calls faultless plan.placeholder
  have metadata := performs_append calls plan.placeholder faultless start plan.metadata
  have callGraph := performs_append calls (plan.placeholder ++ plan.metadata) faultless start
    plan.callGraph
  unfold Stream.begin
  apply Performs.congr
  · apply performs_bind header
    apply performs_bind metadata
    apply performs_bind callGraph
    exact performs_pure _
  · constructor
    · intro accepted
      exact accepted.2.2.1
    · intro small
      have earlier : plan.placeholder.length ≤ maxOffset := by
        rw [List.length_append] at small
        omega
      exact ⟨trivial, earlier, small, trivial⟩

theorem performs_ensureBegun_none :
    Performs (Store.asStream.ensureBegun plan none) ⟨store, calls⟩
      ((plan.placeholder ++ plan.metadata).length ≤ maxOffset) plan.opening
      ⟨store.holding plan.front, calls⟩ :=
  performs_begin calls faultless start

omit faultless start in
theorem performs_ensureBegun_some (known : Stream.Opening) (before : Progress Store) :
    Performs (Store.asStream.ensureBegun plan (some known)) before True known before :=
  performs_pure known

/-- Behind some entries, an item with an address may be written at an offset. -/
@[mk_iff]
structure Accepts (plan : Plan) (entries : List Entry) (address : Int) (offset : Nat) : Prop where
  room : entries.length < plan.count
  fresh : address ∉ entries.map (·.address)
  small : offset ≤ maxOffset

/-- An item is encoded before anything is written. -/
theorem performs_appendItem (listener : Listener) (entries : List Entry) {item : Item}
    {known : Option Stream.Opening} {found : Stream.Opening} {before : Progress Store}
    {begun : Prop} {address : Int} {payload : Bytes}
    (encoded : item.encode = .ok (address, payload))
    (begins : Performs (Store.asStream.ensureBegun plan known) before begun found
      ⟨store.holding content, calls⟩) :
    Performs (Store.asStream.appendItem plan listener known entries item) before
      (begun ∧ plan.Accepts entries address content.length ∧ listener address = none)
      (found, ⟨address, content.length⟩)
      ⟨store.holding (content ++ payload), calls ++ [Listener.call listener address]⟩ := by
  have append := performs_append calls content faultless start payload
  unfold Stream.appendItem
  apply Performs.congr
  · apply performs_bind (performs_lift encoded before)
    apply performs_bind begins
    apply performs_guard
    intro _
    apply performs_guard
    intro _
    apply performs_bind append
    apply performs_bind (performs_tellListener listener address)
    exact performs_pure _
  · simp [accepts_iff, and_assoc]

/-- The index is written in place of the zeros; everything behind them stays. -/
theorem performs_finish {index : Index} (complete : index.entries.length = plan.count)
    (rest : Bytes) :
    Performs (Store.asStream.finish plan index)
      ⟨store.holding (plan.placeholder ++ rest), calls⟩ index.Packable ()
      ⟨store.holding (index.packed ++ rest), calls⟩ := by
  have sameLength : index.packed.length = plan.placeholder.length := by
    rw [Index.length_packed, complete, length_placeholder]
  have held := Store.faultless_holding faultless (plan.placeholder ++ rest)
  have atStart := Store.faultless_moved held store.position
  have written := Store.faultless_holding atStart index.packed
  have seek := performs_seek (store.holding (plan.placeholder ++ rest)) calls plan.start
  rw [Store.seek_of_faultless held, start] at seek
  unfold Stream.finish
  cases packed : index.pack? with
  | none =>
      have refused : ¬ index.Packable := by
        intro packable
        have accepted := Index.pack?_eq_some_iff.mpr ⟨packable, rfl⟩
        rw [packed] at accepted
        cases accepted
      intro given reached
      constructor
      · intro run
        obtain ⟨_, _, _, rest⟩ := reaches_bind_iff.mp run
        obtain ⟨_, _, _, rest⟩ := reaches_bind_iff.mp rest
        obtain ⟨_, _, impossible, _⟩ := reaches_bind_iff.mp rest
        cases impossible
      · intro impossible
        exact (refused impossible.1).elim
  | some header =>
      obtain ⟨packable, rfl⟩ := Index.pack?_eq_some_iff.mp packed
      apply Performs.congr
      · apply performs_bind (performs_tell _ calls)
        rw [Store.tell_of_faultless held, start]
        apply performs_bind seek
        apply performs_bind (performs_write calls atStart index.packed)
        rw [← Store.holding_patched store rest sameLength, ← Store.seek_of_faultless written]
        apply performs_bind (performs_seek _ calls _)
        exact performs_flush _ calls
      · simp [packable]

end Steps

end Plan

end CodeGraph.Container
