import CodeGraph.Files.Tree
import CodeGraph.Proofs.WriterRefinement
import Mathlib

/-!
# Systems of files

A system may refuse at any time to create a file, to use an open one or to remove
one.  As long as it refuses nothing an open file is a store, and so a container
is written to it as to a store.
-/

namespace CodeGraph.Container

open Files (Path Tree FileError)

/-- Why a system refuses what is asked of it. -/
inductive Refusal
  /-- The tree, as it stands, leaves no other answer. -/
  | tree (error : FileError)
  | other (reason : String)
  deriving DecidableEq, Repr

/-- A system of files.  An open file has states `σ`, each of which can be viewed
as a store with the bytes that the file has if it is closed then.  Where an
operation fails nothing is known of the file behind it, and a file that cannot be
created may have been emptied. -/
structure FileSystem (σ : Type) where
  view : σ → Store
  tell : Attempt σ Nat
  write : Bytes → Attempt σ Unit
  seek : Nat → Attempt σ Unit
  flush : Attempt σ Unit
  close : Attempt σ Unit
  create : Path → Tree → Except Refusal σ × Tree
  remove : Path → Tree → Except Refusal Tree
  view_tell : ∀ {state after : σ} {told : Nat},
    tell state = (.ok told, after) → told = (view state).tell ∧ view after = view state
  view_write : ∀ {data : Bytes} {state after : σ},
    write data state = (.ok (), after) → (view state).write data = .ok (view after)
  view_seek : ∀ {place : Nat} {state after : σ},
    seek place state = (.ok (), after) → view after = (view state).seek place
  view_flush : ∀ {state after : σ}, flush state = (.ok (), after) → view after = view state
  view_close : ∀ {state after : σ}, close state = (.ok (), after) → view after = view state
  created : ∀ {path : Path} {tree after : Tree} {state : σ},
    create path tree = (.ok state, after) →
      view state = { bytes := [] } ∧ tree.write path [] = .ok after
  not_created : ∀ {path : Path} {tree after : Tree} {refusal : Refusal},
    create path tree = (.error refusal, after) → after = tree ∨ tree.write path [] = .ok after
  removed : ∀ {path : Path} {tree after : Tree},
    remove path tree = .ok after → tree.remove path = .ok after
  not_removed : ∀ {path : Path} {tree : Tree} {error : FileError},
    remove path tree = .error (.tree error) → tree.remove path = .error error

namespace FileSystem

variable {σ : Type} (system : FileSystem σ)

/-- An open file as a stream. -/
def stream : Stream σ where
  place state := (system.view state).tell
  tell := system.tell
  write := system.write
  seek := system.seek
  flush := system.flush
  place_tell := by
    intro state after told tried
    obtain ⟨same, kept⟩ := system.view_tell tried
    rw [kept]
    exact ⟨same, rfl⟩
  place_write := by
    intro data state after tried
    exact Store.tell_write (system.view_write tried)

/-- The progress of writing to an open file, viewed as that of writing to a store. -/
def viewProgress (progress : Progress σ) : Progress Store :=
  ⟨system.view progress.store, progress.calls⟩

/-! ## Writing to a file and to a store -/

/-- What is done with the file fails for a fault of the system or of the listener,
or ends as it does with a store. -/
def Mirrors {α : Type} (streaming : Writing σ α) (storing : Writing Store α) : Prop :=
  ∀ progress outcome after, streaming.run.run progress = (outcome, after) →
    (∃ error, outcome = .error (.store error)) ∨
      storing.run.run (system.viewProgress progress) = (outcome, system.viewProgress after)

section Mirrors

variable {system} {α β : Type}

theorem mirrors_pure (value : α) : system.Mirrors (pure value) (pure value) := by
  intro progress outcome after run
  cases run
  exact .inr rfl

theorem mirrors_throw (error : WriteError) :
    system.Mirrors (throw error : Writing σ α) (throw error) := by
  intro progress outcome after run
  cases run
  exact .inr rfl

theorem mirrors_lift (checked : Except WriteError α) :
    system.Mirrors (liftM checked) (liftM checked) := by
  cases checked with
  | ok value => exact mirrors_pure value
  | error error => exact mirrors_throw error

theorem mirrors_bind {first : Writing σ α} {following : α → Writing σ β}
    {firstStoring : Writing Store α} {followingStoring : α → Writing Store β}
    (mirrors : system.Mirrors first firstStoring)
    (continued : ∀ value, system.Mirrors (following value) (followingStoring value)) :
    system.Mirrors (first >>= following) (firstStoring >>= followingStoring) := by
  intro progress outcome after run
  cases reached : first.run.run progress with
  | mk given between =>
      simp only [ExceptT.run_bind, StateT.run_bind, reached] at run
      rcases mirrors progress given between reached with ⟨error, rfl⟩ | same
      · cases run
        exact .inl ⟨error, rfl⟩
      · simp only [ExceptT.run_bind, StateT.run_bind, same]
        cases given with
        | error error =>
            cases run
            exact .inr rfl
        | ok value => exact continued value between outcome after run

theorem mirrors_guard {condition : Prop} [Decidable condition] {error : WriteError}
    {skipped : PUnit → Writing σ α} {skippedStoring : PUnit → Writing Store α}
    {following : Writing σ α} {storing : Writing Store α}
    (continued : system.Mirrors following storing) :
    system.Mirrors (if condition then throw error >>= skipped else following)
      (if condition then throw error >>= skippedStoring else storing) := by
  by_cases holds : condition
  · rw [if_pos holds, if_pos holds]
    exact mirrors_throw error
  · rw [if_neg holds, if_neg holds]
    exact continued

theorem mirrors_perform {attempt : Attempt σ α} {stored : Attempt Store α}
    (viewed : ∀ state value after, attempt state = (.ok value, after) →
      stored (system.view state) = (.ok value, system.view after)) :
    system.Mirrors (Stream.perform attempt) (Stream.perform stored) := by
  intro progress outcome after run
  rw [Stream.run_perform] at run
  cases tried : attempt progress.store with
  | mk result state =>
      rw [tried] at run
      cases result with
      | error error =>
          cases run
          exact .inl ⟨error, rfl⟩
      | ok value =>
          cases run
          right
          have same := viewed progress.store value state tried
          rw [Stream.run_perform]
          simp only [viewProgress, same]

theorem mirrors_tell :
    system.Mirrors (Stream.perform system.stream.tell) (Stream.perform Store.asStream.tell) := by
  apply mirrors_perform
  intro state told after tried
  obtain ⟨rfl, kept⟩ := system.view_tell tried
  rw [kept]
  rfl

theorem mirrors_write (data : Bytes) :
    system.Mirrors (Stream.perform (system.stream.write data))
      (Stream.perform (Store.asStream.write data)) := by
  apply mirrors_perform
  intro state _ after tried
  simp only [Store.asStream, system.view_write tried]

theorem mirrors_seek (place : Nat) :
    system.Mirrors (Stream.perform (system.stream.seek place))
      (Stream.perform (Store.asStream.seek place)) := by
  apply mirrors_perform
  intro state _ after tried
  rw [system.view_seek tried]
  rfl

theorem mirrors_flush :
    system.Mirrors (Stream.perform system.stream.flush) (Stream.perform Store.asStream.flush) := by
  apply mirrors_perform
  intro state _ after tried
  rw [system.view_flush tried]
  rfl

end Mirrors

/-! ## The writer -/

/-- One listener stops at most where another one does, and for the same reason. -/
def Quieter (quiet listener : Listener) : Prop :=
  ∀ address, quiet address = none ∨ quiet address = listener address

section Writer

variable {system} (plan : Plan) {listener quiet : Listener}

theorem mirrors_append (payload : Bytes) :
    system.Mirrors (system.stream.append plan payload) (Store.asStream.append plan payload) := by
  unfold Stream.append
  refine mirrors_bind mirrors_tell fun place => ?_
  apply mirrors_guard
  exact mirrors_bind (mirrors_write payload) fun _ => mirrors_pure _

theorem mirrors_begin : system.Mirrors (system.stream.begin plan) (Store.asStream.begin plan) := by
  unfold Stream.begin
  refine mirrors_bind (mirrors_write _) fun _ => ?_
  refine mirrors_bind (mirrors_append plan _) fun metadata => ?_
  exact mirrors_bind (mirrors_append plan _) fun callGraph => mirrors_pure _

theorem mirrors_ensureBegun (opening : Option Stream.Opening) :
    system.Mirrors (system.stream.ensureBegun plan opening)
      (Store.asStream.ensureBegun plan opening) := by
  cases opening with
  | none => exact mirrors_begin plan
  | some known => exact mirrors_pure known

section Listener

variable (quieter : Quieter quiet listener)

include quieter

theorem mirrors_tellListener (address : Int) :
    system.Mirrors (Stream.tellListener listener address) (Stream.tellListener quiet address) := by
  intro progress outcome after run
  rw [Stream.run_tellListener] at run ⊢
  cases stopped : listener address with
  | some reason =>
      rw [stopped] at run
      cases run
      exact .inl ⟨.stopped reason, rfl⟩
  | none =>
      have heard : quiet address = none := by
        rcases quieter address with heard | same
        · exact heard
        · exact same.trans stopped
      rw [stopped] at run
      cases run
      rw [Listener.call, Listener.call, heard, stopped]
      exact .inr rfl

theorem mirrors_appendItem (opening : Option Stream.Opening) (entries : List Entry) (item : Item) :
    system.Mirrors (system.stream.appendItem plan listener opening entries item)
      (Store.asStream.appendItem plan quiet opening entries item) := by
  unfold Stream.appendItem
  refine mirrors_bind (mirrors_lift item.encode) fun given => ?_
  obtain ⟨address, payload⟩ := given
  refine mirrors_bind (mirrors_ensureBegun plan opening) fun opening => ?_
  apply mirrors_guard
  apply mirrors_guard
  refine mirrors_bind (mirrors_append plan payload) fun offset => ?_
  exact mirrors_bind (mirrors_tellListener quieter address) fun _ => mirrors_pure _

theorem mirrors_appendItems (opening : Option Stream.Opening) (entries : List Entry)
    (items : List Item) :
    system.Mirrors (system.stream.appendItems plan listener opening entries items)
      (Store.asStream.appendItems plan quiet opening entries items) := by
  induction items generalizing opening entries with
  | nil => exact mirrors_pure (opening, entries)
  | cons item rest induction =>
      rw [Stream.appendItems, Stream.appendItems]
      refine mirrors_bind (mirrors_appendItem plan quieter opening entries item) fun result => ?_
      exact induction (some result.1) (entries ++ [result.2])

omit quieter in
theorem mirrors_finish (index : Index) :
    system.Mirrors (system.stream.finish plan index) (Store.asStream.finish plan index) := by
  unfold Stream.finish
  refine mirrors_bind mirrors_tell fun place => ?_
  refine mirrors_bind (mirrors_seek plan.start) fun _ => ?_
  cases index.pack? with
  | none => exact mirrors_throw _
  | some header =>
      refine mirrors_bind (mirrors_write header) fun _ => ?_
      exact mirrors_bind (mirrors_seek place) fun _ => mirrors_flush

theorem mirrors_run (items : List Item) :
    system.Mirrors (system.stream.run plan listener items)
      (Store.asStream.run plan quiet items) := by
  unfold Stream.run
  refine mirrors_bind (mirrors_appendItems plan quieter none [] items) fun result => ?_
  obtain ⟨opening, entries⟩ := result
  apply mirrors_guard
  refine mirrors_bind (mirrors_ensureBegun plan opening) fun opening => ?_
  exact mirrors_bind (mirrors_finish plan _) fun _ => mirrors_pure _

omit plan in
theorem mirrors_writeContainer (metadata : Meta) (callGraph : CallGraph) (source : Source) :
    system.Mirrors (system.stream.writeContainer listener metadata callGraph source)
      (Store.asStream.writeContainer quiet metadata callGraph source) := by
  unfold Stream.writeContainer Stream.writeFrom
  refine mirrors_bind (mirrors_lift _) fun plan => ?_
  exact mirrors_bind mirrors_tell fun start => mirrors_run _ quieter source.items

end Listener

end Writer

/-- A container is written to a new file as to an empty store, unless the system
or the listener fails. -/
theorem cases_of_writeContainer {listener quiet : Listener} (quieter : Quieter quiet listener)
    (metadata : Meta) (callGraph : CallGraph) (source : Source) {state : σ}
    (empty : system.view state = { bytes := [] }) {outcome : Except WriteError Index}
    {after : Progress σ}
    (run : (system.stream.writeContainer listener metadata callGraph source).run.run ⟨state, []⟩ =
      (outcome, after)) :
    (∃ error, outcome = .error (.store error)) ∨
      Container.write quiet metadata callGraph source { bytes := [] } =
        (outcome, ⟨system.view after.store, after.calls⟩) := by
  rcases mirrors_writeContainer quieter metadata callGraph source _ _ _ run with failed | same
  · exact .inl failed
  · right
    rw [viewProgress, empty, writeContainer_asStream] at same
    exact same

end FileSystem

end CodeGraph.Container
