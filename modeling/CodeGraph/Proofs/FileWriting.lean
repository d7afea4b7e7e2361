import CodeGraph.Container.File
import CodeGraph.Proofs.FileSystems
import CodeGraph.Proofs.TreeChanges
import Mathlib

/-!
# Files that are written as a whole or not at all

A file is created, something is done with it, and it is closed.  Whatever of this
fails, the file is removed again, and nothing else in the tree changes.
-/

namespace CodeGraph.Container

open Files (Path Tree FileError)
open Files.Tree
open Sequencing

namespace FileSystem

/-- What is done with an open file.  It may fail, and tells addresses on the way. -/
abbrev Work (σ ε α : Type) := ExceptT ε (StateM (Progress σ)) α

/-- What goes wrong with a file. -/
inductive Trouble (ε : Type)
  | create (refusal : Refusal)
  | work (error : ε)
  | close (error : StoreError)
  deriving Repr

/-- Why a file was not written. -/
inductive Failure (ε : Type)
  | trouble (trouble : Trouble ε)
  /-- After some trouble the file could not be removed. -/
  | remove (refusal : Refusal)
  deriving Repr

/-- The result of writing a file, the tree behind it and the calls of the listener. -/
structure Outcome (ε α : Type) where
  result : Except ε α
  tree : Tree
  calls : List Call := []

variable {σ ε α : Type} (system : FileSystem σ)

/-- Does some work with an open file and closes it, also if the work fails. -/
def complete (work : Work σ ε α) (path : Path) (opened : Tree) (state : σ) :
    Outcome (Trouble ε) α :=
  let worked := work.run.run ⟨state, []⟩
  let closed := system.close worked.2.store
  { result := match closed.1 with
      | .ok () => worked.1.mapError .work
      | .error error => .error (.close error)
    tree := opened.withContent path (system.view closed.2).bytes
    calls := worked.2.calls }

/-- Creates a file and does some work with it. -/
def attempt (work : Work σ ε α) (path : Path) (tree : Tree) : Outcome (Trouble ε) α :=
  match system.create path tree with
  | (.error refusal, left) => { result := .error (.create refusal), tree := left }
  | (.ok state, opened) => system.complete work path opened state

/-- Removes a file; one that is not there is no trouble. -/
def discard (path : Path) (tree : Tree) : Except Refusal Tree :=
  match system.remove path tree with
  | .error (.tree .notFound) => .ok tree
  | other => other

/-- Writes a file by some work, or removes it again. -/
def writeFile (work : Work σ ε α) (path : Path) (tree : Tree) : Outcome (Failure ε) α :=
  let attempt := system.attempt work path tree
  match attempt.result with
  | .ok value => { result := .ok value, tree := attempt.tree, calls := attempt.calls }
  | .error trouble =>
      match system.discard path attempt.tree with
      | .ok tree => { result := .error (.trouble trouble), tree, calls := attempt.calls }
      | .error refusal =>
          { result := .error (.remove refusal), tree := attempt.tree, calls := attempt.calls }

/-- Nothing but the tree itself keeps the system from removing the path. -/
def Permits (path : Path) : Prop :=
  ∀ tree reason, system.remove path tree ≠ .error (.other reason)

/-! ## What can happen -/

theorem cases_of_attempt (work : Work σ ε α) (path : Path) (tree : Tree) :
    (∃ refusal left, system.create path tree = (.error refusal, left) ∧
      system.attempt work path tree = { result := .error (.create refusal), tree := left }) ∨
    ∃ state opened, system.create path tree = (.ok state, opened) ∧
      system.attempt work path tree = system.complete work path opened state := by
  unfold attempt
  cases system.create path tree with
  | mk result left =>
      cases result with
      | error refusal => exact .inl ⟨refusal, left, rfl, rfl⟩
      | ok state => exact .inr ⟨state, left, rfl, rfl⟩

theorem cases_of_writeFile (work : Work σ ε α) (path : Path) (tree : Tree) :
    (∃ value, (system.attempt work path tree).result = .ok value ∧
      system.writeFile work path tree =
        { result := .ok value, tree := (system.attempt work path tree).tree,
          calls := (system.attempt work path tree).calls }) ∨
    (∃ trouble after, (system.attempt work path tree).result = .error trouble ∧
      system.discard path (system.attempt work path tree).tree = .ok after ∧
        system.writeFile work path tree =
          { result := .error (.trouble trouble), tree := after,
            calls := (system.attempt work path tree).calls }) ∨
    ∃ trouble refusal, (system.attempt work path tree).result = .error trouble ∧
      system.discard path (system.attempt work path tree).tree = .error refusal ∧
        system.writeFile work path tree =
          { result := .error (.remove refusal), tree := (system.attempt work path tree).tree,
            calls := (system.attempt work path tree).calls } := by
  dsimp only [writeFile]
  cases (system.attempt work path tree).result with
  | ok value => exact .inl ⟨value, rfl, rfl⟩
  | error trouble =>
      right
      cases system.discard path (system.attempt work path tree).tree with
      | ok after => exact .inl ⟨trouble, after, rfl, rfl, rfl⟩
      | error refusal => exact .inr ⟨trouble, refusal, rfl, rfl, rfl⟩

theorem complete_of_ok {work : Work σ ε α} {path : Path} {opened : Tree} {state : σ} {value : α}
    (succeeded : (system.complete work path opened state).result = .ok value) :
    ∃ progress, work.run.run ⟨state, []⟩ = (.ok value, progress) ∧
      system.complete work path opened state =
        { result := .ok value, tree := opened.withContent path (system.view progress.store).bytes,
          calls := progress.calls } := by
  cases worked : work.run.run ⟨state, []⟩ with
  | mk outcome progress =>
      cases tried : system.close progress.store with
      | mk closing closed =>
          simp only [complete, worked, tried] at succeeded ⊢
          cases closing with
          | error error => cases succeeded
          | ok _ =>
              cases outcome with
              | error error => cases succeeded
              | ok given =>
                  cases succeeded
                  refine ⟨progress, rfl, ?_⟩
                  rw [system.view_close tried]
                  rfl

theorem cases_of_discard {path : Path} {tree after : Tree}
    (discarded : system.discard path tree = .ok after) :
    tree.remove path = .ok after ∨ tree.remove path = .error .notFound ∧ after = tree := by
  unfold discard at discarded
  split at discarded
  · next absent => exact .inr ⟨system.not_removed absent, (Except.ok.inj discarded).symm⟩
  · exact .inl (system.removed discarded)

/-! ## The tree behind an attempt -/

theorem attempt_of_unwritable {path : Path} {tree : Tree} {error : FileError}
    (unwritable : tree.write path [] = .error error) (work : Work σ ε α) :
    ∃ refusal, system.attempt work path tree = { result := .error (.create refusal), tree } := by
  have unwritten : ∀ after, tree.write path [] ≠ .ok after := by
    intro after written
    rw [unwritable] at written
    cases written
  rcases system.cases_of_attempt work path tree with
    ⟨refusal, left, tried, same⟩ | ⟨state, opened, tried, _⟩
  · rcases system.not_created tried with rfl | emptied
    · exact ⟨refusal, same⟩
    · exact (unwritten left emptied).elim
  · exact (unwritten opened (system.created tried).2).elim

section Place

variable {path : Path} {tree : Tree} {place : List String} (leads : tree.resolve path = .ok place)
  (plain : tree.node? place ≠ some .directory)

include leads plain

theorem attempt_agreeBut (work : Work σ ε α) :
    AgreeBut place tree (system.attempt work path tree).tree ∧
      (system.attempt work path tree).tree.node? place ≠ some .directory := by
  rcases system.cases_of_attempt work path tree with
    ⟨refusal, left, tried, same⟩ | ⟨state, opened, tried, same⟩
  · rw [same]
    rcases system.not_created tried with rfl | written
    · exact ⟨.refl place left, plain⟩
    · obtain ⟨_, emptied, _, held⟩ := agreeBut_of_write written leads
      exact ⟨emptied, by simp [held]⟩
  · rw [same]
    obtain ⟨_, emptied, leadsOpened, held⟩ := agreeBut_of_write (system.created tried).2 leads
    obtain ⟨again, _⟩ := write_withContent leadsOpened held
      (system.view (system.close (work.run.run ⟨state, []⟩).2.store).2).bytes
    obtain ⟨_, changed, _, heldToo⟩ := agreeBut_of_write again leadsOpened
    dsimp only [complete]
    exact ⟨emptied.trans changed, by simp [heldToo]⟩

/-- A file that may be removed is gone when it was discarded. -/
theorem discard_of_permits (permits : system.Permits path) :
    ∃ after, system.discard path tree = .ok after ∧ AgreeBut place tree after ∧
      after.node? place = none := by
  have named := ne_nil_of_not_directory plain
  unfold discard
  cases tried : system.remove path tree with
  | ok after =>
      obtain ⟨other, _, leadsToo, _, rfl⟩ := remove_eq_ok_iff.mp (system.removed tried)
      obtain rfl := Except.ok.inj (leads.symm.trans leadsToo)
      refine ⟨_, rfl, agreeBut_without tree named, ?_⟩
      rw [node?_without tree named, if_pos rfl]
  | error refusal =>
      cases refusal with
      | other reason => exact (permits tree reason tried).elim
      | tree error =>
          rcases remove_eq_error_iff.mp (system.not_removed tried) with
            unresolved | ⟨directory, _⟩ | ⟨⟨other, leadsToo, absent⟩, rfl⟩
          · rw [leads] at unresolved
            cases unresolved
          · obtain ⟨other, leadsToo, held⟩ := find_eq_ok_iff.mp directory
            obtain rfl := Except.ok.inj (leads.symm.trans leadsToo)
            exact (plain held).elim
          · obtain rfl := Except.ok.inj (leads.symm.trans leadsToo)
            exact ⟨tree, rfl, .refl place tree, absent⟩

end Place

/-! ## All or nothing -/

/-- Behind a path that leads nowhere there is nothing to be discarded. -/
theorem cleared_of_unresolved {path : Path} {tree after : Tree} {error : FileError}
    (unresolved : tree.resolve path = .error error)
    (discarded : after = tree ∨ system.discard path tree = .ok after) :
    Cleared path tree after := by
  have same : after = tree := by
    rcases discarded with same | discarded
    · exact same
    rcases system.cases_of_discard discarded with removed | ⟨_, same⟩
    · obtain ⟨place, _, leads, _⟩ := remove_eq_ok_iff.mp removed
      rw [unresolved] at leads
      cases leads
    · exact same
  subst same
  refine ⟨contains_eq_false_iff.mpr ?_, .refl path after⟩
  intro node found
  obtain ⟨place, leads, _⟩ := find_eq_ok_iff.mp found
  rw [unresolved] at leads
  cases leads

theorem cleared_of_failed {path : Path} {tree : Tree} (free : tree.find path ≠ .ok .directory)
    (permits : system.Permits path) (work : Work σ ε α) {failure : Failure ε}
    (failed : (system.writeFile work path tree).result = .error failure) :
    Cleared path tree (system.writeFile work path tree).tree := by
  cases leads : tree.resolve path with
  | error error =>
      have unwritable : tree.write path [] = .error error := write_eq_error_iff.mpr (.inl leads)
      obtain ⟨creation, unchanged⟩ := system.attempt_of_unwritable unwritable work
      apply system.cleared_of_unresolved leads
      rcases system.cases_of_writeFile work path tree with
        ⟨value, _, same⟩ | ⟨trouble, after, _, discarded, same⟩ | ⟨trouble, refusal, _, _, same⟩
      · rw [same] at failed
        cases failed
      · rw [unchanged] at discarded
        rw [same]
        exact .inr discarded
      · rw [same, unchanged]
        exact .inl rfl
  | ok place =>
      have plain : tree.node? place ≠ some .directory := by
        intro held
        exact free (find_eq_ok_iff.mpr ⟨place, leads, held⟩)
      obtain ⟨agree, kept⟩ := system.attempt_agreeBut leads plain work
      obtain ⟨left, removed, emptied, absent⟩ :=
        system.discard_of_permits (resolve_of_agreeBut agree plain leads) kept permits
      rcases system.cases_of_writeFile work path tree with
        ⟨value, _, same⟩ | ⟨trouble, after, _, discarded, same⟩ |
          ⟨trouble, refusal, _, discarded, same⟩
      · rw [same] at failed
        cases failed
      · obtain rfl := Except.ok.inj (removed.symm.trans discarded)
        rw [same]
        exact cleared_of_agreeBut (agree.trans emptied) leads plain absent
      · rw [removed] at discarded
        cases discarded

theorem holds_of_succeeded {path : Path} {tree : Tree} {work : Work σ ε α} {value : α}
    (succeeded : (system.writeFile work path tree).result = .ok value) :
    ∃ state progress, system.view state = { bytes := [] } ∧
      work.run.run ⟨state, []⟩ = (.ok value, progress) ∧
        (system.writeFile work path tree).calls = progress.calls ∧
          Holds path (system.view progress.store).bytes tree
            (system.writeFile work path tree).tree := by
  rcases system.cases_of_writeFile work path tree with
    ⟨given, tried, same⟩ | ⟨_, _, _, _, same⟩ | ⟨_, _, _, _, same⟩
  · rw [same] at succeeded ⊢
    cases succeeded
    rcases system.cases_of_attempt work path tree with
      ⟨refusal, left, _, failed⟩ | ⟨state, opened, created, completed⟩
    · rw [failed] at tried
      cases tried
    · obtain ⟨empty, written⟩ := system.created created
      rw [completed] at tried
      obtain ⟨progress, worked, whole⟩ := system.complete_of_ok tried
      rw [completed, whole]
      exact ⟨state, progress, empty, worked, rfl, holds_withContent written _⟩
  · rw [same] at succeeded
    cases succeeded
  · rw [same] at succeeded
    cases succeeded

/-- The file holds exactly what is written to an empty store. -/
theorem holds_container {path : Path} {tree : Tree} {listener : Listener} {metadata : Meta}
    {callGraph : CallGraph} {source : Source} {index : Index}
    (succeeded : (system.writeFile
      (system.stream.writeContainer listener metadata callGraph source) path tree).result =
        .ok index) :
    ∃ progress, Container.write listener metadata callGraph source { bytes := [] } =
        (.ok index, progress) ∧
      (system.writeFile (system.stream.writeContainer listener metadata callGraph source) path
        tree).calls = progress.calls ∧
      Holds path progress.store.bytes tree
        (system.writeFile (system.stream.writeContainer listener metadata callGraph source) path
          tree).tree := by
  obtain ⟨state, progress, empty, worked, calls, holds⟩ := system.holds_of_succeeded succeeded
  rcases system.cases_of_writeContainer (fun _ => .inr rfl) metadata callGraph source empty
    worked with ⟨_, failed⟩ | written
  · cases failed
  · exact ⟨_, written, calls, holds⟩

end FileSystem

/-! ## Files in memory -/

/-- Files that are stores, each with the same capacity. -/
def Store.files (capacity : Option Nat) : FileSystem Store where
  view store := { store with faults := { store.faults with capacity := none } }
  tell := Store.asStream.tell
  write := Store.asStream.write
  seek := Store.asStream.seek
  flush := Store.asStream.flush
  close store := (.ok (), store)
  create path tree :=
    match tree.write path [] with
    | .ok opened => (.ok { bytes := [], faults := { capacity } }, opened)
    | .error error => (.error (.tree error), tree)
  remove path tree := (tree.remove path).mapError .tree
  view_tell := by
    intro state after told tried
    cases tried
    exact ⟨rfl, rfl⟩
  view_write := by
    intro data state after tried
    simp only [Store.asStream] at tried
    split at tried
    · next written =>
        cases tried
        rw [Store.write_eq_ok written]
        rfl
    · cases tried
  view_seek := by
    intro place state after tried
    cases tried
    rfl
  view_flush := by
    intro state after tried
    cases tried
    rfl
  view_close := by
    intro state after tried
    cases tried
    rfl
  created := by
    intro path tree after state tried
    split at tried
    · next written =>
        cases tried
        exact ⟨rfl, written⟩
    · cases tried
  not_created := by
    intro path tree after refusal tried
    split at tried
    · cases tried
    · cases tried
      exact .inl rfl
  removed := mapError_eq_ok_iff.mp
  not_removed := by
    intro path tree error refused
    obtain ⟨given, same, tried⟩ := mapError_eq_error_iff.mp refused
    cases tried
    exact same

theorem Store.permits_files (capacity : Option Nat) (path : Path) :
    (Store.files capacity).Permits path := by
  intro tree reason refused
  obtain ⟨_, _, other⟩ := mapError_eq_error_iff.mp refused
  cases other

/-- What a failure says of files in memory. -/
def FileWriteError.failure : FileWriteError → FileSystem.Failure WriteError
  | .write error => .trouble (.work error)
  | .openFile _ error => .trouble (.create (.tree error))
  | .discard error => .remove (.tree error)

def FileOutcome.viewed (outcome : FileOutcome) :
    FileSystem.Outcome (FileSystem.Failure WriteError) Index :=
  ⟨outcome.result.mapError FileWriteError.failure, outcome.tree, outcome.calls⟩

theorem Store.discard_files (capacity : Option Nat) (path : Path) (tree : Tree) :
    (Store.files capacity).discard path tree = (discard tree path).mapError .tree := by
  have removes : (Store.files capacity).remove path tree = (tree.remove path).mapError .tree := rfl
  unfold FileSystem.discard discard
  rw [removes]
  cases tree.remove path with
  | ok after => rfl
  | error error =>
      cases error with
      | notFound => rfl
      | _ => rfl

/-- An open file is removed again, whatever it holds by then. -/
theorem discard_withContent {path : Path} {tree opened : Tree}
    (written : tree.write path [] = .ok opened) (content : Bytes) :
    ∃ after, discard opened path = .ok after ∧
      discard (opened.withContent path content) path = .ok after := by
  have discards : ∀ {other : Tree} {place : List String} {held : Bytes},
      other.resolve path = .ok place → other.node? place = some (.file held) →
        discard other path = .ok (other.without place) := by
    intro other place held leads holds
    unfold discard
    rw [remove_eq_ok_iff.mpr ⟨place, held, leads, holds, rfl⟩]
  obtain ⟨place, leads⟩ := exists_place_of_write written
  obtain ⟨_, _, leadsOpened, held⟩ := agreeBut_of_write written leads
  obtain ⟨again, same⟩ := write_withContent leadsOpened held content
  obtain ⟨_, _, leadsAgain, heldToo⟩ := agreeBut_of_write again leadsOpened
  refine ⟨_, discards leadsOpened held, ?_⟩
  rw [discards leadsAgain heldToo, same]

theorem Store.attempt_files {ε α : Type} (work : FileSystem.Work Store ε α) (path : Path)
    (tree : Tree) :
    (Store.files none).attempt work path tree =
      match tree.write path [] with
      | .error error => { result := .error (.create (.tree error)), tree }
      | .ok opened =>
          let worked := work.run.run ⟨{ bytes := [] }, []⟩
          { result := worked.1.mapError .work
            tree := opened.withContent path worked.2.store.bytes
            calls := worked.2.calls } := by
  have creates : (Store.files none).create path tree =
      match tree.write path [] with
      | .ok opened => (.ok { bytes := [] }, opened)
      | .error error => (.error (.tree error), tree) := rfl
  unfold FileSystem.attempt
  rw [creates]
  cases tree.write path [] with
  | error error => rfl
  | ok opened => rfl

/-- A container file is written as one in memory is. -/
theorem viewed_writeFile (listener : Listener) (metadata : Meta) (callGraph : CallGraph)
    (source : Source) (path : Path) (tree : Tree) :
    (writeFile listener metadata callGraph source path tree).viewed =
      (Store.files none).writeFile
        (Store.asStream.writeContainer listener metadata callGraph source) path tree := by
  unfold writeFile FileSystem.writeFile
  rw [Store.attempt_files]
  cases written : tree.write path [] with
  | error error =>
      unfold FileOutcome.failed
      simp only [Store.discard_files]
      cases discard tree path with
      | error error => rfl
      | ok after => rfl
  | ok opened =>
      simp only [writeContainer_asStream]
      cases run : write listener metadata callGraph source { bytes := [] } with
      | mk result progress =>
          cases result with
          | error error =>
              obtain ⟨after, discarded, same⟩ := discard_withContent written progress.store.bytes
              unfold FileOutcome.failed
              simp only [Store.discard_files, Except.mapError, discarded, same]
              rfl
          | ok index =>
              obtain ⟨place, leads⟩ := exists_place_of_write written
              obtain ⟨_, _, leadsOpened, held⟩ := agreeBut_of_write written leads
              obtain ⟨again, _⟩ := write_withContent leadsOpened held progress.store.bytes
              simp only [again, Except.mapError]
              rfl

theorem FileOutcome.failed_ne_ok (tree : Tree) (path : Path) (error : FileWriteError)
    (calls : List Call) (index : Index) : (failed tree path error calls).result ≠ .ok index := by
  unfold failed
  cases discard tree path with
  | ok after => simp
  | error kept => simp

/-- Where a file can be made, a container is written if an empty store can hold it. -/
theorem writeFile_eq_ok_iff {listener : Listener} {metadata : Meta} {callGraph : CallGraph}
    {source : Source} {path : Path} {tree : Tree} {index : Index} :
    (writeFile listener metadata callGraph source path tree).result = .ok index ↔
      (∃ opened, tree.write path [] = .ok opened) ∧
        (write listener metadata callGraph source { bytes := [] }).1 = .ok index := by
  unfold writeFile
  cases written : tree.write path [] with
  | error error => simp [FileOutcome.failed_ne_ok]
  | ok opened =>
      cases run : write listener metadata callGraph source { bytes := [] } with
      | mk result progress =>
          cases result with
          | error error => simp [FileOutcome.failed_ne_ok]
          | ok given =>
              obtain ⟨place, leads⟩ := exists_place_of_write written
              obtain ⟨_, _, leadsOpened, held⟩ := agreeBut_of_write written leads
              obtain ⟨again, _⟩ := write_withContent leadsOpened held progress.store.bytes
              simp [again]

/-- Where no directory is, and where removing is permitted, a file is written as a
whole or not at all.  Whatever is done with the file, and whatever the system
refuses, there is nothing at the path after a failure.  A container that was
written is the one that an empty store gets.  Nothing else changes.  Files in
memory fail only if they cannot be made or the empty store cannot be written. -/
theorem files_are_written_whole {σ : Type} (system : FileSystem σ) {path : Path} {tree : Tree}
    (free : tree.find path ≠ .ok .directory) (permits : system.Permits path) :
    (∀ (ε α : Type) (work : FileSystem.Work σ ε α) (failure : FileSystem.Failure ε),
      let outcome := system.writeFile work path tree
      outcome.result = .error failure → Cleared path tree outcome.tree) ∧
    (∀ (listener : Listener) (metadata : Meta) (callGraph : CallGraph) (source : Source)
        (index : Index),
      let outcome := system.writeFile
        (system.stream.writeContainer listener metadata callGraph source) path tree
      outcome.result = .ok index →
        ∃ progress, write listener metadata callGraph source { bytes := [] } =
            (.ok index, progress) ∧
          outcome.calls = progress.calls ∧ Holds path progress.store.bytes tree outcome.tree) ∧
    ∀ (listener : Listener) (metadata : Meta) (callGraph : CallGraph) (source : Source),
      let outcome := writeFile listener metadata callGraph source path tree
      (∀ failure, outcome.result = .error failure → Cleared path tree outcome.tree) ∧
        (∀ index, outcome.result = .ok index →
          ∃ progress, write listener metadata callGraph source { bytes := [] } =
              (.ok index, progress) ∧
            outcome.calls = progress.calls ∧ Holds path progress.store.bytes tree outcome.tree) ∧
          ∀ index, outcome.result = .ok index ↔
            (∃ opened, tree.write path [] = .ok opened) ∧
              (write listener metadata callGraph source { bytes := [] }).1 = .ok index := by
  refine ⟨?_, ?_, ?_⟩
  · intro ε α work failure outcome failed
    exact system.cleared_of_failed free permits work failed
  · intro listener metadata callGraph source index outcome succeeded
    exact system.holds_container succeeded
  · intro listener metadata callGraph source outcome
    have viewed := viewed_writeFile listener metadata callGraph source path tree
    have result := congrArg FileSystem.Outcome.result viewed
    have left : outcome.tree = _ := congrArg FileSystem.Outcome.tree viewed
    have calls : outcome.calls = _ := congrArg FileSystem.Outcome.calls viewed
    refine ⟨?_, ?_, fun _ => writeFile_eq_ok_iff⟩
    · intro failure failed
      rw [left]
      apply (Store.files none).cleared_of_failed free (Store.permits_files none path)
      exact result.symm.trans (congrArg (Except.mapError FileWriteError.failure) failed)
    · intro index succeeded
      rw [left, calls]
      apply (Store.files none).holds_container
      exact result.symm.trans (congrArg (Except.mapError FileWriteError.failure) succeeded)

def neighbours : Tree where
  nodes := [(["old"], .file [1]), (["other"], .file [2])]

/-- With room for eight bytes the header does not fit, and the old file is gone. -/
theorem neighbours_written_whole :
    let outcome (capacity : Nat) := (Store.files (some capacity)).writeFile
      (Store.asStream.writeContainer (fun _ => none) {} {} { items := [] }) { names := ["old"] }
      neighbours
    (outcome 8).result = .error (.trouble (.work (.store .full))) ∧
      Cleared { names := ["old"] } neighbours (outcome 8).tree ∧
        (outcome 12).result = .ok ⟨12, 12, []⟩ ∧
          Holds { names := ["old"] } [12, 0, 0, 0, 12, 0, 0, 0, 0, 0, 0, 0] neighbours
            (outcome 12).tree := by
  intro outcome
  have free : neighbours.find { names := ["old"] } ≠ .ok .directory := by decide
  have full : (outcome 8).result = .error (.trouble (.work (.store .full))) := rfl
  have written : (outcome 12).result = .ok ⟨12, 12, []⟩ := rfl
  obtain ⟨vanishes, _, _⟩ :=
    files_are_written_whole (Store.files (some 8)) free (Store.permits_files _ _)
  obtain ⟨_, appears, _⟩ :=
    files_are_written_whole (Store.files (some 12)) free (Store.permits_files _ _)
  obtain ⟨progress, stored, _, holds⟩ := appears _ {} {} _ _ written
  have content : progress.store.bytes = [12, 0, 0, 0, 12, 0, 0, 0, 0, 0, 0, 0] :=
    congrArg (fun run => run.2.store.bytes) stored.symm
  rw [content] at holds
  exact ⟨full, vanishes _ _ _ _ full, written, holds⟩

end CodeGraph.Container
