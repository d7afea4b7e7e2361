import CodeGraph.Proofs.FileWriting
import CodeGraph.Proofs.WriterErrors
import CodeGraph.Proofs.WriterFailure
import Mathlib

/-!
# What is reported of a file

Whatever fails with a file is reported as a failure of it, but for one thing: the
failure to remove it again is passed on as it is.  This happens wherever a
directory is in the way, or a path that no file can have.
-/

namespace CodeGraph.Container

open Files (Path Tree FileError)
open Files.Tree
open Sequencing

/-! ## Removals that fail -/

/-- There is a directory, or the path leads nowhere although nothing is missing. -/
def Blocked (path : Path) (tree : Tree) : Prop :=
  tree.find path = .ok .directory ∨ ∃ error, tree.resolve path = .error error ∧ error ≠ .notFound

theorem blocked_iff {path : Path} {tree : Tree} :
    Blocked path tree ↔ ∃ error, tree.remove path = .error error ∧ error ≠ .notFound := by
  constructor
  · rintro (directory | ⟨error, unresolved, other⟩)
    · exact ⟨_, remove_eq_error_iff.mpr (.inr (.inl ⟨directory, rfl⟩)), by simp⟩
    · exact ⟨error, remove_eq_error_iff.mpr (.inl unresolved), other⟩
  · rintro ⟨error, kept, other⟩
    rcases remove_eq_error_iff.mp kept with unresolved | ⟨directory, _⟩ | ⟨_, rfl⟩
    · exact .inr ⟨error, unresolved, other⟩
    · exact .inl directory
    · exact (other rfl).elim

theorem Blocked.unwritable {path : Path} {tree : Tree} (blocked : Blocked path tree) :
    ∃ error, tree.write path [] = .error error := by
  rcases blocked with directory | ⟨error, unresolved, _⟩
  · exact ⟨.isDirectory, write_eq_error_iff.mpr (.inr ⟨directory, rfl⟩)⟩
  · exact ⟨error, write_eq_error_iff.mpr (.inl unresolved)⟩

namespace FileSystem

variable {σ ε α : Type} (system : FileSystem σ)

theorem discard_eq_error_iff {path : Path} {tree : Tree} {refusal : Refusal} :
    system.discard path tree = .error refusal ↔
      system.remove path tree = .error refusal ∧ refusal ≠ .tree .notFound := by
  unfold discard
  split
  · next absent => simp [absent, eq_comm]
  · next other =>
      constructor
      · intro kept
        refine ⟨kept, ?_⟩
        rintro rfl
        exact other kept
      · exact And.left

/-- An attempt does not put anything in the way. -/
theorem blocked_of_attempt {path : Path} {tree : Tree} {work : Work σ ε α}
    (blocked : Blocked path (system.attempt work path tree).tree) : Blocked path tree := by
  cases leads : tree.resolve path with
  | error error =>
      have unwritable : tree.write path [] = .error error := write_eq_error_iff.mpr (.inl leads)
      obtain ⟨refusal, same⟩ := system.attempt_of_unwritable unwritable work
      rwa [same] at blocked
  | ok place =>
      by_cases plain : tree.node? place = some .directory
      · exact .inl (find_eq_ok_iff.mpr ⟨place, leads, plain⟩)
      obtain ⟨agree, kept⟩ := system.attempt_agreeBut leads plain work
      have leadsLeft := resolve_of_agreeBut agree plain leads
      rcases blocked with directory | ⟨error, unresolved, _⟩
      · obtain ⟨other, leadsToo, held⟩ := find_eq_ok_iff.mp directory
        obtain rfl := Except.ok.inj (leadsLeft.symm.trans leadsToo)
        exact (kept held).elim
      · rw [leadsLeft] at unresolved
        cases unresolved

theorem exists_discard_of_blocked {path : Path} {tree : Tree} (blocked : Blocked path tree) :
    ∃ refusal, system.discard path tree = .error refusal := by
  obtain ⟨error, kept, foreseen⟩ := blocked_iff.mp blocked
  cases discarded : system.discard path tree with
  | error refusal => exact ⟨refusal, rfl⟩
  | ok after =>
      rcases system.cases_of_discard discarded with removed | ⟨absent, _⟩
      · rw [kept] at removed
        cases removed
      · rw [kept] at absent
        exact (foreseen (Except.error.inj absent)).elim

theorem run_of_complete {work : Work σ ε α} {path : Path} {opened : Tree} {state : σ} {error : ε}
    (failed : (system.complete work path opened state).result = .error (.work error)) :
    work.run.run ⟨state, []⟩ = (.error error, (work.run.run ⟨state, []⟩).2) := by
  dsimp only [complete] at failed
  split at failed
  · obtain ⟨given, worked, same⟩ := mapError_eq_error_iff.mp failed
    cases same
    exact Prod.ext worked rfl
  · cases failed

/-- Behind an attempt the file cannot be removed exactly if the path was blocked
before, or if the system refuses it for reasons of its own. -/
theorem exists_kept_iff {path : Path} {tree : Tree} (work : Work σ ε α) :
    (∃ refusal, (system.writeFile work path tree).result = .error (.remove refusal)) ↔
      Blocked path tree ∨
        ∃ trouble reason, (system.attempt work path tree).result = .error trouble ∧
          system.remove path (system.attempt work path tree).tree = .error (.other reason) := by
  constructor
  · rintro ⟨refusal, kept⟩
    rcases system.cases_of_writeFile work path tree with
      ⟨_, _, same⟩ | ⟨_, _, _, _, same⟩ | ⟨trouble, refusal, tried, discarded, _⟩
    · rw [same] at kept
      cases kept
    · rw [same] at kept
      cases kept
    · obtain ⟨refused, foreseen⟩ := system.discard_eq_error_iff.mp discarded
      cases refusal with
      | other reason => exact .inr ⟨trouble, reason, tried, refused⟩
      | tree error =>
          left
          apply system.blocked_of_attempt
          refine blocked_iff.mpr ⟨error, system.not_removed refused, ?_⟩
          rintro rfl
          exact foreseen rfl
  · intro obstacle
    obtain ⟨trouble, refusal, tried, discarded⟩ : ∃ trouble refusal,
        (system.attempt work path tree).result = .error trouble ∧
          system.discard path (system.attempt work path tree).tree = .error refusal := by
      rcases obstacle with blocked | ⟨trouble, reason, tried, refused⟩
      · obtain ⟨error, unwritable⟩ := blocked.unwritable
        obtain ⟨creation, same⟩ := system.attempt_of_unwritable unwritable work
        obtain ⟨refusal, discarded⟩ := system.exists_discard_of_blocked blocked
        rw [same]
        exact ⟨_, refusal, rfl, discarded⟩
      · exact ⟨trouble, _, tried, system.discard_eq_error_iff.mpr ⟨refused, by simp⟩⟩
    rcases system.cases_of_writeFile work path tree with
      ⟨_, succeeded, _⟩ | ⟨_, _, _, removed, _⟩ | ⟨_, refusal, _, _, same⟩
    · rw [tried] at succeeded
      cases succeeded
    · rw [discarded] at removed
      cases removed
    · exact ⟨refusal, congrArg Outcome.result same⟩

theorem run_of_work {path : Path} {tree : Tree} {work : Work σ ε α} {error : ε}
    (failed : (system.writeFile work path tree).result = .error (.trouble (.work error))) :
    ∃ state progress, system.view state = { bytes := [] } ∧
      work.run.run ⟨state, []⟩ = (.error error, progress) := by
  rcases system.cases_of_writeFile work path tree with
    ⟨_, _, same⟩ | ⟨trouble, _, tried, _, same⟩ | ⟨_, _, _, _, same⟩
  · rw [same] at failed
    cases failed
  · rw [same] at failed
    cases failed
    rcases system.cases_of_attempt work path tree with
      ⟨refusal, left, _, uncreated⟩ | ⟨state, opened, created, completed⟩
    · rw [uncreated] at tried
      cases tried
    · rw [completed] at tried
      exact ⟨state, _, (system.created created).1, system.run_of_complete tried⟩
  · rw [same] at failed
    cases failed

end FileSystem

/-! ## Reports -/

/-- What a failure is reported as.  A removal that fails is not reported, but
passed on as it is. -/
def FileSystem.Failure.kind? : FileSystem.Failure WriteError → Option ErrorKind
  | .trouble (.work error) => some error.kind
  | .trouble _ => some .ioFailure
  | .remove _ => none

def FileWriteError.kind? (error : FileWriteError) : Option ErrorKind := error.failure.kind?

/-- There is an index for the records. -/
structure Contents.Indexable (contents : Contents) : Prop where
  distinct : contents.addresses.Nodup
  within : contents.WithinOffsets
  packable : contents.index.Packable

/-- The records are indexed.  Otherwise there is no index for them, the file failed,
or what failed is not reported at all. -/
def Answers {ε : Type} (kind? : ε → Option ErrorKind) (contents : Contents) :
    Except ε Index → Prop
  | .ok index => index = contents.index
  | .error failure =>
      kind? failure = some .ioFailure ∨ kind? failure = none ∨ ¬ contents.Indexable

/-- What failed is not reported. -/
def Escapes {ε α : Type} (kind? : ε → Option ErrorKind) (result : Except ε α) : Prop :=
  ∃ failure, result = .error failure ∧ kind? failure = none

section Records

variable {metadata : Meta} {callGraph : CallGraph} {source : Source} {contents : Contents}
  (encoded : Encoded metadata callGraph source.items contents)

include encoded

theorem index_of_write {listener : Listener} {index : Index} {progress : Progress Store}
    (written : write listener metadata callGraph source { bytes := [] } = (.ok index, progress)) :
    index = contents.index := by
  obtain ⟨_, same, _, _, _, _, _, rfl, _⟩ := (write_eq_ok_iff rfl).mp written
  rw [encoded.unique same]

theorem write_eq_ok_contents_iff (announced : source.Announced) {listener : Listener} :
    (write listener metadata callGraph source { bytes := [] }).1 = .ok contents.index ↔
      contents.Indexable ∧ ∀ address ∈ contents.addresses, listener address = none := by
  have faultless : Store.faults { bytes := [] } = {} := rfl
  constructor
  · intro succeeded
    have written : write listener metadata callGraph source { bytes := [] } =
        (.ok contents.index, _) := Prod.ext succeeded rfl
    obtain ⟨other, same, _, distinct, within, packable, heard, _⟩ :=
      (write_eq_ok_iff faultless).mp written
    obtain rfl := encoded.unique same
    exact ⟨⟨distinct, within, packable⟩, heard⟩
  · rintro ⟨⟨distinct, within, packable⟩, heard⟩
    rw [(write_eq_ok_iff faultless).mpr
      ⟨contents, encoded, announced, distinct, within, packable, heard, rfl, rfl⟩]

theorem not_indexable_of_write (announced : source.Announced) {error : WriteError}
    {progress : Progress Store}
    (failed : write Plan.silent metadata callGraph source { bytes := [] } =
      (.error error, progress)) :
    ¬ contents.Indexable := by
  intro indexable
  have written : (write Plan.silent metadata callGraph source { bytes := [] }).1 =
      .ok contents.index :=
    (write_eq_ok_contents_iff encoded announced).mpr ⟨indexable, fun _ _ => rfl⟩
  rw [failed] at written
  cases written

theorem answers_writeFile {σ : Type} (system : FileSystem σ) (announced : source.Announced)
    (listener : Listener) (path : Path) (tree : Tree) :
    Answers FileSystem.Failure.kind? contents
      (system.writeFile (system.stream.writeContainer listener metadata callGraph source) path
        tree).result := by
  cases outcome : (system.writeFile
      (system.stream.writeContainer listener metadata callGraph source) path tree).result with
  | ok index =>
      obtain ⟨progress, written, _⟩ := system.holds_container outcome
      exact index_of_write encoded written
  | error failure =>
      cases failure with
      | remove refusal => exact .inr (.inl rfl)
      | trouble trouble =>
          cases trouble with
          | create refusal => exact .inl rfl
          | close error => exact .inl rfl
          | work error =>
              obtain ⟨state, progress, empty, run⟩ := system.run_of_work outcome
              have quieter : FileSystem.Quieter Plan.silent listener := fun _ => .inl rfl
              rcases system.cases_of_writeContainer quieter metadata callGraph source empty run with
                ⟨fault, stopped⟩ | failed
              · cases stopped
                exact .inl rfl
              · exact .inr (.inr (not_indexable_of_write encoded announced failed))

end Records

theorem escapes_iff {α : Type} {result : Except (FileSystem.Failure WriteError) α} :
    Escapes FileSystem.Failure.kind? result ↔ ∃ refusal, result = .error (.remove refusal) := by
  constructor
  · rintro ⟨failure, same, unreported⟩
    cases failure with
    | remove refusal => exact ⟨refusal, same⟩
    | trouble trouble =>
        cases trouble with
        | create refusal => cases unreported
        | work error => cases unreported
        | close error => cases unreported
  · rintro ⟨refusal, same⟩
    exact ⟨_, same, rfl⟩

theorem answers_mapError_iff {contents : Contents} {result : Except FileWriteError Index} :
    Answers FileSystem.Failure.kind? contents (result.mapError FileWriteError.failure) ↔
      Answers FileWriteError.kind? contents result := by
  cases result with
  | ok index => rfl
  | error error => rfl

theorem escapes_mapError_iff {α : Type} {result : Except FileWriteError α} :
    Escapes FileSystem.Failure.kind? (result.mapError FileWriteError.failure) ↔
      Escapes FileWriteError.kind? result := by
  constructor
  · rintro ⟨failure, same, unreported⟩
    obtain ⟨error, given, rfl⟩ := mapError_eq_error_iff.mp same
    exact ⟨error, given, unreported⟩
  · rintro ⟨error, rfl, unreported⟩
    exact ⟨error.failure, rfl, unreported⟩

/-- Encoded records in the announced number are written, if there is an index for
them, or the failure of the file is reported.  It escapes exactly where a path is
blocked by a directory, by a file on the way or by its own spelling, or where a
system, after some trouble, refuses to remove the file for other reasons.  In
memory they are written wherever a file can be made. -/
theorem file_failures_escape_exactly {metadata : Meta} {callGraph : CallGraph} {source : Source}
    {contents : Contents} (encoded : Encoded metadata callGraph source.items contents)
    (announced : source.Announced) :
    (∀ (σ : Type) (system : FileSystem σ) (listener : Listener) (path : Path) (tree : Tree),
      let work := system.stream.writeContainer listener metadata callGraph source
      let outcome := system.writeFile work path tree
      Answers FileSystem.Failure.kind? contents outcome.result ∧
        (Escapes FileSystem.Failure.kind? outcome.result ↔
          Blocked path tree ∨
            ∃ trouble reason, (system.attempt work path tree).result = .error trouble ∧
              system.remove path (system.attempt work path tree).tree = .error (.other reason))) ∧
    ∀ (listener : Listener) (path : Path) (tree : Tree),
      let outcome := writeFile listener metadata callGraph source path tree
      Answers FileWriteError.kind? contents outcome.result ∧
        (Escapes FileWriteError.kind? outcome.result ↔ Blocked path tree) ∧
          (outcome.result = .ok contents.index ↔
            (∃ opened, tree.write path [] = .ok opened) ∧ contents.Indexable ∧
              ∀ address ∈ contents.addresses, listener address = none) := by
  constructor
  · intro σ system listener path tree work outcome
    refine ⟨answers_writeFile encoded system announced listener path tree, ?_⟩
    exact escapes_iff.trans (system.exists_kept_iff work)
  · intro listener path tree outcome
    have result : outcome.result.mapError FileWriteError.failure = _ :=
      congrArg FileSystem.Outcome.result
        (viewed_writeFile listener metadata callGraph source path tree)
    have written : outcome.result = .ok contents.index ↔ _ := writeFile_eq_ok_iff
    rw [write_eq_ok_contents_iff encoded announced] at written
    rw [← answers_mapError_iff, ← escapes_mapError_iff, result]
    refine ⟨answers_writeFile encoded (Store.files none) announced listener path tree, ?_, written⟩
    rw [escapes_iff, FileSystem.exists_kept_iff, or_iff_left]
    rintro ⟨_, reason, _, refused⟩
    exact Store.permits_files none path _ reason refused

/-- A tree with one directory. -/
def directoryTree : Tree where
  nodes := [(["results"], .directory)]

theorem encoded_nothing : Encoded {} {} [] ⟨[], [], []⟩ := ⟨rfl, rfl, rfl⟩

theorem announced_nothing : Source.Announced { items := [] } := .inr ⟨rfl, rfl⟩

/-- A directory in the way is not reported, and one that is missing is. -/
theorem directoryTree_escapes :
    Escapes FileWriteError.kind?
        (writeFile (fun _ => none) {} {} { items := [] } { names := ["results"] }
          directoryTree).result ∧
      ¬ Escapes FileWriteError.kind?
        (writeFile (fun _ => none) {} {} { items := [] } { names := ["missing", "results"] }
          directoryTree).result := by
  obtain ⟨_, running⟩ := file_failures_escape_exactly encoded_nothing announced_nothing
  constructor
  · exact (running _ _ _).2.1.mpr (.inl (by decide))
  · rw [(running _ _ _).2.1]
    rintro (directory | ⟨error, unresolved, other⟩)
    · cases directory
    · cases unresolved
      exact other rfl

/-- Nothing is wrong with the records, but neither is there an index nor a reported
failure of the file. -/
theorem directoryTree_unreported :
    Encoded {} {} [] ⟨[], [], []⟩ ∧ Source.Announced { items := [] } ∧
      Contents.Indexable ⟨[], [], []⟩ ∧
        ∃ error, (writeFile (fun _ => none) {} {} { items := [] } { names := ["results"] }
            directoryTree).result = .error error ∧
          error.kind? ≠ some .ioFailure := by
  refine ⟨encoded_nothing, announced_nothing, ⟨by simp [Contents.addresses], by decide, ?_⟩, ?_⟩
  · exact Contents.packable_index (by simp [Contents.addresses]) (by decide)
  · exact ⟨.discard .isDirectory, rfl, by decide⟩

end CodeGraph.Container
