import CodeGraph.Markup
import Mathlib

/-!
# Flattening and splitting operand text

Flattening is total on runs; `encode` accepts exactly the well-formed run
lists and then agrees with it.  Splitting is its inverse in both directions:
well-formed runs are split off their flattened form, and whatever can be split
is the flattened form of the runs found.
-/

namespace CodeGraph.Markup

/-! ## Well-formed runs -/

/-- Control characters, which lie in front of the blank or are the delete character. -/
def Reserved (character : Char) : Prop :=
  character.toNat < 0x20 ∨ character.toNat = 0x7F

instance (character : Char) : Decidable (Reserved character) :=
  inferInstanceAs (Decidable (_ ∨ _))

/-- The text of a run holds no control character. -/
def Run.Plain (run : Run) : Prop :=
  ∀ character ∈ run.text.toList, ¬Reserved character

/-- The tag of a run is the code of one of the thirteen kinds. -/
def Run.Typed (run : Run) : Prop :=
  ∃ code : Nat, code < 13 ∧ run.tag = some (code : Int)

/-- Only the first run may go without a tag, and then it holds text. -/
def WellFormed : List Run → Prop
  | [] => True
  | first :: rest =>
      (first.Plain ∧ (first.Typed ∨ first.tag = none ∧ first.text ≠ "")) ∧
        ∀ run ∈ rest, run.Plain ∧ run.Typed

/-- The marker of a run followed by its text. -/
def Run.marked (run : Run) : List Char :=
  match run.tag with
  | none => run.text.toList
  | some tag => Char.ofNat tag.toNat :: run.text.toList

/-- The marked text of all runs. -/
def flatten (runs : List Run) : String :=
  String.ofList (runs.flatMap Run.marked)

/-! ## What flattening accepts -/

theorem isControl_iff {character : Char} : isControl character = true ↔ Reserved character := by
  simp [isControl, Reserved]

theorem isControl_eq_false_iff {character : Char} :
    isControl character = false ↔ ¬Reserved character := by
  rw [← isControl_iff, Bool.not_eq_true]

theorem plain_iff {run : Run} : run.Plain ↔ run.text.toList.find? isControl = none := by
  simp only [Run.Plain, List.find?_eq_none, isControl_iff]

theorem not_typed_none (text : String) : ¬Run.Typed ⟨none, text⟩ := by
  intro typed
  obtain ⟨_, _, impossible⟩ := typed
  cases impossible

theorem typed_some_iff {tag : Int} {text : String} :
    Run.Typed ⟨some tag, text⟩ ↔ 0 ≤ tag ∧ tag < kindCount := by
  constructor
  · intro typed
    obtain ⟨code, small, same⟩ := typed
    cases same
    rw [kindCount]
    omega
  · intro known
    rw [kindCount] at known
    exact ⟨tag.toNat, by omega, congrArg some (by omega)⟩

theorem encodeRun_eq_ok_iff {position : Nat} {run : Run} {marked : List Char} :
    encodeRun position run = .ok marked ↔
      (run.Plain ∧ (run.Typed ∨ position = 0 ∧ run.tag = none ∧ run.text ≠ "")) ∧
        marked = run.marked := by
  rw [plain_iff]
  unfold encodeRun
  cases found : run.text.toList.find? isControl with
  | some character => simp
  | none =>
      obtain ⟨tag, text⟩ := run
      cases tag with
      | some tag =>
          by_cases known : 0 ≤ tag ∧ tag < kindCount
          · simp [typed_some_iff, known, Run.marked, eq_comm]
          · simp [typed_some_iff, known]
      | none =>
          by_cases first : position = 0
          · by_cases empty : text = ""
            · simp [not_typed_none, first, empty]
            · simp [not_typed_none, first, empty, Run.marked, @eq_comm _ marked]
          · simp [not_typed_none, first]

theorem encodeFrom_cons_eq_ok_iff {position : Nat} {run : Run} {rest : List Run}
    {marked : List Char} :
    encodeFrom position (run :: rest) = .ok marked ↔
      ∃ head tail, encodeRun position run = .ok head ∧
        encodeFrom (position + 1) rest = .ok tail ∧ marked = head ++ tail := by
  rw [encodeFrom]
  cases encodeRun position run with
  | error error => simp [bind, Except.bind]
  | ok head =>
      cases encodeFrom (position + 1) rest with
      | error error => simp [bind, Except.bind]
      | ok tail => simp [bind, Except.bind, pure, Except.pure, eq_comm]

theorem encodeFrom_succ_eq_ok_iff {position : Nat} {runs : List Run} {marked : List Char} :
    encodeFrom (position + 1) runs = .ok marked ↔
      (∀ run ∈ runs, run.Plain ∧ run.Typed) ∧ marked = runs.flatMap Run.marked := by
  induction runs generalizing position marked with
  | nil => simp [encodeFrom, eq_comm]
  | cons run rest induction =>
      rw [encodeFrom_cons_eq_ok_iff]
      simp only [encodeRun_eq_ok_iff, induction, List.forall_mem_cons, List.flatMap_cons]
      constructor
      · intro accepted
        obtain ⟨head, tail, ⟨⟨plain, typed | ⟨impossible, _⟩⟩, rfl⟩, ⟨others, rfl⟩, rfl⟩ := accepted
        · exact ⟨⟨⟨plain, typed⟩, others⟩, rfl⟩
        · omega
      · intro described
        obtain ⟨⟨⟨plain, typed⟩, others⟩, rfl⟩ := described
        exact ⟨_, _, ⟨⟨plain, .inl typed⟩, rfl⟩, ⟨others, rfl⟩, rfl⟩

/-- Exactly the well-formed run lists are flattened. -/
theorem encode_eq_ok_iff {runs : List Run} {text : String} :
    encode runs = .ok text ↔ WellFormed runs ∧ text = flatten runs := by
  have mapped : encode runs = .ok text ↔
      ∃ marked, encodeFrom 0 runs = .ok marked ∧ text = String.ofList marked := by
    unfold encode
    cases encodeFrom 0 runs with
    | error error => simp [Functor.map, Except.map]
    | ok marked => simp [Functor.map, Except.map, eq_comm]
  rw [mapped]
  cases runs with
  | nil => simp [encodeFrom, WellFormed, flatten, eq_comm]
  | cons first rest =>
      simp only [encodeFrom_cons_eq_ok_iff, encodeRun_eq_ok_iff, encodeFrom_succ_eq_ok_iff,
        WellFormed, flatten, List.flatMap_cons]
      constructor
      · intro accepted
        obtain ⟨marked, ⟨head, tail, ⟨⟨plain, tagged⟩, rfl⟩, ⟨others, rfl⟩, rfl⟩, rfl⟩ := accepted
        refine ⟨⟨⟨plain, ?_⟩, others⟩, rfl⟩
        exact tagged.imp id fun leading => leading.2
      · intro described
        obtain ⟨⟨⟨plain, tagged⟩, others⟩, rfl⟩ := described
        refine ⟨_, ⟨_, _, ⟨⟨plain, ?_⟩, rfl⟩, ⟨others, rfl⟩, rfl⟩, rfl⟩
        exact tagged.imp id fun leading => ⟨trivial, leading⟩

/-! ## Splitting -/

theorem split_append {position : Nat} {plain marked : List Char}
    (noControl : ∀ character ∈ plain, ¬Reserved character) :
    split position (plain ++ marked) =
      (split (position + plain.length) marked).map fun (text, runs) => (plain ++ text, runs) := by
  induction plain generalizing position with
  | nil =>
      simp only [List.nil_append, List.length_nil, Nat.add_zero]
      cases split position marked <;> rfl
  | cons character plain induction =>
      obtain ⟨first, others⟩ := List.forall_mem_cons.mp noControl
      have shifted : position + 1 + plain.length = position + (plain.length + 1) := by omega
      rw [List.cons_append, split, isControl_eq_false_iff.mpr first, induction others,
        List.length_cons, shifted]
      cases split (position + (plain.length + 1)) marked <;> rfl

theorem isControl_marker {code : Nat} (small : code < kindCount) :
    isControl (Char.ofNat code) = true ∧ (Char.ofNat code).toNat = code := by
  unfold kindCount at small
  interval_cases code <;> decide

theorem split_marker {position code : Nat} {marked : List Char} (small : code < kindCount) :
    split position (Char.ofNat code :: marked) =
      (split (position + 1) marked).map fun (text, runs) =>
        ([], ⟨some (code : Int), String.ofList text⟩ :: runs) := by
  obtain ⟨control, same⟩ := isControl_marker small
  rw [split, control, same]
  simp only [if_true, if_pos small]
  cases split (position + 1) marked <;> rfl

/-- Typed runs are split off their marked text. -/
theorem split_flatMap_marked {position : Nat} {runs : List Run}
    (typed : ∀ run ∈ runs, run.Plain ∧ run.Typed) :
    split position (runs.flatMap Run.marked) = .ok ([], runs) := by
  induction runs generalizing position with
  | nil => rfl
  | cons run rest induction =>
      obtain ⟨⟨plain, code, small, tag⟩, others⟩ := List.forall_mem_cons.mp typed
      obtain ⟨_, text⟩ := run
      subst tag
      simp only [List.flatMap_cons, Run.marked, Int.toNat_natCast, List.cons_append]
      rw [split_marker small, split_append plain, induction others]
      simp [Except.map]

/-- Splitting gives well-formed runs back. -/
theorem decode_flatten {runs : List Run} (formed : WellFormed runs) :
    decode (flatten runs) = .ok runs := by
  unfold decode flatten
  rw [String.toList_ofList]
  cases runs with
  | nil => rfl
  | cons first rest =>
      obtain ⟨⟨plain, tagged⟩, others⟩ := formed
      rcases tagged with typed | ⟨untyped, content⟩
      · have all : ∀ run ∈ first :: rest, run.Plain ∧ run.Typed :=
          List.forall_mem_cons.mpr ⟨⟨plain, typed⟩, others⟩
        rw [split_flatMap_marked all]
        rfl
      · obtain ⟨_, text⟩ := first
        subst untyped
        have leading : text.toList ≠ [] := by
          intro empty
          exact content (String.toList_inj.mp empty)
        simp only [List.flatMap_cons, Run.marked]
        rw [split_append plain, split_flatMap_marked others]
        simp [Except.map, bind, Except.bind, pure, Except.pure, leading]

/-- Text that can be split is the leading text followed by the marked runs. -/
theorem split_eq_ok {position : Nat} {marked text : List Char} {runs : List Run}
    (found : split position marked = .ok (text, runs)) :
    (∀ character ∈ text, ¬Reserved character) ∧
      (∀ run ∈ runs, run.Plain ∧ run.Typed) ∧
        marked = text ++ runs.flatMap Run.marked := by
  induction marked generalizing position text runs with
  | nil =>
      cases found
      simp
  | cons character rest induction =>
      rw [split] at found
      cases remaining : split (position + 1) rest with
      | error error =>
          simp only [remaining, bind, Except.bind] at found
          split at found
          · split at found <;> cases found
          · cases found
      | ok pair =>
          obtain ⟨laterText, laterRuns⟩ := pair
          obtain ⟨plain, typed, same⟩ := induction remaining
          simp only [remaining, bind, Except.bind, pure, Except.pure] at found
          by_cases control : isControl character
          · rw [if_pos control] at found
            by_cases small : character.toNat < kindCount
            · rw [if_pos small] at found
              cases found
              have marker : Run.Plain ⟨some (character.toNat : Int), String.ofList laterText⟩ ∧
                  Run.Typed ⟨some (character.toNat : Int), String.ofList laterText⟩ := by
                refine ⟨?_, character.toNat, small, rfl⟩
                simpa [Run.Plain] using plain
              refine ⟨by simp, List.forall_mem_cons.mpr ⟨marker, typed⟩, ?_⟩
              simp [Run.marked, same, Char.ofNat_toNat]
            · rw [if_neg small] at found
              cases found
          · rw [if_neg control] at found
            cases found
            have ordinary : ¬Reserved character :=
              fun reserved => control (isControl_iff.mpr reserved)
            exact ⟨List.forall_mem_cons.mpr ⟨ordinary, plain⟩, typed, by simp [same]⟩

/-- Whatever can be split is the flattened form of the well-formed runs found. -/
theorem wellFormed_of_decode {text : String} {runs : List Run} (found : decode text = .ok runs) :
    WellFormed runs ∧ flatten runs = text := by
  unfold decode at found
  cases remaining : split 0 text.toList with
  | error error =>
      rw [remaining] at found
      cases found
  | ok pair =>
      obtain ⟨leading, typedRuns⟩ := pair
      obtain ⟨plain, typed, same⟩ := split_eq_ok remaining
      simp only [remaining, bind, Except.bind, pure, Except.pure, Except.ok.injEq] at found
      by_cases empty : leading = []
      · subst empty
        simp only [List.isEmpty_nil, if_true] at found
        subst found
        constructor
        · cases typedRuns with
          | nil => trivial
          | cons first rest =>
              obtain ⟨⟨firstPlain, firstTyped⟩, others⟩ := List.forall_mem_cons.mp typed
              exact ⟨⟨firstPlain, .inl firstTyped⟩, others⟩
        · rw [flatten, ← String.ofList_toList (s := text), same]
          rfl
      · have content : leading.isEmpty = false := by simpa using empty
        rw [content] at found
        simp only [Bool.false_eq_true, if_false] at found
        subst found
        constructor
        · refine ⟨⟨?_, .inr ⟨rfl, ?_⟩⟩, typed⟩
          · simpa [Run.Plain] using plain
          · intro none
            exact empty (by simpa using congrArg String.toList none)
        · rw [flatten, ← String.ofList_toList (s := text), same]
          simp [Run.marked]

/-- Text that can be split is flattened again from its runs. -/
theorem encode_of_decode {text : String} {runs : List Run} (found : decode text = .ok runs) :
    encode runs = .ok text := by
  obtain ⟨formed, same⟩ := wellFormed_of_decode found
  exact encode_eq_ok_iff.mpr ⟨formed, same.symm⟩

end CodeGraph.Markup
