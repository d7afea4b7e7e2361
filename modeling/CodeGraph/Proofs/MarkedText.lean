import CodeGraph.Proofs.MarkupRoundTrip
import CodeGraph.Proofs.Sequencing
import Mathlib

/-!
# Marked text

Marked text is text whose control characters all announce kinds.  Exactly such
text can be split, and then flattening the runs gives it back; other text is
refused at the first control character that announces nothing.
-/

namespace CodeGraph.Markup

open Sequencing

/-- The character is text, or it announces a kind. -/
def Expected (character : Char) : Prop :=
  Reserved character → character.toNat < 13

def Marked (text : List Char) : Prop :=
  ∀ character ∈ text, Expected character

/-- The first character that is neither text nor announces a kind. -/
structure FirstUnexpected (text : List Char) (character : Char) (position : Nat) : Prop where
  holds : text[position]? = some character
  control : Reserved character
  unknown : 13 ≤ character.toNat
  earlier : Marked (text.take position)

theorem marked_cons_iff {head : Char} {rest : List Char} :
    Marked (head :: rest) ↔ Expected head ∧ Marked rest :=
  List.forall_mem_cons

theorem expected_iff {character : Char} :
    Expected character ↔ ¬ (Reserved character ∧ 13 ≤ character.toNat) := by
  unfold Expected
  rw [not_and, not_le]

theorem firstUnexpected_cons_iff {head character : Char} {rest : List Char} {position : Nat} :
    FirstUnexpected (head :: rest) character position ↔
      (position = 0 ∧ character = head ∧ ¬ Expected head) ∨
        Expected head ∧ ∃ later, position = later + 1 ∧ FirstUnexpected rest character later := by
  constructor
  · intro first
    obtain ⟨holds, control, unknown, earlier⟩ := first
    cases position with
    | zero =>
        rw [List.getElem?_cons_zero, Option.some.injEq] at holds
        subst holds
        left
        exact ⟨rfl, rfl, fun expected => expected_iff.mp expected ⟨control, unknown⟩⟩
    | succ later =>
        obtain ⟨expected, others⟩ := marked_cons_iff.mp earlier
        right
        exact ⟨expected, later, rfl, holds, control, unknown, others⟩
  · intro either
    rcases either with ⟨rfl, rfl, unexpected⟩ | ⟨expected, later, rfl, first⟩
    · rw [expected_iff, not_not] at unexpected
      exact ⟨rfl, unexpected.1, unexpected.2, List.forall_mem_nil _⟩
    · obtain ⟨holds, control, unknown, earlier⟩ := first
      exact ⟨holds, control, unknown, marked_cons_iff.mpr ⟨expected, earlier⟩⟩

/-! ## Splitting one character -/

theorem split_of_expected {head : Char} (expected : Expected head) (position : Nat)
    (rest : List Char) :
    ∃ extend, split position (head :: rest) = (split (position + 1) rest).map extend := by
  rw [split]
  by_cases control : isControl head = true
  · have known : head.toNat < kindCount := expected (isControl_iff.mp control)
    rw [if_pos control, if_pos known]
    refine ⟨fun parts =>
      ([], ⟨some (head.toNat : Int), String.ofList parts.1⟩ :: parts.2), ?_⟩
    cases split (position + 1) rest <;> rfl
  · rw [if_neg control]
    refine ⟨fun parts => (head :: parts.1, parts.2), ?_⟩
    cases split (position + 1) rest <;> rfl

theorem split_of_unexpected {head : Char} (unexpected : ¬ Expected head) (position : Nat)
    (rest : List Char) :
    split position (head :: rest) = .error (.unknownMarker head position) := by
  rw [expected_iff, not_not] at unexpected
  have unknown : ¬ head.toNat < kindCount := not_lt.mpr unexpected.2
  rw [split, if_pos (isControl_iff.mpr unexpected.1), if_neg unknown]

/-! ## Splitting text -/

theorem exists_split_iff (position : Nat) {text : List Char} :
    (∃ parts, split position text = .ok parts) ↔ Marked text := by
  induction text generalizing position with
  | nil =>
      rw [split]
      exact ⟨fun _ => List.forall_mem_nil _, fun _ => ⟨_, rfl⟩⟩
  | cons head rest induction =>
      rw [marked_cons_iff]
      by_cases expected : Expected head
      · obtain ⟨extend, same⟩ := split_of_expected expected position rest
        rw [same, exists_map_eq_ok_iff, and_iff_right expected]
        exact induction (position + 1)
      · rw [split_of_unexpected expected]
        constructor
        · intro found
          obtain ⟨_, impossible⟩ := found
          cases impossible
        · intro marked
          exact (expected marked.1).elim

/-- Splitting stops at the first unexpected character. -/
theorem split_eq_error_iff {position : Nat} {text : List Char} {error : DecodeError} :
    split position text = .error error ↔
      ∃ character offset, error = .unknownMarker character (position + offset) ∧
        FirstUnexpected text character offset := by
  induction text generalizing position with
  | nil =>
      rw [split]
      constructor
      · intro impossible
        cases impossible
      · intro found
        obtain ⟨_, _, _, first⟩ := found
        cases first.holds
  | cons head rest induction =>
      simp only [firstUnexpected_cons_iff]
      by_cases expected : Expected head
      · obtain ⟨extend, same⟩ := split_of_expected expected position rest
        rw [same, map_eq_error_iff, induction]
        constructor
        · intro found
          obtain ⟨character, offset, rfl, first⟩ := found
          refine ⟨character, offset + 1, ?_, .inr ⟨expected, offset, rfl, first⟩⟩
          rw [Nat.add_assoc, Nat.add_comm 1]
        · intro found
          obtain ⟨character, _, rfl, ⟨_, _, unexpected⟩ | ⟨_, offset, rfl, first⟩⟩ := found
          · exact (unexpected expected).elim
          · refine ⟨character, offset, ?_, first⟩
            rw [Nat.add_assoc, Nat.add_comm 1]
      · rw [split_of_unexpected expected]
        constructor
        · intro same
          cases same
          exact ⟨head, 0, rfl, .inl ⟨rfl, rfl, expected⟩⟩
        · intro found
          obtain ⟨_, _, rfl, ⟨rfl, rfl, _⟩ | ⟨impossible, _⟩⟩ := found
          · rfl
          · exact (expected impossible).elim

/-- Decoding gathers what splitting found. -/
theorem exists_decode_eq_map (text : String) :
    ∃ gather, decode text = (split 0 text.toList).map gather := by
  refine ⟨fun parts =>
    if parts.1.isEmpty then parts.2 else ⟨none, String.ofList parts.1⟩ :: parts.2, ?_⟩
  rw [decode]
  cases split 0 text.toList with
  | error error => rfl
  | ok parts => rfl

theorem exists_decode_iff {text : String} :
    (∃ runs, decode text = .ok runs) ↔ Marked text.toList := by
  obtain ⟨gather, same⟩ := exists_decode_eq_map text
  rw [same, exists_map_eq_ok_iff]
  exact exists_split_iff 0

theorem decode_eq_error_iff {text : String} {error : DecodeError} :
    decode text = .error error ↔
      ∃ character position, error = .unknownMarker character position ∧
        FirstUnexpected text.toList character position := by
  obtain ⟨gather, same⟩ := exists_decode_eq_map text
  rw [same, map_eq_error_iff, split_eq_error_iff]
  simp only [Nat.zero_add]

/-! ## Text without markers -/

/-- The text without its control characters. -/
def withoutControls (text : String) : String :=
  String.ofList (text.toList.filter fun character => ¬Reserved character)

theorem filter_of_plain {run : Run} (plain : run.Plain) :
    run.text.toList.filter (fun character => ¬Reserved character) = run.text.toList := by
  rw [List.filter_eq_self]
  intro character member
  exact decide_eq_true (plain character member)

theorem filter_marked {run : Run} (plain : run.Plain) (tagged : run.Typed ∨ run.tag = none) :
    run.marked.filter (fun character => ¬Reserved character) = run.text.toList := by
  rcases tagged with ⟨code, small, same⟩ | untyped
  · have control := isControl_iff.mp (isControl_marker small).1
    rw [Run.marked, same]
    simp only [Int.toNat_natCast]
    rw [List.filter_cons_of_neg (by simp [control]), filter_of_plain plain]
  · rw [Run.marked, untyped]
    exact filter_of_plain plain

theorem WellFormed.of_mem {runs : List Run} (formed : WellFormed runs) {run : Run}
    (member : run ∈ runs) : run.Plain ∧ (run.Typed ∨ run.tag = none) := by
  cases runs with
  | nil => cases member
  | cons first rest =>
      obtain ⟨⟨plain, tagged⟩, others⟩ := formed
      rcases List.mem_cons.mp member with rfl | later
      · exact ⟨plain, tagged.imp id And.left⟩
      · exact ⟨(others run later).1, .inl (others run later).2⟩

theorem plainText_eq_withoutControls {runs : List Run} (formed : WellFormed runs) :
    plainText runs = withoutControls (flatten runs) := by
  have each : runs.flatMap (fun run => run.marked.filter fun character => ¬Reserved character) =
      runs.flatMap fun run => run.text.toList := by
    apply List.flatMap_congr
    intro run member
    obtain ⟨plain, tagged⟩ := formed.of_mem member
    exact filter_marked plain tagged
  apply String.toList_inj.mp
  rw [withoutControls, flatten, String.toList_ofList, String.toList_ofList, List.filter_flatMap,
    each, plainText, String.toList_join, List.flatMap_map]

/-! ## Acceptance -/

/-- Flattening takes exactly the well-formed runs to exactly the marked texts,
and splitting takes them back.  Other text is refused where it first departs
from marked text. -/
theorem flattening_bijective :
    (∀ runs, (∃ text, encode runs = .ok text) ↔ WellFormed runs) ∧
      (∀ runs text, encode runs = .ok text → decode text = .ok runs) ∧
      (∀ text, (∃ runs, decode text = .ok runs) ↔ Marked text.toList) ∧
      (∀ text runs, decode text = .ok runs →
        encode runs = .ok text ∧ plainText runs = withoutControls text) ∧
      ∀ text error, decode text = .error error ↔
        ∃ character position, error = .unknownMarker character position ∧
          FirstUnexpected text.toList character position := by
  refine ⟨?_, ?_, ?_, ?_, ?_⟩
  · intro runs
    simp only [encode_eq_ok_iff]
    constructor
    · intro accepted
      obtain ⟨_, formed, _⟩ := accepted
      exact formed
    · intro formed
      exact ⟨flatten runs, formed, rfl⟩
  · intro runs text encoded
    obtain ⟨formed, rfl⟩ := encode_eq_ok_iff.mp encoded
    exact decode_flatten formed
  · intro text
    exact exists_decode_iff
  · intro text runs decoded
    obtain ⟨formed, rfl⟩ := wellFormed_of_decode decoded
    exact ⟨encode_of_decode decoded, plainText_eq_withoutControls formed⟩
  · intro text error
    exact decode_eq_error_iff

/-- Leading text without a marker, a run without text and a marker of zero. -/
def mixedRuns : List Run :=
  [⟨none, "a"⟩, .ofKind .register "ebp", .ofKind .newOperand "", .ofKind .mnemonic "b"]

theorem mixedRuns_flattened :
    encode mixedRuns = .ok "a\x05ebp\x08\x00b" ∧
      decode "a\x05ebp\x08\x00b" = .ok mixedRuns ∧
      plainText mixedRuns = withoutControls "a\x05ebp\x08\x00b" ∧
      decode "\x05a\x1bb\x7f" = .error (.unknownMarker '\x1b' 2) := by
  obtain ⟨_, returns, _, gives, refuses⟩ := flattening_bijective
  have encoded : encode mixedRuns = .ok "a\x05ebp\x08\x00b" := by rfl
  have decoded := returns _ _ encoded
  have first : FirstUnexpected "\x05a\x1bb\x7f".toList '\x1b' 2 :=
    ⟨by rfl, by decide, by decide, by simp [Marked, Expected, Reserved]⟩
  exact ⟨encoded, decoded, (gives _ _ decoded).2, (refuses _ _).mpr ⟨_, _, rfl, first⟩⟩

end CodeGraph.Markup
