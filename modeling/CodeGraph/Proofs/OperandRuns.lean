import CodeGraph.Proofs.InstructionStream
import CodeGraph.Proofs.MarkupRoundTrip
import Mathlib

/-!
# Operand text is kept in its runs

Every token of operand text becomes a run or is added to the run before it, so
the runs hold the text but for blanks in front of it.  They can be flattened and
split again whenever the text holds no control character.
-/

namespace CodeGraph

theorem stripBlanks_eq_nil_iff {text : List Char} :
    stripBlanks text = [] ↔ ∀ character ∈ text, isBlank character = true := by
  rw [stripBlanks, List.reverse_eq_nil_iff, List.dropWhile_eq_nil_iff]
  constructor
  · intro blank
    rw [← List.dropWhile_eq_nil_iff]
    by_contra remaining
    obtain ⟨first, rest, after⟩ := List.exists_cons_of_ne_nil remaining
    have notBlank : isBlank first = false := by
      have head := List.head?_dropWhile_not isBlank text
      simpa [after] using head
    have blankFirst := blank first (by simp [after])
    rw [notBlank] at blankFirst
    cases blankFirst
  · intro blank character member
    exact blank character
      ((List.dropWhile_sublist _).subset (List.mem_reverse.mp member))

theorem length_stripBlanks_le (text : List Char) : (stripBlanks text).length ≤ text.length := by
  rw [stripBlanks, List.length_reverse]
  have inner := (List.dropWhile_sublist isBlank (l := (text.dropWhile isBlank).reverse)).length_le
  have outer := (List.dropWhile_sublist isBlank (l := text)).length_le
  rw [List.length_reverse] at inner
  exact inner.trans outer

namespace Disassembly

namespace OperandText

/-! ## Tokens -/

theorem flatten_tokens (text : List Char) : (tokens text).flatten = text := by
  fun_induction tokens text with
  | case1 => rfl
  | case2 text nonempty induction =>
      rw [List.flatten_cons, induction, nextToken_append]

theorem ne_nil_of_mem_tokens {text token : List Char} (member : token ∈ tokens text) :
    token ≠ [] := by
  fun_induction tokens text with
  | case1 => cases member
  | case2 text nonempty induction =>
      rcases List.mem_cons.mp member with rfl | later
      · exact nextToken_ne_nil nonempty
      · exact induction later

/-- The text without the blanks in front of it, which stay only where one of the
signs follows that take the blanks around them. -/
def kept (text : List Char) : List Char :=
  match text.dropWhile isBlank with
  | [] => []
  | first :: rest => if first ∈ [',', '+', '-', '*', ':'] then text else first :: rest

theorem isSeparator_iff {character : Char} :
    isSeparator character = true ↔ character ∈ [',', '+', '-', '*', ':'] := by
  simp [isSeparator, isOperator]

theorem kept_sublist (text : List Char) : (kept text).Sublist text := by
  rw [kept]
  split
  · exact List.nil_sublist _
  · next first rest after =>
      split
      · exact List.Sublist.refl _
      · rw [← after]
        exact List.dropWhile_sublist _

/-- Either the first token is more than blanks, and then nothing is in front of
it, or it holds the blanks that are not kept. -/
theorem nextToken_bare_or_blank (text : List Char) :
    (stripBlanks (nextToken text).1 ≠ [] ∧ kept text = text) ∨
      (stripBlanks (nextToken text).1 = [] ∧ kept text = (nextToken text).2 ∧
        ∀ first ∈ (nextToken text).2.head?, isBlank first = false) := by
  have blanks : stripBlanks (text.takeWhile isBlank) = [] := by
    rw [stripBlanks_eq_nil_iff]
    intro character member
    exact List.mem_takeWhile_imp member
  have shown {token : List Char} {character : Char} (member : character ∈ token)
      (notBlank : isBlank character = false) : stripBlanks token ≠ [] := by
    intro empty
    rw [stripBlanks_eq_nil_iff.mp empty character member] at notBlank
    cases notBlank
  have whole : text.takeWhile isBlank ++ text.dropWhile isBlank = text :=
    List.takeWhile_append_dropWhile
  cases after : text.dropWhile isBlank with
  | nil =>
      right
      simpa [nextToken, kept, after] using blanks
  | cons first rest =>
      have notBlank : isBlank first = false := by
        have head := List.head?_dropWhile_not isBlank text
        simpa [after] using head
      by_cases separator : isSeparator first = true
      · left
        rw [nextToken, kept, after]
        simp only [if_pos separator, if_pos (isSeparator_iff.mp separator), and_true]
        exact shown (List.mem_append_right _ List.mem_cons_self) notBlank
      · have unsigned : first ∉ [',', '+', '-', '*', ':'] := fun sign =>
          separator (isSeparator_iff.mpr sign)
        by_cases empty : text.takeWhile isBlank = []
        · left
          have same : first :: rest = text := by
            rw [← whole, empty, after, List.nil_append]
          rw [nextToken, kept, after]
          simp only [if_neg separator, if_neg unsigned, empty, ne_eq, not_true_eq_false, if_false]
          refine ⟨?_, same⟩
          split
          · exact shown List.mem_cons_self notBlank
          · exact shown List.mem_cons_self notBlank
        · right
          rw [nextToken, kept, after]
          simp only [if_neg separator, if_neg unsigned, if_pos empty]
          refine ⟨blanks, trivial, ?_⟩
          intro head found
          cases found
          exact notBlank

/-! ## Pieces -/

/-- The text of pieces, of which the last comes first. -/
def pieceText (pieces : Pieces) : List Char :=
  pieces.reverse.flatMap (·.2)

section Pieces

variable (names : Names)

theorem pieceText_cons (kind : Markup.Kind) (last : List Char) (pieces : Pieces) :
    pieceText ((kind, last) :: pieces) = pieceText pieces ++ last := by
  simp [pieceText]

/-- Behind a piece no token is dropped. -/
theorem pieceText_addToken {pieces : Pieces} (started : pieces ≠ []) (token : List Char) :
    addToken names pieces token ≠ [] ∧
      pieceText (addToken names pieces token) = pieceText pieces ++ token := by
  obtain ⟨⟨kind, last⟩, rest, rfl⟩ := List.exists_cons_of_ne_nil started
  have extended : pieceText (extend token ((kind, last) :: rest)) =
      pieceText ((kind, last) :: rest) ++ token := by
    rw [extend, pieceText_cons, pieceText_cons, List.append_assoc]
  rw [addToken]
  split
  · exact ⟨List.cons_ne_nil _ _, extended⟩
  · dsimp only
    split
    · split
      · exact ⟨List.cons_ne_nil _ _, extended⟩
      · exact ⟨List.cons_ne_nil _ _, pieceText_cons _ _ _⟩
    · exact ⟨List.cons_ne_nil _ _, pieceText_cons _ _ _⟩

theorem pieceText_foldl {pieces : Pieces} (started : pieces ≠ []) (tokens : List (List Char)) :
    pieceText (tokens.foldl (addToken names) pieces) = pieceText pieces ++ tokens.flatten := by
  induction tokens generalizing pieces with
  | nil => simp
  | cons token rest induction =>
      obtain ⟨continued, added⟩ := pieceText_addToken names started token
      rw [List.foldl_cons, induction continued, added, List.flatten_cons, List.append_assoc]

theorem addToken_nil_of_blank {token : List Char} (blank : stripBlanks token = []) :
    addToken names [] token = [] := by
  simp [addToken, blank, extend]

theorem addToken_nil_of_bare {token : List Char} (bare : stripBlanks token ≠ []) :
    addToken names [] token = [(classify names (stripBlanks token), token)] := by
  simp [addToken, bare]

theorem pieceText_of_bare {text : List Char} (bare : stripBlanks (nextToken text).1 ≠ []) :
    pieceText (pieces names text) = text := by
  have nonempty : text ≠ [] := by
    rintro rfl
    exact bare rfl
  rw [pieces, tokens, dif_neg nonempty, List.foldl_cons, addToken_nil_of_bare names bare,
    pieceText_foldl names (List.cons_ne_nil _ _), flatten_tokens, pieceText_cons]
  exact nextToken_append text

theorem bare_of_head {text : List Char} (nonempty : text ≠ [])
    (ordinary : ∀ first ∈ text.head?, isBlank first = false) :
    stripBlanks (nextToken text).1 ≠ [] := by
  intro empty
  obtain ⟨first, token, taken⟩ := List.exists_cons_of_ne_nil (nextToken_ne_nil nonempty)
  have blank := stripBlanks_eq_nil_iff.mp empty first (by simp [taken])
  have head : text.head? = some first := by
    rw [← nextToken_append text, taken]
    rfl
  rw [ordinary first head] at blank
  cases blank

/-- The pieces hold what is kept of the text. -/
theorem pieceText_pieces (text : List Char) : pieceText (pieces names text) = kept text := by
  rcases nextToken_bare_or_blank text with ⟨bare, same⟩ | ⟨blank, same, ordinary⟩
  · rw [same, pieceText_of_bare names bare]
  · rw [same]
    by_cases empty : text = []
    · subst empty
      simp [pieces, tokens, nextToken, pieceText]
    · have dropped : pieces names text = pieces names (nextToken text).2 := by
        rw [pieces, tokens, dif_neg empty, List.foldl_cons, addToken_nil_of_blank names blank,
          pieces]
      rw [dropped]
      by_cases last : (nextToken text).2 = []
      · rw [last]
        simp [pieces, tokens, pieceText]
      · exact pieceText_of_bare names (bare_of_head last ordinary)

/-- No piece is empty, and no size word follows another one in a piece of its
own. -/
structure Tidy (pieces : Pieces) : Prop where
  nonempty : ∀ piece ∈ pieces, piece.2 ≠ []
  sizeMarks : pieces.IsChain fun later earlier =>
    ¬(later.1 = .sizeMark ∧ earlier.1 = .sizeMark)

theorem Tidy.cons {pieces : Pieces} (tidy : Tidy pieces) {kind : Markup.Kind} {token : List Char}
    (nonempty : token ≠ [])
    (different : ∀ last ∈ pieces.head?, ¬(kind = .sizeMark ∧ last.1 = .sizeMark)) :
    Tidy ((kind, token) :: pieces) := by
  constructor
  · exact List.forall_mem_cons.mpr ⟨nonempty, tidy.nonempty⟩
  · exact List.isChain_cons.mpr ⟨different, tidy.sizeMarks⟩

theorem Tidy.extend {pieces : Pieces} (tidy : Tidy pieces) (text : List Char) :
    Tidy (extend text pieces) := by
  cases pieces with
  | nil => exact tidy
  | cons last rest =>
      obtain ⟨kind, written⟩ := last
      obtain ⟨first, others⟩ := List.forall_mem_cons.mp tidy.nonempty
      obtain ⟨different, chained⟩ := List.isChain_cons.mp tidy.sizeMarks
      have earlier : Tidy rest := ⟨others, chained⟩
      exact earlier.cons (by simp [first]) different

theorem Tidy.addToken {pieces : Pieces} (tidy : Tidy pieces) {token : List Char}
    (nonempty : token ≠ []) : Tidy (addToken names pieces token) := by
  rw [OperandText.addToken]
  split
  · exact tidy.extend token
  · dsimp only
    split
    · next written rest =>
        split
        · exact tidy.extend token
        · next other =>
            apply tidy.cons nonempty
            intro last _ both
            exact other both.1
    · next different =>
        apply tidy.cons nonempty
        rintro ⟨kind, written⟩ found both
        obtain ⟨rest, rfl⟩ := List.head?_eq_some_iff.mp found
        obtain ⟨_, rfl⟩ := both
        exact different _ _ rfl

theorem Tidy.foldl {pieces : Pieces} (tidy : Tidy pieces) {tokens : List (List Char)}
    (nonempty : ∀ token ∈ tokens, token ≠ []) :
    Tidy (tokens.foldl (OperandText.addToken names) pieces) := by
  induction tokens generalizing pieces with
  | nil => exact tidy
  | cons token rest induction =>
      obtain ⟨first, others⟩ := List.forall_mem_cons.mp nonempty
      exact induction (tidy.addToken names first) others

theorem tidy_pieces (text : List Char) : Tidy (pieces names text) := by
  have start : Tidy [] := ⟨List.forall_mem_nil _, .nil⟩
  exact start.foldl names fun _ member => ne_nil_of_mem_tokens member

end Pieces

/-! ## Numbers that can be read -/

theorem length_le_of_mem_tokens {text token : List Char} (member : token ∈ tokens text) :
    token.length ≤ text.length := by
  have part := List.sublist_flatten_of_mem member
  rw [flatten_tokens] at part
  exact part.length_le

/-- No number of a short text has too many digits. -/
theorem readable_of_short {text : List Char} (short : text.length ≤ 4300)
    (registers : List String) : ∀ token ∈ tokens text, Readable registers (stripBlanks token) := by
  intro token member _ _
  have bare := length_stripBlanks_le token
  have whole := length_le_of_mem_tokens member
  omega

end OperandText

/-! ## Runs -/

section Runs

variable (names : Names) (text : String)

theorem plainText_operandRuns :
    Markup.plainText (operandRuns names text) = String.ofList (OperandText.kept text.toList) := by
  rw [← OperandText.pieceText_pieces names text.toList, Markup.plainText, operandRuns,
    List.map_map, ← String.toList_inj, String.toList_join, String.toList_ofList,
    OperandText.pieceText, List.flatMap_map]
  exact List.flatMap_congr fun piece _ => String.toList_ofList

/-- Every run has the tag of a kind, and text of the operands. -/
theorem tagged_operandRuns {run : Markup.Run} (member : run ∈ operandRuns names text) :
    (∃ kind : Markup.Kind, run.tag = some kind.code) ∧ run.text ≠ "" ∧
      ∀ character ∈ run.text.toList, character ∈ text.toList := by
  obtain ⟨⟨kind, written⟩, listed, rfl⟩ := List.mem_map.mp member
  have piece := List.mem_reverse.mp listed
  refine ⟨⟨kind, rfl⟩, ?_, ?_⟩
  · have content := (OperandText.tidy_pieces names text.toList).nonempty _ piece
    simpa [Markup.Run.ofKind] using content
  · intro character found
    have inside : character ∈ OperandText.pieceText (OperandText.pieces names text.toList) :=
      List.mem_flatMap.mpr ⟨_, listed, by simpa [Markup.Run.ofKind] using found⟩
    rw [OperandText.pieceText_pieces] at inside
    exact (OperandText.kept_sublist _).subset inside

theorem eq_sizeMark_of_code {kind : Markup.Kind} (same : kind.code = Markup.Kind.sizeMark.code) :
    kind = .sizeMark := by
  cases kind with
  | sizeMark => rfl
  | _ => cases same

theorem sizeMarks_operandRuns :
    (operandRuns names text).IsChain fun left right =>
      ¬(left.tag = some Markup.Kind.sizeMark.code ∧
        right.tag = some Markup.Kind.sizeMark.code) := by
  rw [operandRuns, List.isChain_map, List.isChain_reverse]
  apply (OperandText.tidy_pieces names text.toList).sizeMarks.imp
  intro later earlier different both
  obtain ⟨left, right⟩ := both
  exact different ⟨eq_sizeMark_of_code (Option.some.inj right),
    eq_sizeMark_of_code (Option.some.inj left)⟩

theorem typed_of_kind {run : Markup.Run} {kind : Markup.Kind} (tag : run.tag = some kind.code) :
    run.Typed := by
  obtain ⟨_, text⟩ := run
  subst tag
  apply Markup.typed_some_iff.mpr
  cases kind <;> decide

theorem wellFormed_operandRuns
    (plain : ∀ character ∈ text.toList, ¬Markup.Reserved character) :
    Markup.WellFormed (operandRuns names text) := by
  have typed : ∀ run ∈ operandRuns names text, run.Plain ∧ run.Typed := by
    intro run member
    obtain ⟨⟨kind, tag⟩, _, inside⟩ := tagged_operandRuns names text member
    exact ⟨fun character found => plain character (inside character found), typed_of_kind tag⟩
  cases runs : operandRuns names text with
  | nil => trivial
  | cons first rest =>
      rw [runs] at typed
      obtain ⟨⟨firstPlain, firstTyped⟩, others⟩ := List.forall_mem_cons.mp typed
      exact ⟨⟨firstPlain, .inl firstTyped⟩, others⟩

theorem operandRuns_of_blank (blank : ∀ character ∈ text.toList, isBlank character = true) :
    operandRuns names text = [] := by
  have dropped : OperandText.kept text.toList = [] := by
    rw [OperandText.kept, List.dropWhile_eq_nil_iff.mpr blank]
  have empty := plainText_operandRuns names text
  rw [dropped] at empty
  cases runs : operandRuns names text with
  | nil => rfl
  | cons first rest =>
      obtain ⟨_, content, _⟩ := tagged_operandRuns names text (runs ▸ List.mem_cons_self)
      rw [runs, Markup.plainText, List.map_cons] at empty
      simp [content] at empty

theorem readOperands_of_readable
    (readable : ∀ token ∈ OperandText.tokens text.toList,
      OperandText.Readable names.registers (stripBlanks token)) :
    readOperands names text = .ok (operandRuns names text) := by
  have checked : OperandText.checkNumbers names.registers text = .ok () := by
    rw [OperandText.checkNumbers, Sequencing.forM_eq_ok_iff]
    intro token member
    exact OperandText.checkNumber_eq_ok_iff.mpr (readable token member)
  rw [readOperands, checked]
  rfl

end Runs

/-- The runs hold operand text without the blanks in front that are not kept, and
stand for it when they are flattened. -/
structure HoldText (runs : List Markup.Run) (operands : String) : Prop where
  contents : Markup.plainText runs = String.ofList (OperandText.kept operands.toList)
  blank : (∀ character ∈ operands.toList, isBlank character = true) → runs = []
  tagged : ∀ run ∈ runs, ∃ kind : Markup.Kind, run.tag = some kind.code
  nonempty : ∀ run ∈ runs, run.text ≠ ""
  sizeMarks : runs.IsChain fun left right =>
    ¬(left.tag = some Markup.Kind.sizeMark.code ∧ right.tag = some Markup.Kind.sizeMark.code)
  flattened : (∀ character ∈ operands.toList, ¬Markup.Reserved character) →
    ∃ marked, Markup.encode runs = .ok marked ∧ Markup.decode marked = .ok runs

theorem holdText_operandRuns (names : Names) (text : String) :
    HoldText (operandRuns names text) text := by
  constructor
  case contents => exact plainText_operandRuns names text
  case blank => exact operandRuns_of_blank names text
  case tagged =>
    intro run member
    obtain ⟨kind, _⟩ := tagged_operandRuns names text member
    exact kind
  case nonempty =>
    intro run member
    obtain ⟨_, content, _⟩ := tagged_operandRuns names text member
    exact content
  case sizeMarks => exact sizeMarks_operandRuns names text
  case flattened =>
    intro plain
    have formed := wellFormed_operandRuns names text plain
    exact ⟨_, Markup.encode_eq_ok_iff.mpr ⟨formed, rfl⟩, Markup.decode_flatten formed⟩

/-- Operand text whose numbers can be read is cut into runs that hold it. -/
theorem readOperands_lossless (names : Names) (text : String)
    (readable : ∀ token ∈ OperandText.tokens text.toList,
      OperandText.Readable names.registers (stripBlanks token)) :
    ∃ runs, readOperands names text = .ok runs ∧ HoldText runs text :=
  ⟨operandRuns names text, readOperands_of_readable names text readable,
    holdText_operandRuns names text⟩

/-- Blanks in front of a word are dropped, and those around a sign are not. -/
theorem readOperands_doubleWord :
    (∀ token ∈ OperandText.tokens "  dword ptr [ebp - 0x8], 5".toList,
      OperandText.Readable ["ebp"] (stripBlanks token)) ∧
      ∃ runs, readOperands { registers := ["ebp"] } "  dword ptr [ebp - 0x8], 5" = .ok runs ∧
        Markup.plainText runs = "dword ptr [ebp - 0x8], 5" ∧
          ∃ marked, Markup.encode runs = .ok marked ∧ Markup.decode marked = .ok runs := by
  have short : "  dword ptr [ebp - 0x8], 5".toList.length ≤ 4300 := by simp
  have readable := OperandText.readable_of_short short ["ebp"]
  obtain ⟨runs, read, holds⟩ := readOperands_lossless { registers := ["ebp"] } _ readable
  have plain : ∀ character ∈ "  dword ptr [ebp - 0x8], 5".toList,
      ¬Markup.Reserved character := by simp [Markup.Reserved]
  exact ⟨readable, runs, read, holds.contents, holds.flattened plain⟩

end Disassembly

end CodeGraph
