import CodeGraph.Codec.CallGraph
import CodeGraph.Codec.FlowGraph
import CodeGraph.Codec.Metadata
import CodeGraph.Proofs.Sequencing
import CodeGraph.Proofs.Utf8RoundTrip
import CodeGraph.Proofs.WireRoundTrip
import Mathlib

/-!
# Stored values of a record

A value is stored if it fits its field; the field made then is a function of
the value alone.  Looking a value up among stored fields skips the fields of
other numbers, so a record is read by adding up what each of its parts holds.
-/

namespace CodeGraph.Codec

open Sequencing
open Wire (Field)

/-! ## Fields made of values -/

/-- A number fits a field of the given width. -/
def Fits (width : Nat) (value : Int) : Prop :=
  0 ≤ value ∧ value < 2 ^ width

/-- The field of a number that fits. -/
def numberField (number : Nat) (value : Int) : Field :=
  ⟨number, .varint value.toNat⟩

/-- The field of a number that may be absent. -/
def optionalNumberField (number : Nat) (value : Option Int) : List Field :=
  value.toList.map (numberField number)

theorem Fits.widen {width wider : Nat} {value : Int} (fits : Fits width value)
    (le : width ≤ wider) : Fits wider value := by
  refine ⟨fits.1, lt_of_lt_of_le fits.2 ?_⟩
  exact pow_le_pow_right₀ (by decide) le

theorem wordField_eq_ok_iff {width number : Nat} {value : Int} {field : Field} :
    wordField width number value = .ok field ↔
      Fits width value ∧ field = numberField number value := by
  have bound : ((Nat.pow 2 width : Nat) : Int) = 2 ^ width := by
    rw [Nat.pow_eq]
    push_cast
    rfl
  unfold wordField checkWord Fits numberField
  rw [bound, map_eq_ok_iff]
  by_cases fits : 0 ≤ value ∧ value < 2 ^ width
  · simp [fits]
  · simp [fits]

theorem optionalWord_eq_ok_iff {width number : Nat} {value : Option Int} {fields : List Field} :
    optionalWord width number value = .ok fields ↔
      (∀ present, value = some present → Fits width present) ∧
        fields = optionalNumberField number value := by
  cases value with
  | none => simp [optionalWord, optionalNumberField, eq_comm]
  | some present =>
      simp only [optionalWord, map_eq_ok_iff, wordField_eq_ok_iff, optionalNumberField]
      constructor
      · intro accepted
        obtain ⟨field, ⟨fits, rfl⟩, rfl⟩ := accepted
        refine ⟨?_, rfl⟩
        intro value same
        cases same
        exact fits
      · intro described
        obtain ⟨fits, rfl⟩ := described
        exact ⟨_, ⟨fits present rfl, rfl⟩, rfl⟩

theorem enumeratorField_eq_ok_iff {known : Int → Bool} {number : Nat} {value : Int}
    {field : Field} (inRange : ∀ code, known code = true → 0 ≤ code ∧ code < 0x80000000) :
    enumeratorField known number value = .ok field ↔
      known value = true ∧ field = numberField number value := by
  unfold enumeratorField checkEnumerator numberField
  rw [map_eq_ok_iff]
  by_cases member : known value = true
  · have bounds := inRange value member
    rw [if_neg (by omega)]
    simp [member]
  · split <;> simp [member]

@[simp] theorem number_numberField (number : Nat) (value : Int) :
    (numberField number value).number = number := rfl

@[simp] theorem number_bytesField (number : Nat) (content : Bytes) :
    (bytesField number content).number = number := rfl

@[simp] theorem number_textField (number : Nat) (text : String) :
    (textField number text).number = number := rfl

@[simp] theorem number_messageField (number : Nat) (fields : List Field) :
    (messageField number fields).number = number := rfl

/-! ## Fields that can be read back -/

/-- What a field holds is shorter than the limit for a length. -/
def FieldWithinLimit (field : Field) : Prop :=
  ∀ content, field.payload = .delimited content → content.length < 0x80000000

/-- No length-delimited field of a record that can be stored reaches the limit.
The outermost fields suffice: what lies inside a message is shorter still. -/
def RecordWithinLimit (fields : Except ValueError (List Field)) : Prop :=
  ∀ stored, fields = .ok stored → ∀ field ∈ stored, FieldWithinLimit field

/-- An encoder accepts what its fields accept. -/
theorem encoded_eq_ok_iff {ε δ : Type} {fields : Except ε (List Field)} {wrap : ε → δ}
    {accepted : Prop} {layout : List Field} {payload : Bytes}
    (characterized : ∀ stored, fields = .ok stored ↔ accepted ∧ stored = layout) :
    (fields.map Wire.encodeFields).mapError wrap = .ok payload ↔
      accepted ∧ payload = Wire.encodeFields layout := by
  rw [mapError_eq_ok_iff, map_eq_ok_iff]
  constructor
  · intro written
    obtain ⟨stored, outcome, rfl⟩ := written
    obtain ⟨holds, rfl⟩ := (characterized stored).mp outcome
    exact ⟨holds, rfl⟩
  · intro described
    obtain ⟨holds, rfl⟩ := described
    exact ⟨layout, (characterized layout).mpr ⟨holds, rfl⟩, rfl⟩

/-- A record is within the limit if the fields are that it is stored as. -/
theorem recordWithinLimit_of_layout {fields : Except ValueError (List Field)} {accepted : Prop}
    {layout : List Field} (characterized : ∀ stored, fields = .ok stored ↔ accepted ∧ stored = layout)
    (within : ∀ field ∈ layout, FieldWithinLimit field) : RecordWithinLimit fields := by
  intro stored made
  obtain ⟨_, rfl⟩ := (characterized stored).mp made
  exact within

/-- A field number that a tag can hold. -/
def TagNumber (number : Nat) : Prop :=
  number ≠ 0 ∧ number < 0x20000000

instance (number : Nat) : Decidable (TagNumber number) :=
  inferInstanceAs (Decidable (_ ∧ _))

/-- A field that can be stored whatever the length of what it holds. -/
structure Regular (field : Field) : Prop where
  number : TagNumber field.number
  payload : (∃ value, value < 0x10000000000000000 ∧ field.payload = .varint value) ∨
    ∃ content, field.payload = .delimited content

theorem Regular.storable {field : Field} (regular : Regular field)
    (within : FieldWithinLimit field) : field.Storable := by
  obtain ⟨⟨nonzero, small⟩, payload⟩ := regular
  refine ⟨nonzero, small, ?_⟩
  rcases payload with ⟨value, fits, holds⟩ | ⟨content, holds⟩
  · rw [holds]
    exact fits
  · rw [holds]
    exact within content holds

theorem regular_numberField {width number : Nat} {value : Int} (fits : Fits width value)
    (narrow : width ≤ 64) (tag : TagNumber number) : Regular (numberField number value) := by
  have bounds := (fits.widen narrow).2
  have limit : (2 : Int) ^ 64 = 0x10000000000000000 := by norm_num
  exact ⟨tag, .inl ⟨value.toNat, by omega, rfl⟩⟩

theorem regular_bytesField {number : Nat} (content : Bytes) (tag : TagNumber number) :
    Regular (bytesField number content) :=
  ⟨tag, .inr ⟨content, rfl⟩⟩

theorem regular_truthField {number : Nat} (value : Bool) (tag : TagNumber number) :
    Regular (truthField number value) := by
  refine ⟨tag, .inl ⟨_, ?_, rfl⟩⟩
  cases value <;> decide

theorem regular_optionalText {number : Nat} (value : Option String) (tag : TagNumber number) :
    ∀ field ∈ optionalText number value, Regular field := by
  intro field member
  obtain ⟨text, _, rfl⟩ := List.mem_map.mp member
  exact regular_bytesField _ tag

theorem regular_optionalBytes {number : Nat} (value : Option Bytes) (tag : TagNumber number) :
    ∀ field ∈ optionalBytes number value, Regular field := by
  intro field member
  obtain ⟨content, _, rfl⟩ := List.mem_map.mp member
  exact regular_bytesField _ tag

theorem regular_messages {α : Type} {number : Nat} (items : List α) (fields : α → List Field)
    (tag : TagNumber number) :
    ∀ field ∈ items.map fun item => messageField number (fields item), Regular field := by
  intro field member
  obtain ⟨item, _, rfl⟩ := List.mem_map.mp member
  exact regular_bytesField _ tag

theorem regular_optionalNumber {width number : Nat} {value : Option Int}
    (fits : ∀ present, value = some present → Fits width present) (narrow : width ≤ 64)
    (tag : TagNumber number) : ∀ field ∈ optionalNumberField number value, Regular field := by
  intro field member
  obtain ⟨present, found, rfl⟩ := List.mem_map.mp member
  exact regular_numberField (fits present (Option.mem_toList.mp found)) narrow tag

theorem fields?_of_regular (level : Nat) {fields : List Field}
    (regular : ∀ field ∈ fields, Regular field)
    (within : ∀ field ∈ fields, FieldWithinLimit field) :
    Wire.fields? level (Wire.encodeFields fields) = some fields :=
  Wire.fields?_encodeFields fun field member =>
    (regular field member).storable (within field member)

theorem withinLimit_of_length {fields : List Field}
    (short : (Wire.encodeFields fields).length < 0x80000000) :
    ∀ field ∈ fields, FieldWithinLimit field := by
  intro field member content holds
  have inner := Wire.length_le_encodeFields member holds
  omega

theorem withinLimit_of_message {number : Nat} {fields : List Field}
    (within : FieldWithinLimit (messageField number fields)) :
    ∀ field ∈ fields, FieldWithinLimit field :=
  withinLimit_of_length (within (Wire.encodeFields fields) rfl)

/-! ## Looking values up -/

/-- The numbers in the fields of a number. -/
def numbersOf (number : Nat) (fields : List Field) : List Nat :=
  fields.filterMap (Field.varint? number)

/-- The byte strings in the fields of a number. -/
def contentsOf (number : Nat) (fields : List Field) : List Bytes :=
  fields.filterMap (Field.delimited? number)

theorem word64?_eq (number : Nat) (fields : List Field) :
    Wire.word64? number fields = (numbersOf number fields).getLast? := rfl

theorem bytes?_eq (number : Nat) (fields : List Field) :
    Wire.bytes? number fields = (contentsOf number fields).getLast? := rfl

theorem messages_eq (number : Nat) (fields : List Field) :
    Wire.messages number fields = contentsOf number fields := rfl

section Lookup

variable (number : Nat)

@[simp] theorem numbersOf_nil : numbersOf number [] = [] := rfl

@[simp] theorem contentsOf_nil : contentsOf number [] = [] := rfl

@[simp] theorem numbersOf_append (left right : List Field) :
    numbersOf number (left ++ right) = numbersOf number left ++ numbersOf number right :=
  List.filterMap_append

@[simp] theorem contentsOf_append (left right : List Field) :
    contentsOf number (left ++ right) = contentsOf number left ++ contentsOf number right :=
  List.filterMap_append

@[simp] theorem numbersOf_numberField (field : Nat) (value : Int) (rest : List Field) :
    numbersOf number (numberField field value :: rest) =
      (if field = number then [value.toNat] else []) ++ numbersOf number rest := by
  by_cases same : field = number <;>
    simp [numbersOf, numberField, Field.varint?, same]

@[simp] theorem contentsOf_numberField (field : Nat) (value : Int) (rest : List Field) :
    contentsOf number (numberField field value :: rest) = contentsOf number rest := by
  exact List.filterMap_cons_none rfl

@[simp] theorem numbersOf_bytesField (field : Nat) (content : Bytes) (rest : List Field) :
    numbersOf number (bytesField field content :: rest) = numbersOf number rest := by
  exact List.filterMap_cons_none rfl

@[simp] theorem contentsOf_bytesField (field : Nat) (content : Bytes) (rest : List Field) :
    contentsOf number (bytesField field content :: rest) =
      (if field = number then [content] else []) ++ contentsOf number rest := by
  by_cases same : field = number <;>
    simp [contentsOf, bytesField, Field.delimited?, same]

@[simp] theorem numbersOf_map_numberField (field : Nat) (values : List Int) :
    numbersOf number (values.map (numberField field)) =
      if field = number then values.map Int.toNat else [] := by
  induction values with
  | nil => simp
  | cons value values induction =>
      rw [List.map_cons, numbersOf_numberField, induction]
      split <;> simp

@[simp] theorem contentsOf_map_numberField (field : Nat) (values : List Int) :
    contentsOf number (values.map (numberField field)) = [] := by
  induction values with
  | nil => rfl
  | cons value values induction => rw [List.map_cons, contentsOf_numberField, induction]

@[simp] theorem numbersOf_map_bytesField {α : Type} (field : Nat) (content : α → Bytes)
    (items : List α) :
    numbersOf number (items.map fun item => bytesField field (content item)) = [] := by
  induction items with
  | nil => rfl
  | cons item items induction => rw [List.map_cons, numbersOf_bytesField, induction]

@[simp] theorem contentsOf_map_bytesField {α : Type} (field : Nat) (content : α → Bytes)
    (items : List α) :
    contentsOf number (items.map fun item => bytesField field (content item)) =
      if field = number then items.map content else [] := by
  induction items with
  | nil => simp
  | cons item items induction =>
      rw [List.map_cons, contentsOf_bytesField, induction]
      split <;> simp

@[simp] theorem numbersOf_optionalNumberField (field : Nat) (value : Option Int) :
    numbersOf number (optionalNumberField field value) =
      if field = number then value.toList.map Int.toNat else [] :=
  numbersOf_map_numberField number field value.toList

@[simp] theorem contentsOf_optionalNumberField (field : Nat) (value : Option Int) :
    contentsOf number (optionalNumberField field value) = [] :=
  contentsOf_map_numberField number field value.toList

@[simp] theorem numbersOf_optionalText (field : Nat) (value : Option String) :
    numbersOf number (optionalText field value) = [] :=
  numbersOf_map_bytesField number field Utf8.encode value.toList

@[simp] theorem contentsOf_optionalText (field : Nat) (value : Option String) :
    contentsOf number (optionalText field value) =
      if field = number then value.toList.map Utf8.encode else [] :=
  contentsOf_map_bytesField number field Utf8.encode value.toList

@[simp] theorem numbersOf_optionalBytes (field : Nat) (value : Option Bytes) :
    numbersOf number (optionalBytes field value) = [] :=
  numbersOf_map_bytesField number field id value.toList

@[simp] theorem contentsOf_optionalBytes (field : Nat) (value : Option Bytes) :
    contentsOf number (optionalBytes field value) =
      if field = number then value.toList else [] := by
  have found := contentsOf_map_bytesField number field id value.toList
  rw [List.map_id] at found
  exact found

@[simp] theorem numbersOf_textField (field : Nat) (text : String) (rest : List Field) :
    numbersOf number (textField field text :: rest) = numbersOf number rest :=
  numbersOf_bytesField number field _ rest

@[simp] theorem contentsOf_textField (field : Nat) (text : String) (rest : List Field) :
    contentsOf number (textField field text :: rest) =
      (if field = number then [Utf8.encode text] else []) ++ contentsOf number rest :=
  contentsOf_bytesField number field _ rest

@[simp] theorem numbersOf_messages {α : Type} (field : Nat) (fields : α → List Field)
    (items : List α) :
    numbersOf number (items.map fun item => messageField field (fields item)) = [] :=
  numbersOf_map_bytesField number field _ items

@[simp] theorem contentsOf_messages {α : Type} (field : Nat) (fields : α → List Field)
    (items : List α) :
    contentsOf number (items.map fun item => messageField field (fields item)) =
      if field = number then items.map fun item => Wire.encodeFields (fields item) else [] :=
  contentsOf_map_bytesField number field _ items

@[simp] theorem numbersOf_truthField (field : Nat) (value : Bool) (rest : List Field) :
    numbersOf number (truthField field value :: rest) =
      (if field = number then [if value then 1 else 0] else []) ++ numbersOf number rest := by
  cases value with
  | false => exact numbersOf_numberField number field 0 rest
  | true => exact numbersOf_numberField number field 1 rest

@[simp] theorem contentsOf_truthField (field : Nat) (value : Bool) (rest : List Field) :
    contentsOf number (truthField field value :: rest) = contentsOf number rest := by
  exact List.filterMap_cons_none rfl

end Lookup

theorem getLast?_toList {α : Type} (value : Option α) : value.toList.getLast? = value := by
  cases value <;> rfl

/-! ## Repeated numbers -/

theorem words?_append {number : Nat} {left right : List Field} {leftWords rightWords : List Nat}
    (leftRead : Wire.words? number left = some leftWords)
    (rightRead : Wire.words? number right = some rightWords) :
    Wire.words? number (left ++ right) = some (leftWords ++ rightWords) := by
  obtain ⟨leftParts, leftParsed, rfl⟩ := Option.map_eq_some_iff.mp leftRead
  obtain ⟨rightParts, rightParsed, rfl⟩ := Option.map_eq_some_iff.mp rightRead
  simp [Wire.words?, List.mapM_append, leftParsed, rightParsed]

theorem words?_of_ne {number : Nat} {fields : List Field}
    (others : ∀ field ∈ fields, field.number ≠ number) :
    Wire.words? number fields = some [] := by
  have parsed : fields.mapM (Field.words? number) = some (fields.map fun _ => []) := by
    apply mapM_eq_some_of_forall
    intro field member
    rw [Field.words?, if_neg (others field member)]
  simp [Wire.words?, parsed]

theorem words?_map_numberField (number : Nat) (values : List Int) :
    Wire.words? number (values.map (numberField number)) = some (values.map Int.toNat) := by
  have parsed : (values.map (numberField number)).mapM (Field.words? number) =
      some (values.map fun value => [value.toNat]) := by
    rw [List.mapM_map]
    apply mapM_eq_some_of_forall
    intro value _
    simp [Field.words?, numberField]
  have joined : (values.map fun value => [value.toNat]).flatten = values.map Int.toNat := by
    rw [← List.flatMap_def, List.map_eq_flatMap]
  simp [Wire.words?, parsed, joined]

/-! ## Values of a message -/

theorem toNat_of_fits {width : Nat} {value : Int} (fits : Fits width value) :
    (value.toNat : Int) = value :=
  Int.toNat_of_nonneg fits.1

theorem toNat_mod_of_fits {value : Int} (fits : Fits 32 value) :
    value.toNat % 0x100000000 = value.toNat := by
  have bounds := fits.2
  have limit : (2 : Int) ^ 32 = 0x100000000 := by norm_num
  apply Nat.mod_eq_of_lt
  omega

theorem readText_encode (field text : String) :
    readText field (Utf8.encode text) = .ok text := by
  rw [readText, Utf8.decode_encode]

theorem readOptionalText_encode (field : String) (text : Option String) :
    readOptionalText field (text.map Utf8.encode) = .ok text := by
  cases text with
  | none => rfl
  | some text =>
      rw [Option.map_some, readOptionalText, readText_encode]
      rfl

theorem signed32_of_lt {value : Nat} (small : value < 0x80000000) :
    Wire.signed32 value = value := by
  unfold Wire.signed32
  rw [Int.bmod_def]
  norm_num
  omega

theorem enumerator?_of_numbersOf {known : Int → Bool} {number : Nat} {fields : List Field}
    {value : Int} (stored : numbersOf number fields = [value.toNat]) (nonnegative : 0 ≤ value)
    (small : value < 0x80000000) (member : known value = true) :
    Wire.enumerator? known number fields = some value := by
  have signed : Wire.signed32 value.toNat = value := by
    rw [signed32_of_lt (by omega), Int.toNat_of_nonneg nonnegative]
  have found : fields.filterMap (Field.varint? number) = [value.toNat] := stored
  rw [Wire.enumerator?, found]
  simp [signed, member]

end CodeGraph.Codec
