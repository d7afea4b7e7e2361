import CodeGraph.Proofs.Sequencing
import CodeGraph.Proofs.WireRoundTrip
import Mathlib

/-!
# What can be read from the wire

Whatever bytes a message is read from, its fields are storable: every number
fits its word and no byte string reaches the limit.  So fields of any origin
can be written again.
-/

namespace CodeGraph.Wire

/-! ## Numbers -/

/-- A number that fits a word of 64 bits. -/
abbrev IsWord (value : Nat) : Prop := value < 0x10000000000000000

theorem isWord_of_readWord? {bytes rest : Bytes} {value : Nat}
    (read : readWord? bytes = some (value, rest)) : IsWord value := by
  obtain ⟨⟨_, _⟩, _, same⟩ := Option.map_eq_some_iff.mp read
  obtain ⟨rfl, _⟩ := Prod.mk.inj same
  exact Nat.mod_lt _ (by decide)

theorem isWord_of_readWords? {bytes : Bytes} {values : List Nat}
    (read : readWords? bytes = some values) : ∀ value ∈ values, IsWord value := by
  fun_induction readWords? bytes generalizing values with
  | case1 =>
      cases read
      simp
  | case2 => cases read
  | case3 first tail value rest one induction =>
      obtain ⟨others, readRest, rfl⟩ := Option.map_eq_some_iff.mp read
      exact List.forall_mem_cons.mpr ⟨isWord_of_readWord? one, induction readRest⟩

/-! ## Fields -/

theorem length_of_takeBytes? {size : Nat} {bytes taken rest : Bytes}
    (read : takeBytes? size bytes = some (taken, rest)) : taken.length = size := by
  unfold takeBytes? at read
  split at read
  · next inside =>
      obtain ⟨rfl, _⟩ := Prod.mk.inj (Option.some.inj read)
      exact List.length_take_of_le inside
  · cases read

theorem length_lt_of_readDelimited? {bytes content rest : Bytes}
    (read : readDelimited? bytes = some (content, rest)) : content.length < 0x80000000 := by
  unfold readDelimited? at read
  split at read
  · cases read
  · split at read
    · next small =>
        rw [length_of_takeBytes? read]
        exact small
    · cases read

theorem number_of_readTag? {bytes rest : Bytes} {number wireType : Nat}
    (read : readTag? bytes = some (number, wireType, rest)) :
    number ≠ 0 ∧ number < 0x20000000 := by
  unfold readTag? at read
  split at read
  · cases read
  · split at read
    · next accepted =>
        obtain ⟨rfl, _⟩ := Prod.mk.inj (Option.some.inj read)
        exact ⟨accepted.2, by omega⟩
    · cases read

theorem storable_of_readToken? {number wireType : Nat} {bytes rest : Bytes} {field : Field}
    (read : readToken? number wireType bytes = some (.field field, rest)) :
    field.number = number ∧ field.payload.Storable := by
  unfold readToken? at read
  split at read
  · obtain ⟨⟨_, _⟩, word, same⟩ := Option.map_eq_some_iff.mp read
    cases same
    exact ⟨rfl, isWord_of_readWord? word⟩
  · obtain ⟨⟨_, _⟩, taken, same⟩ := Option.map_eq_some_iff.mp read
    cases same
    exact ⟨rfl, length_of_takeBytes? taken⟩
  · obtain ⟨⟨_, _⟩, content, same⟩ := Option.map_eq_some_iff.mp read
    cases same
    exact ⟨rfl, length_lt_of_readDelimited? content⟩
  · cases read
  · cases read
  · obtain ⟨⟨_, _⟩, taken, same⟩ := Option.map_eq_some_iff.mp read
    cases same
    exact ⟨rfl, length_of_takeBytes? taken⟩
  · cases read

theorem storable_of_nextToken? {bytes rest : Bytes} {field : Field}
    (read : nextToken? bytes = some (.field field, rest)) : field.Storable := by
  unfold nextToken? at read
  split at read
  · cases read
  · next tag =>
      obtain ⟨nonzero, small⟩ := number_of_readTag? tag
      obtain ⟨rfl, payload⟩ := storable_of_readToken? read
      exact ⟨nonzero, small, payload⟩

/-! ## Messages -/

theorem storable_of_fieldsWithin? {depth : Nat} {groups : List Nat} {bytes : Bytes}
    {fields : List Field} (read : fieldsWithin? depth groups bytes = some fields) :
    ∀ field ∈ fields, field.Storable := by
  fun_induction fieldsWithin? depth groups bytes generalizing fields
  case case1 =>
    cases read
    simp
  case case4 token _ _ induction =>
    obtain ⟨others, readRest, rfl⟩ := Option.map_eq_some_iff.mp read
    exact List.forall_mem_cons.mpr ⟨storable_of_nextToken? token, induction readRest⟩
  case case5 | case6 | case9 =>
    rename_i induction
    exact induction read
  all_goals cases read

/-- The fields of any message that can be read are storable. -/
theorem storable_of_fields? {level : Nat} {bytes : Bytes} {fields : List Field}
    (read : fields? level bytes = some fields) : ∀ field ∈ fields, field.Storable :=
  storable_of_fieldsWithin? read

/-! ## Values -/

theorem isWord_of_varint? {number value : Nat} {field : Field} (storable : field.Storable)
    (holds : field.varint? number = some value) : IsWord value := by
  have payload := storable.payload
  unfold Field.varint? at holds
  split at holds
  · next stored =>
      rw [stored] at payload
      split at holds
      · obtain rfl := Option.some.inj holds
        exact payload
      · cases holds
  · cases holds

theorem isWord_of_word64? {number value : Nat} {fields : List Field}
    (storable : ∀ field ∈ fields, field.Storable) (found : word64? number fields = some value) :
    IsWord value := by
  obtain ⟨field, member, holds⟩ := List.mem_filterMap.mp (List.mem_of_getLast? found)
  exact isWord_of_varint? (storable field member) holds

theorem isWord_of_fieldWords? {number : Nat} {field : Field} {values : List Nat}
    (storable : field.Storable) (read : field.words? number = some values) :
    ∀ value ∈ values, IsWord value := by
  have payload := storable.payload
  unfold Field.words? at read
  split at read
  · split at read
    · next stored =>
        rw [stored] at payload
        obtain rfl := Option.some.inj read
        exact List.forall_mem_singleton.mpr payload
    · exact isWord_of_readWords? read
    · cases read
      simp
  · cases read
    simp

/-- All numbers of a repeated field are words, single and packed ones. -/
theorem isWord_of_words? {number : Nat} {fields : List Field} {values : List Nat}
    (storable : ∀ field ∈ fields, field.Storable) (read : words? number fields = some values) :
    ∀ value ∈ values, IsWord value := by
  obtain ⟨parts, parsed, rfl⟩ := Option.map_eq_some_iff.mp read
  clear read
  induction fields generalizing parts with
  | nil =>
      cases parsed
      simp
  | cons field fields induction =>
      obtain ⟨first, others⟩ := List.forall_mem_cons.mp storable
      obtain ⟨part, rest, partRead, restParsed, rfl⟩ :=
        Sequencing.mapM_cons_eq_some_iff.mp parsed
      have later := induction others rest restParsed
      simp only [List.flatten_cons, List.forall_mem_append]
      exact ⟨isWord_of_fieldWords? first partRead, later⟩

end CodeGraph.Wire
