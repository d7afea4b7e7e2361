import CodeGraph.Proofs.FieldValues
import CodeGraph.Proofs.WireReading
import Mathlib

/-!
# Messages that are cut short

Readers take no notice of what follows the bytes they take.  So a field that is
cut in its middle cannot be read, and a stored message that is cut anywhere is
either refused or read as the fields in front of the cut.
-/

namespace CodeGraph

namespace Wire

/-! ## What follows makes no difference -/

theorem readVarint?_append {limit value : Nat} {bytes rest : Bytes} (more : Bytes)
    (read : readVarint? limit bytes = some (value, rest)) :
    readVarint? limit (bytes ++ more) = some (value, rest ++ more) := by
  induction limit generalizing bytes value with
  | zero => cases read
  | succ limit induction =>
      cases bytes with
      | nil => cases read
      | cons byte tail =>
          rw [List.cons_append]
          unfold readVarint? at read ⊢
          by_cases last : byte.toNat < 0x80
          · rw [if_pos last] at read ⊢
            cases read
            rfl
          · rw [if_neg last] at read ⊢
            cases shorter : readVarint? limit tail with
            | none =>
                rw [shorter] at read
                cases read
            | some found =>
                rw [shorter] at read
                cases read
                rw [induction shorter]

theorem readWord?_append {value : Nat} {bytes rest : Bytes} (more : Bytes)
    (read : readWord? bytes = some (value, rest)) :
    readWord? (bytes ++ more) = some (value, rest ++ more) := by
  obtain ⟨⟨_, _⟩, inner, same⟩ := Option.map_eq_some_iff.mp read
  cases same
  rw [readWord?, readVarint?_append more inner, Option.map_some]

theorem takeBytes?_append_more {size : Nat} {bytes taken rest : Bytes} (more : Bytes)
    (read : takeBytes? size bytes = some (taken, rest)) :
    takeBytes? size (bytes ++ more) = some (taken, rest ++ more) := by
  unfold takeBytes? at read ⊢
  split at read
  · next inside =>
      cases read
      have within : size ≤ (bytes ++ more).length := by
        rw [List.length_append]
        omega
      rw [if_pos within, List.take_append_of_le_length inside, List.drop_append_of_le_length inside]
  · cases read

theorem readTag?_append {number wireType : Nat} {bytes rest : Bytes} (more : Bytes)
    (read : readTag? bytes = some (number, wireType, rest)) :
    readTag? (bytes ++ more) = some (number, wireType, rest ++ more) := by
  unfold readTag? at read ⊢
  split at read
  · cases read
  · next inner =>
      rw [readVarint?_append more inner]
      split at read
      · next accepted =>
          cases read
          simp only [if_pos accepted]
      · cases read

theorem readDelimited?_append {bytes content rest : Bytes} (more : Bytes)
    (read : readDelimited? bytes = some (content, rest)) :
    readDelimited? (bytes ++ more) = some (content, rest ++ more) := by
  unfold readDelimited? at read ⊢
  split at read
  · cases read
  · next inner =>
      rw [readVarint?_append more inner]
      split at read
      · next small =>
          simp only [if_pos small]
          exact takeBytes?_append_more more read
      · cases read

theorem readToken?_append {number wireType : Nat} {bytes rest : Bytes} {token : Token}
    (more : Bytes) (read : readToken? number wireType bytes = some (token, rest)) :
    readToken? number wireType (bytes ++ more) = some (token, rest ++ more) := by
  unfold readToken? at read ⊢
  split at read
  · obtain ⟨⟨_, _⟩, inner, same⟩ := Option.map_eq_some_iff.mp read
    cases same
    rw [readWord?_append more inner, Option.map_some]
  · obtain ⟨⟨_, _⟩, inner, same⟩ := Option.map_eq_some_iff.mp read
    cases same
    rw [takeBytes?_append_more more inner, Option.map_some]
  · obtain ⟨⟨_, _⟩, inner, same⟩ := Option.map_eq_some_iff.mp read
    cases same
    rw [readDelimited?_append more inner, Option.map_some]
  · cases read
    rfl
  · cases read
    rfl
  · obtain ⟨⟨_, _⟩, inner, same⟩ := Option.map_eq_some_iff.mp read
    cases same
    rw [takeBytes?_append_more more inner, Option.map_some]
  · cases read

theorem nextToken?_append {bytes rest : Bytes} {token : Token} (more : Bytes)
    (read : nextToken? bytes = some (token, rest)) :
    nextToken? (bytes ++ more) = some (token, rest ++ more) := by
  unfold nextToken? at read ⊢
  split at read
  · cases read
  · next tag =>
      rw [readTag?_append more tag]
      exact readToken?_append more read

/-! ## Fields of any length -/

theorem encodeVarint_ne_nil (value : Nat) : encodeVarint value ≠ [] := by
  rw [encodeVarint]
  split <;> exact List.cons_ne_nil _ _

theorem Field.encode_ne_nil (field : Field) : field.encode ≠ [] :=
  List.append_ne_nil_of_left_ne_nil (encodeVarint_ne_nil _) _

/-- A number of more groups than the limit is not read. -/
theorem readVarint?_of_large {limit value : Nat} (rest : Bytes) (large : 128 ^ limit ≤ value) :
    readVarint? limit (encodeVarint value ++ rest) = none := by
  induction limit generalizing value with
  | zero => rfl
  | succ limit induction =>
      have long : 0x80 ≤ value := by
        have groups : 128 ^ (limit + 1) = 128 ^ limit * 128 := pow_succ _ _
        have positive : 0 < 128 ^ limit := Nat.pow_pos (by decide)
        omega
      have byte : ¬ (UInt8.ofNat (0x80 + value % 0x80)).toNat < 0x80 := by
        rw [UInt8.toNat_ofNat']
        omega
      have quotient : 128 ^ limit ≤ value / 0x80 := by
        rw [Nat.le_div_iff_mul_le (by decide)]
        exact large
      rw [encodeVarint_of_le long, List.cons_append, readVarint?, if_neg byte, induction quotient]

theorem readDelimited?_of_long {bytes : Bytes} (rest : Bytes)
    (long : 0x80000000 ≤ bytes.length) :
    readDelimited? (encodeVarint bytes.length ++ bytes ++ rest) = none := by
  rw [readDelimited?, List.append_assoc]
  rcases Nat.lt_or_ge bytes.length (128 ^ (4 + 1)) with few | many
  · rw [readVarint?_encodeVarint _ few]
    simp only [if_neg (Nat.not_lt.mpr long)]
  · rw [readVarint?_of_large _ many]

end Wire

namespace Codec

open Wire (Field Token)

/-- A field is read as it was stored, or not at all if it is too long. -/
theorem nextToken?_of_regular {field : Field} (regular : Regular field) (rest : Bytes) :
    Wire.nextToken? (field.encode ++ rest) = some (.field field, rest) ∨
      Wire.nextToken? (field.encode ++ rest) = none := by
  by_cases within : FieldWithinLimit field
  · exact .inl (Wire.nextToken?_encode rest (regular.storable within))
  · obtain ⟨⟨nonzero, small⟩, _⟩ := regular
    simp only [FieldWithinLimit, not_forall, Nat.not_lt] at within
    obtain ⟨content, holds, long⟩ := within
    right
    rw [Wire.nextToken?, Field.encode, List.append_assoc,
      Wire.readTag?_encodeVarint _ nonzero small field.payload.wireType_lt, holds]
    simp only [Wire.readToken?, Wire.Payload.wireType, Wire.Payload.encode,
      Wire.readDelimited?_of_long rest long, Option.map_none]

/-- No token is read from a field that is cut short. -/
theorem nextToken?_take {field : Field} (regular : Regular field) {size : Nat}
    (short : size < field.encode.length) : Wire.nextToken? (field.encode.take size) = none := by
  cases read : Wire.nextToken? (field.encode.take size) with
  | none => rfl
  | some found =>
      obtain ⟨token, rest⟩ := found
      have whole := Wire.nextToken?_append (field.encode.drop size) read
      rw [List.take_append_drop] at whole
      have stored := nextToken?_of_regular regular []
      rw [List.append_nil, whole] at stored
      rcases stored with complete | refused
      · -- the token would leave the bytes that were cut off
        obtain ⟨_, nothing⟩ := Prod.mk.inj (Option.some.inj complete)
        have dropped := List.drop_eq_nil_iff.mp (List.append_eq_nil_iff.mp nothing).2
        omega
      · cases refused

theorem fieldsWithin?_of_refused {depth : Nat} {groups : List Nat} {bytes : Bytes}
    (nonempty : bytes ≠ []) (refused : Wire.nextToken? bytes = none) :
    Wire.fieldsWithin? depth groups bytes = none := by
  cases bytes with
  | nil => exact (nonempty rfl).elim
  | cons first tail =>
      rw [Wire.fieldsWithin?]
      split
      · rfl
      all_goals
        next found =>
          rw [refused] at found
          cases found

/-- A message that is cut anywhere is read as the fields in front of the cut, if
it is read at all. -/
theorem fields?_take {level : Nat} {fields found : List Field}
    (regular : ∀ field ∈ fields, Regular field) {size : Nat}
    (read : Wire.fields? level ((Wire.encodeFields fields).take size) = some found) :
    ∃ count, found = fields.take count ∧
      (Wire.encodeFields fields).take size = Wire.encodeFields (fields.take count) := by
  unfold Wire.fields? at read
  induction fields generalizing size found with
  | nil =>
      rw [Wire.encodeFields_nil, List.take_nil, Wire.fieldsWithin?] at read
      cases read
      exact ⟨0, rfl, by simp⟩
  | cons field fields induction =>
      obtain ⟨head, tail⟩ := List.forall_mem_cons.mp regular
      rw [Wire.encodeFields_cons] at read ⊢
      rcases Nat.eq_zero_or_pos size with rfl | positive
      · rw [List.take_zero, Wire.fieldsWithin?] at read
        cases read
        exact ⟨0, rfl, rfl⟩
      · -- a cut inside the first field is refused, one behind it is a cut of the others
        rcases Nat.lt_or_ge size field.encode.length with short | complete
        · have nonempty : field.encode.take size ≠ [] := by
            intro nothing
            have length := congrArg List.length nothing
            rw [List.length_take, List.length_nil] at length
            omega
          rw [List.take_append_of_le_length (by omega),
            fieldsWithin?_of_refused nonempty (nextToken?_take head short)] at read
          cases read
        · rw [List.take_append, List.take_of_length_le complete] at read ⊢
          rcases nextToken?_of_regular head
            ((Wire.encodeFields fields).take (size - field.encode.length)) with first | refused
          · rw [Wire.fieldsWithin?_of_field first] at read
            obtain ⟨others, readRest, rfl⟩ := Option.map_eq_some_iff.mp read
            obtain ⟨count, rfl, same⟩ := induction tail readRest
            refine ⟨count + 1, rfl, ?_⟩
            rw [same, List.take_succ_cons, Wire.encodeFields_cons]
          · have nonempty := List.append_ne_nil_of_left_ne_nil field.encode_ne_nil
              ((Wire.encodeFields fields).take (size - field.encode.length))
            rw [fieldsWithin?_of_refused nonempty refused] at read
            cases read

/-- A stored message that can be read at all is read as it was stored. -/
theorem fields?_eq_of_regular {level : Nat} {fields found : List Field}
    (regular : ∀ field ∈ fields, Regular field)
    (read : Wire.fields? level (Wire.encodeFields fields) = some found) : found = fields := by
  rw [← List.take_length (l := Wire.encodeFields fields)] at read
  obtain ⟨count, rfl, same⟩ := fields?_take regular read
  have split : Wire.encodeFields fields =
      Wire.encodeFields (fields.take count) ++ Wire.encodeFields (fields.drop count) := by
    rw [Wire.encodeFields, Wire.encodeFields, Wire.encodeFields, ← List.flatMap_append,
      List.take_append_drop]
  rw [List.take_length] at same
  have nothing : Wire.encodeFields (fields.drop count) = [] := by
    rw [← same] at split
    exact List.self_eq_append_right.mp split
  cases dropped : fields.drop count with
  | nil => exact List.take_of_length_le (List.drop_eq_nil_iff.mp dropped)
  | cons field rest =>
      rw [dropped, Wire.encodeFields_cons] at nothing
      exact (field.encode_ne_nil (List.append_eq_nil_iff.mp nothing).1).elim

end Codec

end CodeGraph
