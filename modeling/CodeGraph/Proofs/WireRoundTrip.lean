import CodeGraph.Wire.Message
import Mathlib

/-!
# Reading back stored fields

A stored number, tag or field is read back exactly, with any bytes after it
left untouched.  A message made of storable fields is therefore read as those
fields, whatever groups its reader could skip.
-/

namespace CodeGraph.Wire

/-! ## Numbers -/

theorem encodeVarint_of_lt {value : Nat} (small : value < 0x80) :
    encodeVarint value = [UInt8.ofNat value] := by
  rw [encodeVarint, if_pos small]

theorem encodeVarint_of_le {value : Nat} (large : 0x80 ≤ value) :
    encodeVarint value =
      UInt8.ofNat (0x80 + value % 0x80) :: encodeVarint (value / 0x80) := by
  rw [encodeVarint, if_neg (Nat.not_lt.mpr large)]

/-- A number that fits into `limit + 1` groups of seven bits is read back. -/
theorem readVarint?_encodeVarint {limit value : Nat} (rest : Bytes)
    (fits : value < 128 ^ (limit + 1)) :
    readVarint? (limit + 1) (encodeVarint value ++ rest) = some (value, rest) := by
  induction limit generalizing value with
  | zero =>
      have small : value < 0x80 := by simpa using fits
      have byte : (UInt8.ofNat value).toNat = value := by
        rw [UInt8.toNat_ofNat']
        omega
      simp [encodeVarint_of_lt small, readVarint?, byte, small]
  | succ limit induction =>
      by_cases small : value < 0x80
      · have byte : (UInt8.ofNat value).toNat = value := by
          rw [UInt8.toNat_ofNat']
          omega
        simp [encodeVarint_of_lt small, readVarint?, byte, small]
      · have large : 0x80 ≤ value := Nat.le_of_not_lt small
        have byte : (UInt8.ofNat (0x80 + value % 0x80)).toNat =
            0x80 + value % 0x80 := by
          rw [UInt8.toNat_ofNat']
          omega
        have quotientFits : value / 0x80 < 128 ^ (limit + 1) := by
          apply Nat.div_lt_of_lt_mul
          rw [Nat.mul_comm]
          exact fits
        have continued : ¬0x80 + value % 0x80 < 0x80 := by omega
        rw [encodeVarint_of_le large, List.cons_append, readVarint?, byte,
          if_neg continued, induction quotientFits]
        simp only [Option.some.injEq, Prod.mk.injEq, and_true]
        omega

theorem readWord?_encodeVarint {value : Nat} (rest : Bytes)
    (fits : value < 0x10000000000000000) :
    readWord? (encodeVarint value ++ rest) = some (value, rest) := by
  have groups : value < 128 ^ (9 + 1) := by omega
  rw [readWord?, readVarint?_encodeVarint rest groups]
  simp [Nat.mod_eq_of_lt fits]

/-! ## Fields -/

/-- A payload that its reader takes as it was stored. -/
def Payload.Storable : Payload → Prop
  | .varint value => value < 0x10000000000000000
  | .fixed64 word => word.length = 8
  | .delimited bytes => bytes.length < 0x80000000
  | .fixed32 word => word.length = 4

/-- A field that its reader takes as it was stored. -/
structure Field.Storable (field : Field) : Prop where
  number_ne_zero : field.number ≠ 0
  number_lt : field.number < 0x20000000
  payload : field.payload.Storable

theorem Payload.wireType_lt (payload : Payload) : payload.wireType < 8 := by
  cases payload <;> simp [Payload.wireType]

theorem takeBytes?_append (taken rest : Bytes) :
    takeBytes? taken.length (taken ++ rest) = some (taken, rest) := by
  simp [takeBytes?]

theorem readTag?_encodeVarint {number wireType : Nat} (rest : Bytes)
    (nonzero : number ≠ 0) (numberFits : number < 0x20000000)
    (wireTypeFits : wireType < 8) :
    readTag? (encodeVarint (8 * number + wireType) ++ rest) =
      some (number, wireType, rest) := by
  have groups : 8 * number + wireType < 128 ^ (4 + 1) := by omega
  have tagFits : 8 * number + wireType < 0x100000000 := by omega
  have quotient : (8 * number + wireType) / 8 = number := by omega
  have remainder : (8 * number + wireType) % 8 = wireType := by omega
  rw [readTag?, readVarint?_encodeVarint rest groups]
  simp [tagFits, quotient, remainder, nonzero]

theorem readDelimited?_encode {bytes : Bytes} (rest : Bytes)
    (short : bytes.length < 0x80000000) :
    readDelimited? (encodeVarint bytes.length ++ bytes ++ rest) = some (bytes, rest) := by
  have groups : bytes.length < 128 ^ (4 + 1) := by omega
  rw [readDelimited?, List.append_assoc, readVarint?_encodeVarint _ groups]
  simp only [if_pos short]
  exact takeBytes?_append bytes rest

theorem readToken?_encode {number : Nat} {payload : Payload} (rest : Bytes)
    (storable : payload.Storable) :
    readToken? number payload.wireType (payload.encode ++ rest) =
      some (.field ⟨number, payload⟩, rest) := by
  cases payload with
  | varint value =>
      have read := readWord?_encodeVarint rest storable
      simp [Payload.wireType, Payload.encode, readToken?, read]
  | fixed64 word =>
      have taken := takeBytes?_append word rest
      rw [show word.length = 8 from storable] at taken
      simp [Payload.wireType, Payload.encode, readToken?, taken]
  | delimited bytes =>
      have read := readDelimited?_encode rest storable
      simp only [Payload.wireType, Payload.encode, readToken?, read, Option.map_some]
  | fixed32 word =>
      have taken := takeBytes?_append word rest
      rw [show word.length = 4 from storable] at taken
      simp [Payload.wireType, Payload.encode, readToken?, taken]

theorem nextToken?_encode {field : Field} (rest : Bytes) (storable : field.Storable) :
    nextToken? (field.encode ++ rest) = some (.field field, rest) := by
  rw [nextToken?, Field.encode, List.append_assoc,
    readTag?_encodeVarint _ storable.number_ne_zero storable.number_lt
      field.payload.wireType_lt]
  exact readToken?_encode rest storable.payload

/-! ## Messages -/

theorem fieldsWithin?_of_field {depth : Nat} {bytes rest : Bytes} {field : Field}
    (read : nextToken? bytes = some (.field field, rest)) :
    fieldsWithin? depth [] bytes = (fieldsWithin? depth [] rest).map (field :: ·) := by
  cases bytes with
  | nil => cases read
  | cons first tail =>
      rw [fieldsWithin?]
      split
      · next refused =>
          rw [read] at refused
          cases refused
      · next found =>
          rw [read] at found
          cases found
          rfl
      · next found =>
          rw [read] at found
          cases found
      · next found =>
          rw [read] at found
          cases found

@[simp] theorem encodeFields_nil : encodeFields [] = [] := rfl

@[simp] theorem encodeFields_cons (field : Field) (fields : List Field) :
    encodeFields (field :: fields) = field.encode ++ encodeFields fields := by
  simp [encodeFields]

/-- A message of storable fields is read as these fields. -/
theorem fields?_encodeFields {level : Nat} {fields : List Field}
    (storable : ∀ field ∈ fields, field.Storable) :
    fields? level (encodeFields fields) = some fields := by
  unfold fields?
  induction fields with
  | nil => simp [fieldsWithin?]
  | cons field fields induction =>
      have head := nextToken?_encode (encodeFields fields)
        (storable field List.mem_cons_self)
      have tail := induction fun other member =>
        storable other (List.mem_cons_of_mem field member)
      rw [encodeFields_cons, fieldsWithin?_of_field head, tail]
      rfl

/-- What a field holds is no longer than the message around it. -/
theorem length_le_encodeFields {fields : List Field} {field : Field} {bytes : Bytes}
    (member : field ∈ fields) (content : field.payload = .delimited bytes) :
    bytes.length ≤ (encodeFields fields).length := by
  induction fields with
  | nil => cases member
  | cons head tail induction =>
      rw [encodeFields_cons, List.length_append]
      rcases List.mem_cons.mp member with same | later
      · subst same
        simp only [Field.encode, content, Payload.encode, List.length_append]
        omega
      · have := induction later
        omega

end CodeGraph.Wire
