import CodeGraph.Text.Utf8
import Mathlib

/-!
# Reading back encoded text

The code units of a text are read back as that text, by the strict reader and
by the one that replaces broken bytes.  The strict reader accepts nothing else:
what it reads a text from is the encoded form of the text.
-/

namespace CodeGraph.Utf8

theorem continuation?_ofNat {payload : Nat} (small : payload < 0x40) :
    continuation? (UInt8.ofNat (0x80 + payload)) = some payload := by
  have byte : (UInt8.ofNat (0x80 + payload)).toNat = 0x80 + payload := by
    rw [UInt8.toNat_ofNat']
    omega
  rw [continuation?, byte, if_pos ⟨by omega, by omega⟩]
  simp

theorem scalar?_toNat {least : Nat} {character : Char} (long : least ≤ character.toNat) :
    scalar? least character.toNat = some character := by
  have valid : character.toNat.isValidChar := character.valid
  simp [scalar?, long, valid, Char.ofNat_toNat]

theorem toNat_lt_of_char (character : Char) : character.toNat < 0x110000 := by
  have valid : character.toNat.isValidChar := character.valid
  rcases valid with low | high
  · omega
  · exact high.2

/-! ## One character -/

theorem decodeChar?_one {first : UInt8} {code : Nat} (rest : Bytes)
    (lead : first.toNat = code) (small : code < 0x80) :
    decodeChar? (first :: rest) = some (Char.ofNat code, rest) := by
  simp [decodeChar?, lead, small]

theorem decodeChar?_two {first second : UInt8} {high low : Nat} {character : Char}
    (rest : Bytes) (lead : first.toNat = 0xC0 + high) (small : high < 0x20)
    (secondUnit : continuation? second = some low)
    (read : scalar? 0x80 (high * 0x40 + low) = some character) :
    decodeChar? (first :: second :: rest) = some (character, rest) := by
  have payload : first.toNat - 0xC0 = high := by omega
  have found : scalar2? first second = some character := by
    rw [scalar2?, secondUnit, Option.bind_eq_bind, Option.bind_some, payload, read]
  rw [decodeChar?, lead, if_neg (by omega), if_neg (by omega), if_pos (by omega)]
  simp only [found, Option.map_some]

theorem decodeChar?_three {first second third : UInt8} {high middle low : Nat}
    {character : Char} (rest : Bytes) (lead : first.toNat = 0xE0 + high)
    (small : high < 0x10) (secondUnit : continuation? second = some middle)
    (thirdUnit : continuation? third = some low)
    (read : scalar? 0x800 (high * 0x1000 + middle * 0x40 + low) = some character) :
    decodeChar? (first :: second :: third :: rest) = some (character, rest) := by
  have payload : first.toNat - 0xE0 = high := by omega
  have found : scalar3? first second third = some character := by
    rw [scalar3?, secondUnit, Option.bind_eq_bind, Option.bind_some, thirdUnit,
      Option.bind_some, payload, read]
  rw [decodeChar?, lead, if_neg (by omega), if_neg (by omega), if_neg (by omega),
    if_pos (by omega)]
  simp only [found, Option.map_some]

theorem decodeChar?_four {first second third fourth : UInt8}
    {high upper middle low : Nat} {character : Char} (rest : Bytes)
    (lead : first.toNat = 0xF0 + high) (small : high < 0x08)
    (secondUnit : continuation? second = some upper)
    (thirdUnit : continuation? third = some middle)
    (fourthUnit : continuation? fourth = some low)
    (read : scalar? 0x10000 (high * 0x40000 + upper * 0x1000 + middle * 0x40 + low) =
      some character) :
    decodeChar? (first :: second :: third :: fourth :: rest) = some (character, rest) := by
  have payload : first.toNat - 0xF0 = high := by omega
  have found : scalar4? first second third fourth = some character := by
    rw [scalar4?, secondUnit, Option.bind_eq_bind, Option.bind_some, thirdUnit,
      Option.bind_some, fourthUnit, Option.bind_some, payload, read]
  rw [decodeChar?, lead, if_neg (by omega), if_neg (by omega), if_neg (by omega),
    if_neg (by omega), if_pos (by omega)]
  simp only [found, Option.map_some]

theorem toNat_ofNat_of_lt {value : Nat} (small : value < 0x100) :
    (UInt8.ofNat value).toNat = value := by
  rw [UInt8.toNat_ofNat']
  exact Nat.mod_eq_of_lt small

/-- A character is read back from its code units. -/
theorem decodeChar?_encodeChar (character : Char) (rest : Bytes) :
    decodeChar? (encodeChar character ++ rest) = some (character, rest) := by
  have bounded := toNat_lt_of_char character
  have lowUnit : continuation? (UInt8.ofNat (0x80 + character.toNat % 0x40)) =
      some (character.toNat % 0x40) :=
    continuation?_ofNat (Nat.mod_lt _ (by decide))
  have middleUnit : continuation? (UInt8.ofNat (0x80 + character.toNat / 0x40 % 0x40)) =
      some (character.toNat / 0x40 % 0x40) :=
    continuation?_ofNat (Nat.mod_lt _ (by decide))
  have upperUnit : continuation? (UInt8.ofNat (0x80 + character.toNat / 0x1000 % 0x40)) =
      some (character.toNat / 0x1000 % 0x40) :=
    continuation?_ofNat (Nat.mod_lt _ (by decide))
  simp only [encodeChar]
  split
  · next one =>
      have read := decodeChar?_one rest (toNat_ofNat_of_lt (by omega)) one
      rw [Char.ofNat_toNat] at read
      exact read
  · split
    · apply decodeChar?_two rest (toNat_ofNat_of_lt (by omega)) (by omega) lowUnit
      have code : character.toNat / 0x40 * 0x40 + character.toNat % 0x40 =
          character.toNat := by omega
      rw [code]
      exact scalar?_toNat (by omega)
    · split
      · apply decodeChar?_three rest (toNat_ofNat_of_lt (by omega)) (by omega)
          middleUnit lowUnit
        have code : character.toNat / 0x1000 * 0x1000 +
            character.toNat / 0x40 % 0x40 * 0x40 + character.toNat % 0x40 =
              character.toNat := by omega
        rw [code]
        exact scalar?_toNat (by omega)
      · apply decodeChar?_four rest (toNat_ofNat_of_lt (by omega)) (by omega)
          upperUnit middleUnit lowUnit
        have code : character.toNat / 0x40000 * 0x40000 +
            character.toNat / 0x1000 % 0x40 * 0x1000 +
              character.toNat / 0x40 % 0x40 * 0x40 + character.toNat % 0x40 =
                character.toNat := by omega
        rw [code]
        exact scalar?_toNat (by omega)

/-! ## Text -/

theorem encodeChars_cons (character : Char) (characters : List Char) :
    encodeChars (character :: characters) = encodeChar character ++ encodeChars characters := by
  simp [encodeChars]

/-- One step of the strict reader. -/
theorem decodeFrom_of_decodeChar? {offset : Nat} {bytes rest : Bytes} {character : Char}
    (read : decodeChar? bytes = some (character, rest)) :
    decodeFrom offset bytes =
      (character :: ·) <$> decodeFrom (offset + character.utf8Size) rest := by
  cases bytes with
  | nil => cases read
  | cons lead tail =>
      rw [decodeFrom]
      split
      · next refused =>
          rw [read] at refused
          cases refused
      · next found =>
          rw [read] at found
          cases found
          rfl

/-- One step of the reader that replaces broken bytes. -/
theorem decodeCharsLossy_of_decodeChar? {replace : UInt8 → List Char} {bytes rest : Bytes}
    {character : Char} (read : decodeChar? bytes = some (character, rest)) :
    decodeCharsLossy replace bytes = character :: decodeCharsLossy replace rest := by
  cases bytes with
  | nil => cases read
  | cons lead tail =>
      rw [decodeCharsLossy]
      split
      · next refused =>
          rw [read] at refused
          cases refused
      · next found =>
          rw [read] at found
          cases found
          rfl

theorem decodeFrom_encodeChars (offset : Nat) (characters : List Char) :
    decodeFrom offset (encodeChars characters) = .ok characters := by
  induction characters generalizing offset with
  | nil => simp [encodeChars, decodeFrom]
  | cons character characters induction =>
      have read := decodeChar?_encodeChar character (encodeChars characters)
      rw [encodeChars_cons, decodeFrom_of_decodeChar? read, induction]
      rfl

/-- The strict reader gives an encoded text back. -/
theorem decode_encode (text : String) : decode (encode text) = .ok text := by
  rw [decode, encode, decodeFrom_encodeChars]
  simp [Functor.map, Except.map]

/-- Bytes that encode characters have no broken ones to replace. -/
theorem decodeCharsLossy_of_decodeFrom {replace : UInt8 → List Char} {offset : Nat} {bytes : Bytes}
    {characters : List Char} (decoded : decodeFrom offset bytes = .ok characters) :
    decodeCharsLossy replace bytes = characters := by
  fun_induction decodeFrom offset bytes generalizing characters with
  | case1 =>
      obtain rfl := Except.ok.inj decoded
      simp [decodeCharsLossy]
  | case2 => cases decoded
  | case3 offset lead tail character rest read induction =>
      cases remaining : decodeFrom (offset + character.utf8Size) rest with
      | error position =>
          rw [remaining] at decoded
          cases decoded
      | ok others =>
          rw [remaining] at decoded
          obtain rfl := Except.ok.inj decoded
          rw [decodeCharsLossy_of_decodeChar? read, induction remaining]

/-- The reader that replaces broken bytes agrees with the strict one on text
that the strict one accepts. -/
theorem decodeCharsLossy_of_decode (replace : UInt8 → List Char) {bytes : Bytes} {text : String}
    (decoded : decode bytes = .ok text) : decodeCharsLossy replace bytes = text.toList := by
  unfold decode at decoded
  cases read : decodeFrom 0 bytes with
  | error position =>
      rw [read] at decoded
      cases decoded
  | ok characters =>
      rw [read] at decoded
      obtain rfl := Except.ok.inj decoded
      rw [decodeCharsLossy_of_decodeFrom read, String.toList_ofList]

/-- Encoded text has no broken bytes to replace. -/
theorem decodeCharsLossy_encode (replace : UInt8 → List Char) (text : String) :
    decodeCharsLossy replace (encode text) = text.toList :=
  decodeCharsLossy_of_decode replace (decode_encode text)

/-! ## One encoded form -/

theorem ofNat_of_toNat {byte : UInt8} {value : Nat} (same : byte.toNat = value) :
    UInt8.ofNat value = byte := by
  rw [← same, UInt8.ofNat_toNat]

theorem toNat_of_continuation? {byte : UInt8} {payload : Nat}
    (read : continuation? byte = some payload) :
    byte.toNat = 0x80 + payload ∧ payload < 0x40 := by
  unfold continuation? at read
  split at read
  · next inside =>
      obtain rfl := Option.some.inj read
      omega
  · cases read

theorem toNat_of_scalar? {least code : Nat} {character : Char}
    (read : scalar? least code = some character) : least ≤ code ∧ character.toNat = code := by
  unfold scalar? at read
  split at read
  · next accepted =>
      obtain rfl := Option.some.inj read
      exact ⟨accepted.1, by rw [Char.toNat_ofNat, if_pos accepted.2]⟩
  · cases read

theorem encodeChar_of_scalar2? {first second : UInt8} {character : Char}
    (low : 0xC0 ≤ first.toNat) (high : first.toNat < 0xE0)
    (read : scalar2? first second = some character) : encodeChar character = [first, second] := by
  simp only [scalar2?, Option.bind_eq_bind, Option.bind_eq_some_iff] at read
  obtain ⟨two, secondRead, scalar⟩ := read
  obtain ⟨secondByte, _⟩ := toNat_of_continuation? secondRead
  obtain ⟨long, code⟩ := toNat_of_scalar? scalar
  have firstUnit : first.toNat = 0xC0 + character.toNat / 0x40 := by omega
  have secondUnit : second.toNat = 0x80 + character.toNat % 0x40 := by omega
  rw [encodeChar, if_neg (by omega), if_pos (by omega), ofNat_of_toNat firstUnit,
    ofNat_of_toNat secondUnit]

theorem encodeChar_of_scalar3? {first second third : UInt8} {character : Char}
    (low : 0xE0 ≤ first.toNat) (high : first.toNat < 0xF0)
    (read : scalar3? first second third = some character) :
    encodeChar character = [first, second, third] := by
  simp only [scalar3?, Option.bind_eq_bind, Option.bind_eq_some_iff] at read
  obtain ⟨two, secondRead, three, thirdRead, scalar⟩ := read
  obtain ⟨secondByte, _⟩ := toNat_of_continuation? secondRead
  obtain ⟨thirdByte, _⟩ := toNat_of_continuation? thirdRead
  obtain ⟨long, code⟩ := toNat_of_scalar? scalar
  have firstUnit : first.toNat = 0xE0 + character.toNat / 0x1000 := by omega
  have secondUnit : second.toNat = 0x80 + character.toNat / 0x40 % 0x40 := by omega
  have thirdUnit : third.toNat = 0x80 + character.toNat % 0x40 := by omega
  rw [encodeChar, if_neg (by omega), if_neg (by omega), if_pos (by omega),
    ofNat_of_toNat firstUnit, ofNat_of_toNat secondUnit, ofNat_of_toNat thirdUnit]

theorem encodeChar_of_scalar4? {first second third fourth : UInt8} {character : Char}
    (low : 0xF0 ≤ first.toNat) (read : scalar4? first second third fourth = some character) :
    encodeChar character = [first, second, third, fourth] := by
  simp only [scalar4?, Option.bind_eq_bind, Option.bind_eq_some_iff] at read
  obtain ⟨two, secondRead, three, thirdRead, four, fourthRead, scalar⟩ := read
  obtain ⟨secondByte, _⟩ := toNat_of_continuation? secondRead
  obtain ⟨thirdByte, _⟩ := toNat_of_continuation? thirdRead
  obtain ⟨fourthByte, _⟩ := toNat_of_continuation? fourthRead
  obtain ⟨long, code⟩ := toNat_of_scalar? scalar
  have firstUnit : first.toNat = 0xF0 + character.toNat / 0x40000 := by omega
  have secondUnit : second.toNat = 0x80 + character.toNat / 0x1000 % 0x40 := by omega
  have thirdUnit : third.toNat = 0x80 + character.toNat / 0x40 % 0x40 := by omega
  have fourthUnit : fourth.toNat = 0x80 + character.toNat % 0x40 := by omega
  rw [encodeChar, if_neg (by omega), if_neg (by omega), if_neg (by omega),
    ofNat_of_toNat firstUnit, ofNat_of_toNat secondUnit, ofNat_of_toNat thirdUnit,
    ofNat_of_toNat fourthUnit]

/-- The bytes that a character is read from are its code units. -/
theorem encodeChar_of_decodeChar? {bytes rest : Bytes} {character : Char}
    (read : decodeChar? bytes = some (character, rest)) : encodeChar character ++ rest = bytes := by
  unfold decodeChar? at read
  split at read
  · cases read
  next first tail =>
    split at read
    · next small =>
        cases read
        have valid : first.toNat.isValidChar := .inl (by omega)
        have code : (Char.ofNat first.toNat).toNat = first.toNat := by
          rw [Char.toNat_ofNat, if_pos valid]
        rw [encodeChar, code, if_pos small, ofNat_of_toNat rfl]
        rfl
    split at read
    · cases read
    split at read
    · next low high =>
        split at read
        · obtain ⟨_, found, same⟩ := Option.map_eq_some_iff.mp read
          cases same
          rw [encodeChar_of_scalar2? (by omega) (by omega) found]
          rfl
        · cases read
    split at read
    · split at read
      · obtain ⟨_, found, same⟩ := Option.map_eq_some_iff.mp read
        cases same
        rw [encodeChar_of_scalar3? (by omega) (by omega) found]
        rfl
      · cases read
    split at read
    · split at read
      · obtain ⟨_, found, same⟩ := Option.map_eq_some_iff.mp read
        cases same
        rw [encodeChar_of_scalar4? (by omega) found]
        rfl
      · cases read
    · cases read

theorem encodeChars_of_decodeFrom {offset : Nat} {bytes : Bytes} {characters : List Char}
    (decoded : decodeFrom offset bytes = .ok characters) : encodeChars characters = bytes := by
  fun_induction decodeFrom offset bytes generalizing characters with
  | case1 =>
      obtain rfl := Except.ok.inj decoded
      rfl
  | case2 => cases decoded
  | case3 offset lead tail character rest read induction =>
      cases remaining : decodeFrom (offset + character.utf8Size) rest with
      | error position =>
          rw [remaining] at decoded
          cases decoded
      | ok others =>
          rw [remaining] at decoded
          obtain rfl := Except.ok.inj decoded
          rw [encodeChars_cons, induction remaining, encodeChar_of_decodeChar? read]

/-- Bytes that the strict reader accepts are the encoded form of what is read. -/
theorem encode_of_decode {bytes : Bytes} {text : String} (decoded : decode bytes = .ok text) :
    encode text = bytes := by
  unfold decode at decoded
  cases read : decodeFrom 0 bytes with
  | error position =>
      rw [read] at decoded
      cases decoded
  | ok characters =>
      rw [read] at decoded
      obtain rfl := Except.ok.inj decoded
      rw [encode, String.toList_ofList, encodeChars_of_decodeFrom read]

end CodeGraph.Utf8
