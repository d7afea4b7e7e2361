import CodeGraph.Bytes

/-!
# UTF-8

Text is encoded in the shortest form.  Decoding is strict: overlong forms,
surrogates and numbers above the last code point are refused, and a refusal
names the offset of the first byte that starts no character.
-/

namespace CodeGraph.Utf8

/-- The code units of one character. -/
def encodeChar (character : Char) : Bytes :=
  let code := character.toNat
  if code < 0x80 then [UInt8.ofNat code]
  else if code < 0x800 then
    [UInt8.ofNat (0xC0 + code / 0x40), UInt8.ofNat (0x80 + code % 0x40)]
  else if code < 0x10000 then
    [UInt8.ofNat (0xE0 + code / 0x1000), UInt8.ofNat (0x80 + code / 0x40 % 0x40),
      UInt8.ofNat (0x80 + code % 0x40)]
  else
    [UInt8.ofNat (0xF0 + code / 0x40000), UInt8.ofNat (0x80 + code / 0x1000 % 0x40),
      UInt8.ofNat (0x80 + code / 0x40 % 0x40), UInt8.ofNat (0x80 + code % 0x40)]

/-- The code units of a sequence of characters. -/
def encodeChars (characters : List Char) : Bytes :=
  characters.flatMap encodeChar

/-- The code units of a text. -/
def encode (text : String) : Bytes :=
  encodeChars text.toList

/-- The payload of a continuation byte. -/
def continuation? (byte : UInt8) : Option Nat :=
  if 0x80 ≤ byte.toNat ∧ byte.toNat < 0xC0 then some (byte.toNat - 0x80) else none

/-- The character of a code that needs its full length: at least `least`, and
a scalar value. -/
def scalar? (least code : Nat) : Option Char :=
  if least ≤ code ∧ code.isValidChar then some (Char.ofNat code) else none

/-- The character of two code units. -/
def scalar2? (first second : UInt8) : Option Char := do
  let two ← continuation? second
  scalar? 0x80 ((first.toNat - 0xC0) * 0x40 + two)

/-- The character of three code units. -/
def scalar3? (first second third : UInt8) : Option Char := do
  let two ← continuation? second
  let three ← continuation? third
  scalar? 0x800 ((first.toNat - 0xE0) * 0x1000 + two * 0x40 + three)

/-- The character of four code units. -/
def scalar4? (first second third fourth : UInt8) : Option Char := do
  let two ← continuation? second
  let three ← continuation? third
  let four ← continuation? fourth
  scalar? 0x10000 ((first.toNat - 0xF0) * 0x40000 + two * 0x1000 + three * 0x40 + four)

/-- The character that the bytes start with, and the bytes after it.  The first
byte tells how many code units the character has. -/
def decodeChar? : Bytes → Option (Char × Bytes)
  | [] => none
  | first :: rest =>
      if first.toNat < 0x80 then some (Char.ofNat first.toNat, rest)
      else if first.toNat < 0xC0 then none
      else if first.toNat < 0xE0 then
        match rest with
        | second :: rest => (scalar2? first second).map (·, rest)
        | _ => none
      else if first.toNat < 0xF0 then
        match rest with
        | second :: third :: rest => (scalar3? first second third).map (·, rest)
        | _ => none
      else if first.toNat < 0xF8 then
        match rest with
        | second :: third :: fourth :: rest =>
            (scalar4? first second third fourth).map (·, rest)
        | _ => none
      else none

/-- A character taken off the front leaves fewer bytes. -/
theorem length_lt_of_decodeChar? {bytes rest : Bytes} {character : Char}
    (decoded : decodeChar? bytes = some (character, rest)) :
    rest.length < bytes.length := by
  have shortened : ∀ {read : Option Char} {tail : Bytes},
      read.map (·, tail) = some (character, rest) → rest = tail := by
    intro read tail equality
    obtain ⟨_, _, same⟩ := Option.map_eq_some_iff.mp equality
    exact (Prod.mk.inj same).2.symm
  unfold decodeChar? at decoded
  repeat' split at decoded
  case h_1 => cases decoded
  case h_2.isTrue =>
    obtain ⟨-, rfl⟩ := Prod.mk.inj (Option.some.inj decoded)
    simp
  all_goals first
    | cases decoded
    | rw [shortened decoded]; simp only [List.length_cons]; omega

/-- The characters that the bytes encode, or the offset of the first byte that
starts no character.  Offsets are counted from `offset`. -/
def decodeFrom (offset : Nat) (bytes : Bytes) : Except Nat (List Char) :=
  match bytes with
  | [] => .ok []
  | lead :: tail =>
      match _decoded : decodeChar? (lead :: tail) with
      | none => .error offset
      | some (character, rest) =>
          (character :: ·) <$> decodeFrom (offset + character.utf8Size) rest
termination_by bytes.length
decreasing_by exact length_lt_of_decodeChar? _decoded

/-- The text that the bytes encode, or the offset of the first byte that starts
no character. -/
def decode (bytes : Bytes) : Except Nat String :=
  String.ofList <$> decodeFrom 0 bytes

/-- The characters that the bytes encode, where each byte that starts no
character is handed to `replace`. -/
def decodeCharsLossy (replace : UInt8 → List Char) (bytes : Bytes) : List Char :=
  match bytes with
  | [] => []
  | lead :: tail =>
      match _decoded : decodeChar? (lead :: tail) with
      | none => replace lead ++ decodeCharsLossy replace tail
      | some (character, rest) => character :: decodeCharsLossy replace rest
termination_by bytes.length
decreasing_by
  · simp
  · exact length_lt_of_decodeChar? _decoded

/-- How many bytes at the front belong to one broken character: the longest
start of a character, or a single byte. -/
def brokenLength (bytes : Bytes) : Nat :=
  if (decodeChar? (bytes.take 3 ++ [0x80])).isSome then 3
  else if (decodeChar? (bytes.take 2 ++ [0x80, 0x80])).isSome then 2
  else 1

theorem brokenLength_pos (bytes : Bytes) : 0 < brokenLength bytes := by
  unfold brokenLength
  split
  · decide
  · split <;> decide

/-- The characters that the bytes encode, with one replacement character for
each broken one. -/
def decodeReplacing (bytes : Bytes) : List Char :=
  match bytes with
  | [] => []
  | lead :: tail =>
      match _decoded : decodeChar? (lead :: tail) with
      | none => '\ufffd' :: decodeReplacing ((lead :: tail).drop (brokenLength (lead :: tail)))
      | some (character, rest) => character :: decodeReplacing rest
termination_by bytes.length
decreasing_by
  · have taken := brokenLength_pos (lead :: tail)
    simp only [List.length_drop, List.length_cons]
    omega
  · exact length_lt_of_decodeChar? _decoded

end CodeGraph.Utf8
