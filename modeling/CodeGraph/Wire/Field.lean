import CodeGraph.Wire.Varint

/-!
# Fields on the wire

A message is a sequence of fields.  A field starts with a tag, which holds its
number and tells how its payload is stored: a number, a fixed word, or bytes
after their length.  Groups are a nested notation that no record uses; they
are skipped as long as they are closed properly and not nested too deeply.
-/

namespace CodeGraph.Wire

/-- How a field's value is stored. -/
inductive Payload
  | varint (value : Nat)
  | fixed64 (word : Bytes)
  | delimited (bytes : Bytes)
  | fixed32 (word : Bytes)
  deriving DecidableEq, Repr

/-- A numbered field. -/
structure Field where
  number : Nat
  payload : Payload
  deriving DecidableEq, Repr

/-- The low bits of the tag of a field with the given payload. -/
def Payload.wireType : Payload → Nat
  | .varint _ => 0
  | .fixed64 _ => 1
  | .delimited _ => 2
  | .fixed32 _ => 5

/-- The stored form of a payload. -/
def Payload.encode : Payload → Bytes
  | .varint value => encodeVarint value
  | .fixed64 word => word
  | .delimited bytes => encodeVarint bytes.length ++ bytes
  | .fixed32 word => word

/-- The stored form of a field. -/
def Field.encode (field : Field) : Bytes :=
  encodeVarint (8 * field.number + field.payload.wireType) ++ field.payload.encode

/-- The stored form of a message. -/
def encodeFields (fields : List Field) : Bytes :=
  fields.flatMap Field.encode

/-- What a message is made of at the lowest level. -/
inductive Token
  | field (field : Field)
  | groupStart (number : Nat)
  | groupEnd (number : Nat)
  deriving DecidableEq, Repr

/-- Takes exactly `size` bytes, if there are that many. -/
def takeBytes? (size : Nat) (bytes : Bytes) : Option (Bytes × Bytes) :=
  if size ≤ bytes.length then some (bytes.take size, bytes.drop size) else none

/-- The field number and wire type of a tag: five bytes at most, below 2 ^ 32,
and no field has number zero. -/
def readTag? (bytes : Bytes) : Option (Nat × Nat × Bytes) :=
  match readVarint? 5 bytes with
  | none => none
  | some (tag, rest) =>
      if tag < 0x100000000 ∧ tag / 8 ≠ 0 then some (tag / 8, tag % 8, rest) else none

/-- Bytes after their length: five bytes at most, below 2 ^ 31. -/
def readDelimited? (bytes : Bytes) : Option (Bytes × Bytes) :=
  match readVarint? 5 bytes with
  | none => none
  | some (length, rest) => if length < 0x80000000 then takeBytes? length rest else none

/-- The rest of the token of a field with the given number and wire type. -/
def readToken? (number wireType : Nat) (bytes : Bytes) : Option (Token × Bytes) :=
  match wireType with
  | 0 => (readWord? bytes).map fun (value, rest) => (.field ⟨number, .varint value⟩, rest)
  | 1 => (takeBytes? 8 bytes).map fun (word, rest) => (.field ⟨number, .fixed64 word⟩, rest)
  | 2 => (readDelimited? bytes).map fun (content, rest) => (.field ⟨number, .delimited content⟩, rest)
  | 3 => some (.groupStart number, bytes)
  | 4 => some (.groupEnd number, bytes)
  | 5 => (takeBytes? 4 bytes).map fun (word, rest) => (.field ⟨number, .fixed32 word⟩, rest)
  | _ => none

/-- The token that the bytes start with and the bytes after it. -/
def nextToken? (bytes : Bytes) : Option (Token × Bytes) :=
  match readTag? bytes with
  | none => none
  | some (number, wireType, rest) => readToken? number wireType rest

theorem length_le_of_takeBytes? {size : Nat} {bytes taken rest : Bytes}
    (read : takeBytes? size bytes = some (taken, rest)) :
    rest.length ≤ bytes.length := by
  unfold takeBytes? at read
  split at read
  · obtain ⟨-, rfl⟩ := Prod.mk.inj (Option.some.inj read)
    simp
  · cases read

theorem length_lt_of_readTag? {bytes rest : Bytes} {number wireType : Nat}
    (read : readTag? bytes = some (number, wireType, rest)) :
    rest.length < bytes.length := by
  unfold readTag? at read
  split at read
  · cases read
  · next inner =>
      split at read
      · obtain ⟨-, pair⟩ := Prod.mk.inj (Option.some.inj read)
        obtain ⟨-, rfl⟩ := Prod.mk.inj pair
        exact length_lt_of_readVarint? inner
      · cases read

theorem length_le_of_readDelimited? {bytes content rest : Bytes}
    (read : readDelimited? bytes = some (content, rest)) :
    rest.length ≤ bytes.length := by
  unfold readDelimited? at read
  split at read
  · cases read
  · next inner =>
      split at read
      · have := length_le_of_takeBytes? read
        have := length_lt_of_readVarint? inner
        omega
      · cases read

theorem length_le_of_readToken? {number wireType : Nat} {bytes rest : Bytes} {token : Token}
    (read : readToken? number wireType bytes = some (token, rest)) :
    rest.length ≤ bytes.length := by
  unfold readToken? at read
  split at read
  · obtain ⟨⟨_, _⟩, inner, same⟩ := Option.map_eq_some_iff.mp read
    obtain ⟨-, rfl⟩ := Prod.mk.inj same
    exact Nat.le_of_lt (length_lt_of_readWord? inner)
  · obtain ⟨⟨_, _⟩, inner, same⟩ := Option.map_eq_some_iff.mp read
    obtain ⟨-, rfl⟩ := Prod.mk.inj same
    exact length_le_of_takeBytes? inner
  · obtain ⟨⟨_, _⟩, inner, same⟩ := Option.map_eq_some_iff.mp read
    obtain ⟨-, rfl⟩ := Prod.mk.inj same
    exact length_le_of_readDelimited? inner
  · obtain ⟨-, rfl⟩ := Prod.mk.inj (Option.some.inj read)
    exact Nat.le_refl _
  · obtain ⟨-, rfl⟩ := Prod.mk.inj (Option.some.inj read)
    exact Nat.le_refl _
  · obtain ⟨⟨_, _⟩, inner, same⟩ := Option.map_eq_some_iff.mp read
    obtain ⟨-, rfl⟩ := Prod.mk.inj same
    exact length_le_of_takeBytes? inner
  · cases read

/-- Reading a token takes at least one byte. -/
theorem length_lt_of_nextToken? {bytes rest : Bytes} {token : Token}
    (read : nextToken? bytes = some (token, rest)) :
    rest.length < bytes.length := by
  unfold nextToken? at read
  split at read
  · cases read
  · next tagged =>
      have := length_le_of_readToken? read
      have := length_lt_of_readTag? tagged
      omega

/-- The fields of a message inside of the given open groups, innermost first.
Groups are skipped with all that is in them; `depth` groups may be open at once. -/
def fieldsWithin? (depth : Nat) (groups : List Nat) (bytes : Bytes) : Option (List Field) :=
  match bytes with
  | [] => if groups.isEmpty then some [] else none
  | first :: tail =>
      match _read : nextToken? (first :: tail) with
      | none => none
      | some (.field field, rest) =>
          let more := fieldsWithin? depth groups rest
          if groups.isEmpty then more.map (field :: ·) else more
      | some (.groupStart number, rest) =>
          if groups.length < depth then fieldsWithin? depth (number :: groups) rest else none
      | some (.groupEnd number, rest) =>
          match groups with
          | [] => none
          | innermost :: outer =>
              if innermost = number then fieldsWithin? depth outer rest else none
termination_by bytes.length
decreasing_by all_goals exact length_lt_of_nextToken? _read

/-- How many levels of messages and groups may lie inside one another below the
outermost message. -/
def maxDepth : Nat := 100

/-- The fields of a message that lies the given number of levels below the
outermost one, if the bytes are a well-formed message. -/
def fields? (level : Nat) (bytes : Bytes) : Option (List Field) :=
  fieldsWithin? (maxDepth - level) [] bytes

end CodeGraph.Wire
