import CodeGraph.Bytes

/-!
# Variable length numbers

A number is stored in groups of seven bits, lowest group first; every byte but
the last has its high bit set.  Reading gives back what was written, and
accepts longer spellings up to a limit of bytes.
-/

namespace CodeGraph.Wire

/-- The shortest spelling of a number. -/
def encodeVarint (value : Nat) : Bytes :=
  if value < 0x80 then [UInt8.ofNat value]
  else UInt8.ofNat (0x80 + value % 0x80) :: encodeVarint (value / 0x80)
termination_by value
decreasing_by omega

/-- The number that the bytes start with and the bytes after it, unless it is
longer than `limit` bytes or the data ends inside it. -/
def readVarint? : Nat → Bytes → Option (Nat × Bytes)
  | 0, _ => none
  | _ + 1, [] => none
  | limit + 1, byte :: rest =>
      if byte.toNat < 0x80 then some (byte.toNat, rest)
      else
        match readVarint? limit rest with
        | none => none
        | some (high, rest) => some (byte.toNat - 0x80 + 0x80 * high, rest)

/-- Reading takes at least one byte. -/
theorem length_lt_of_readVarint? {limit value : Nat} {bytes rest : Bytes}
    (read : readVarint? limit bytes = some (value, rest)) :
    rest.length < bytes.length := by
  induction limit generalizing bytes value with
  | zero => simp [readVarint?] at read
  | succ limit induction =>
      cases bytes with
      | nil => simp [readVarint?] at read
      | cons byte tail =>
          unfold readVarint? at read
          split at read
          · obtain ⟨-, rfl⟩ := Prod.mk.inj (Option.some.inj read)
            simp
          · split at read
            · cases read
            · next shorter =>
                obtain ⟨-, rfl⟩ := Prod.mk.inj (Option.some.inj read)
                have := induction shorter
                simp only [List.length_cons]
                omega

/-- The value of a 64-bit field: ten bytes at most, surplus high bits ignored. -/
def readWord? (bytes : Bytes) : Option (Nat × Bytes) :=
  (readVarint? 10 bytes).map fun (value, rest) => (value % 0x10000000000000000, rest)

/-- Reading a word takes at least one byte. -/
theorem length_lt_of_readWord? {value : Nat} {bytes rest : Bytes}
    (read : readWord? bytes = some (value, rest)) :
    rest.length < bytes.length := by
  obtain ⟨⟨_, _⟩, inner, same⟩ := Option.map_eq_some_iff.mp read
  obtain ⟨-, rfl⟩ := Prod.mk.inj same
  exact length_lt_of_readVarint? inner

/-- The words that fill the bytes without a remainder. -/
def readWords? (bytes : Bytes) : Option (List Nat) :=
  match bytes with
  | [] => some []
  | first :: tail =>
      match _read : readWord? (first :: tail) with
      | none => none
      | some (value, rest) => (readWords? rest).map (value :: ·)
termination_by bytes.length
decreasing_by exact length_lt_of_readWord? _read

end CodeGraph.Wire
