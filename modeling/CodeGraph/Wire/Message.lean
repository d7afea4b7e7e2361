import CodeGraph.Wire.Field

/-!
# Values of a message

A message is read by field number.  A field whose payload is stored in another
way than expected is ignored like an unknown one.  Of several values of a
single field the last one counts; the values of a repeated field are kept in
order.
-/

namespace CodeGraph.Wire

/-- The number that a field holds, if it has the given field number. -/
def Field.varint? (number : Nat) (field : Field) : Option Nat :=
  match field.payload with
  | .varint value => if field.number = number then some value else none
  | _ => none

/-- The bytes that a field holds, if it has the given field number. -/
def Field.delimited? (number : Nat) (field : Field) : Option Bytes :=
  match field.payload with
  | .delimited bytes => if field.number = number then some bytes else none
  | _ => none

/-- The value of a 64-bit field. -/
def word64? (number : Nat) (fields : List Field) : Option Nat :=
  (fields.filterMap (Field.varint? number)).getLast?

/-- The value of a 32-bit field: higher bits are dropped. -/
def word32? (number : Nat) (fields : List Field) : Option Nat :=
  (word64? number fields).map (· % 0x100000000)

/-- The value of a truth field. -/
def truth? (number : Nat) (fields : List Field) : Option Bool :=
  (word64? number fields).map (· != 0)

/-- The value of a text or byte field. -/
def bytes? (number : Nat) (fields : List Field) : Option Bytes :=
  (fields.filterMap (Field.delimited? number)).getLast?

/-- The signed number whose low 32 bits are given. -/
def signed32 (value : Nat) : Int :=
  Int.bmod value 0x100000000

/-- The last value of an enumeration field that `known` accepts. -/
def enumerator? (known : Int → Bool) (number : Nat) (fields : List Field) : Option Int :=
  ((fields.filterMap (Field.varint? number)).map signed32 |>.filter known).getLast?

/-- The numbers that a field adds to a repeated field: one number, or all that
are packed into its bytes. -/
def Field.words? (number : Nat) (field : Field) : Option (List Nat) :=
  if field.number = number then
    match field.payload with
    | .varint value => some [value]
    | .delimited packed => readWords? packed
    | _ => some []
  else some []

/-- The values of a repeated 64-bit field, if all packed parts are well-formed. -/
def words? (number : Nat) (fields : List Field) : Option (List Nat) :=
  (fields.mapM (Field.words? number)).map List.flatten

/-- The payloads of a repeated message field. -/
def messages (number : Nat) (fields : List Field) : List Bytes :=
  fields.filterMap (Field.delimited? number)

end CodeGraph.Wire
