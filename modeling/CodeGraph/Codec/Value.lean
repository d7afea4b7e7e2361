import CodeGraph.Codec.Error
import CodeGraph.Text.Utf8
import CodeGraph.Wire.Message

/-!
# Checked field values

Each function makes the field that holds a value, or refuses the value.  An
absent value makes no field; a value that is zero or empty still makes one.
-/

namespace CodeGraph.Codec

open Wire (Field)

/-- A number as the value of a field of the given width. -/
def checkWord (width : Nat) (value : Int) : Except ValueError Nat :=
  if 0 ≤ value ∧ value < Nat.pow 2 width then .ok value.toNat else .error (.outOfRange value)

/-- A number as the value of an enumeration field. -/
def checkEnumerator (known : Int → Bool) (value : Int) : Except ValueError Nat :=
  if value < -0x80000000 ∨ 0x80000000 ≤ value then .error (.outOfRange value)
  else if known value then .ok value.toNat
  else .error (.unknownEnumerator value)

/-- A number field of the given width. -/
def wordField (width number : Nat) (value : Int) : Except ValueError Field :=
  (checkWord width value).map fun word => ⟨number, .varint word⟩

/-- An enumeration field. -/
def enumeratorField (known : Int → Bool) (number : Nat) (value : Int) : Except ValueError Field :=
  (checkEnumerator known value).map fun word => ⟨number, .varint word⟩

def truthField (number : Nat) (value : Bool) : Field :=
  ⟨number, .varint (if value then 1 else 0)⟩

def bytesField (number : Nat) (value : Bytes) : Field :=
  ⟨number, .delimited value⟩

def textField (number : Nat) (value : String) : Field :=
  bytesField number (Utf8.encode value)

/-- A field that holds a message. -/
def messageField (number : Nat) (fields : List Field) : Field :=
  bytesField number (Wire.encodeFields fields)

/-- The field of a number that may be absent. -/
def optionalWord (width number : Nat) : Option Int → Except ValueError (List Field)
  | none => .ok []
  | some value => (wordField width number value).map ([·])

/-- The field of a text that may be absent. -/
def optionalText (number : Nat) (value : Option String) : List Field :=
  value.toList.map (textField number)

/-- The field of bytes that may be absent. -/
def optionalBytes (number : Nat) (value : Option Bytes) : List Field :=
  value.toList.map (bytesField number)

/-- The text of a byte string that was read from the named field. -/
def readText (field : String) (value : Bytes) : Except DecodeError String :=
  match Utf8.decode value with
  | .ok text => .ok text
  | .error _ => .error (.invalidText field)

/-- The text of a byte string that may be absent. -/
def readOptionalText (field : String) : Option Bytes → Except DecodeError (Option String)
  | none => .ok none
  | some value => (readText field value).map some

/-- The names of the required fields that a message lacks.  A field is named by
its path from the outermost message. -/
def missingFields (path : String) (required : List (String × (List Field → Bool)))
    (fields : List Field) : List String :=
  (required.filter fun (_, present) => !present fields).map fun (name, _) => path ++ name

/-- A required number field is present. -/
def hasWord (number : Nat) (fields : List Field) : Bool :=
  (Wire.word64? number fields).isSome

/-- A required text field is present. -/
def hasBytes (number : Nat) (fields : List Field) : Bool :=
  (Wire.bytes? number fields).isSome

/-- The path of an element of a repeated field. -/
def elementPath (path field : String) (position : Nat) : String :=
  s!"{path}{field}[{position}]."

end CodeGraph.Codec
