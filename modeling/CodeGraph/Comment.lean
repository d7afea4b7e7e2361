import CodeGraph.Text.Hex

/-!
# Comments and their flag words

A comment's properties travel in one word: the lowest bit says whether the
comment is repeatable, the next three hold its kind, the high half holds the
operand it belongs to.  The twelve bits between are reserved, and are written
back as they were read.
-/

namespace CodeGraph

/-- What a comment is attached to. -/
inductive CommentKind
  | regular
  | enum
  | anterior
  | posterior
  | function
  | location
  | globalReference
  | localReference
  deriving DecidableEq, Repr

namespace CommentKind

/-- All kinds in the order of their codes. -/
def all : List CommentKind :=
  [regular, enum, anterior, posterior, function, location, globalReference, localReference]

/-- The kind that the three bits of a code select. -/
def ofCode (code : Nat) : CommentKind :=
  all.getD (code % 8) regular

def name : CommentKind → String
  | regular => "REGULAR"
  | enum => "ENUM"
  | anterior => "ANTERIOR"
  | posterior => "POSTERIOR"
  | function => "FUNCTION"
  | location => "LOCATION"
  | globalReference => "GLOBALREFERENCE"
  | localReference => "LOCALREFERENCE"

end CommentKind

/-- A comment on an instruction.  The numbers are unchecked until the flag word
is packed. -/
structure Comment where
  text : String
  /-- One for a repeatable comment, zero for any other. -/
  repeatable : Int := 0
  kind : Int := 0
  operand : Int := 0
  /-- Flag bits without a known meaning. -/
  reserved : Int := 0
  deriving DecidableEq, Repr, Inhabited

namespace Comment

/-- Why a flag word cannot be packed. -/
inductive FlagError
  | reserved (bits : Int)
  | repeatable (value : Int)
  | kind (value : Int)
  | operand (value : Int)
  deriving DecidableEq, Repr

/-- The bits of a flag word that have no known meaning. -/
def reservedMask : Nat := 0xFFF0

def FlagError.message : FlagError → String
  | .reserved bits => s!"reserved flags outside {Hex.ofInt reservedMask}: {Hex.ofInt bits}"
  | .repeatable value => s!"repeatable must be 0 or 1, got {value}"
  | .kind value => s!"comment type out of range: {value}"
  | .operand value => s!"operand id out of range: {value}"

/-- Packs the three properties of a comment into a word. -/
def packFlags (repeatable kind operand : Int) : Except FlagError Nat :=
  if repeatable ≠ 0 ∧ repeatable ≠ 1 then .error (.repeatable repeatable)
  else if kind < 0 ∨ 7 < kind then .error (.kind kind)
  else if operand < 0 ∨ 0xFFFF < operand then .error (.operand operand)
  else .ok (repeatable.toNat + 2 * kind.toNat + 0x10000 * operand.toNat)

/-- The three properties that a word holds.  A negative number stands for its
two's complement bits. -/
structure Properties where
  repeatable : Nat
  kind : Nat
  operand : Nat
  deriving DecidableEq, Repr

/-- Unpacks the properties of a comment from a word. -/
def unpackFlags (flags : Int) : Properties where
  repeatable := (flags % 2).toNat
  kind := (flags / 2 % 8).toNat
  operand := (flags / 0x10000 % 0x10000).toNat

/-- The reserved bits of a word. -/
def reservedBits (flags : Int) : Int :=
  flags / 0x10 % 0x1000 * 0x10

/-- A comment's flag word.  The reserved bits are checked first. -/
def flags (comment : Comment) : Except FlagError Nat :=
  if reservedBits comment.reserved ≠ comment.reserved then .error (.reserved comment.reserved)
  else do
    let packed ← packFlags comment.repeatable comment.kind comment.operand
    return packed + comment.reserved.toNat

end Comment

end CodeGraph
