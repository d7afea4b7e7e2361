import CodeGraph.Text.Hex

/-!
# JSON values

The plain data that events carry and that reports can be printed as.  Objects
keep the order of their members.
-/

namespace CodeGraph

/-- A JSON value.  A number that is no integer is kept as its text. -/
inductive JsonValue
  | null
  | truth (value : Bool)
  | integer (value : Int)
  | decimal (digits : String)
  | text (value : String)
  | list (items : List JsonValue)
  | object (members : List (String × JsonValue))
  deriving Repr, Inhabited

namespace JsonValue

/-- The value of an integer that may be absent. -/
def ofInteger? (value : Option Int) : JsonValue :=
  (value.map integer).getD null

/-- The value of a text that may be absent. -/
def ofText? (value : Option String) : JsonValue :=
  (value.map text).getD null

/-- A character inside of a quoted text. -/
def escape (character : Char) : List Char :=
  match character with
  | '\x22' => ['\x5c', '\x22']
  | '\x5c' => ['\x5c', '\x5c']
  | '\n' => ['\x5c', 'n']
  | '\r' => ['\x5c', 'r']
  | '\t' => ['\x5c', 't']
  | '\x08' => ['\x5c', 'b']
  | '\x0c' => ['\x5c', 'f']
  | other =>
      if other.toNat < 0x20 then
        ['\x5c', 'u', '0', '0'] ++ Hex.byteDigits (UInt8.ofNat other.toNat)
      else [other]

def quote (text : String) : String :=
  String.ofList ('\x22' :: text.toList.flatMap escape ++ ['\x22'])

/-- Lines moved to the right. -/
def indent (lines : List String) : List String :=
  lines.map ("  " ++ ·)

/-- A comma behind every item but the last. -/
def separate : List (List String) → List String
  | [] => []
  | [last] => last
  | item :: rest => item.dropLast ++ item.getLast?.toList.map (· ++ ",") ++ separate rest

/-- Puts the name of a member in front of its lines. -/
def label (name : String) : List String → List String
  | [] => []
  | first :: rest => (quote name ++ ": " ++ first) :: rest

mutual

/-- The lines of a value, two blanks further right at each level. -/
def lines : JsonValue → List String
  | null => ["null"]
  | truth value => [if value then "true" else "false"]
  | integer value => [toString value]
  | decimal digits => [digits]
  | text value => [quote value]
  | list items =>
      if items.isEmpty then ["[]"] else "[" :: indent (separate (itemLines items)) ++ ["]"]
  | object members =>
      if members.isEmpty then ["\x7b\x7d"]
      else "\x7b" :: indent (separate (memberLines members)) ++ ["\x7d"]

def itemLines : List JsonValue → List (List String)
  | [] => []
  | first :: rest => lines first :: itemLines rest

def memberLines : List (String × JsonValue) → List (List String)
  | [] => []
  | (name, value) :: rest => label name (lines value) :: memberLines rest

end

mutual

/-- The text of a value on one line, with texts quoted in the given way. -/
def lineBy (quoted : String → String) : JsonValue → String
  | null => "null"
  | truth value => if value then "true" else "false"
  | integer value => toString value
  | decimal digits => digits
  | text value => quoted value
  | list items => "[" ++ ", ".intercalate (itemTexts quoted items) ++ "]"
  | object members => "\x7b" ++ ", ".intercalate (memberTexts quoted members) ++ "\x7d"

def itemTexts (quoted : String → String) : List JsonValue → List String
  | [] => []
  | first :: rest => lineBy quoted first :: itemTexts quoted rest

def memberTexts (quoted : String → String) : List (String × JsonValue) → List String
  | [] => []
  | (name, value) :: rest =>
      (quoted name ++ ": " ++ lineBy quoted value) :: memberTexts quoted rest

end

/-- The text of a value on one line. -/
def line : JsonValue → String :=
  lineBy quote

/-- The text of a value, one line per item. -/
def render (value : JsonValue) : String :=
  "\n".intercalate (lines value)

end JsonValue

end CodeGraph
