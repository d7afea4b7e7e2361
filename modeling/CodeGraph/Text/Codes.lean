/-!
# Text as code points

A text that is spelled with escapes may hold surrogates, which no encoding
carries.  Such a text is a list of code points, and only some of them are text in
the strict sense.
-/

namespace CodeGraph

/-- Text as code points, with surrogates among them. -/
abbrev Codes := List Nat

namespace Codes

/-- The code points of a text. -/
def ofChars (text : List Char) : Codes :=
  text.map Char.toNat

/-- The code points of a text. -/
def ofString (text : String) : Codes :=
  ofChars text.toList

/-- The character of a code point; a surrogate is none. -/
def char? (code : Nat) : Option Char :=
  if code.isValidChar then some (Char.ofNat code) else none

/-- The characters of code points without surrogates. -/
def chars? (codes : Codes) : Option (List Char) :=
  codes.mapM char?

/-- The text of code points without surrogates. -/
def string? (codes : Codes) : Option String :=
  (chars? codes).map String.ofList

end Codes

end CodeGraph
