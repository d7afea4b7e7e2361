import CodeGraph.Text.Codes
import CodeGraph.Text.Hidden

/-!
# Quoted text

Text in quotes, with escapes for the characters that cannot be shown.  Single
quotes are used unless the text holds one and no double quote.
-/

namespace CodeGraph.Quoted

/-- A code of a fixed number of hexadecimal digits. -/
def codeDigits (width code : Nat) : List Char :=
  let shown := Nat.toDigits 16 code
  List.replicate (width - shown.length) '0' ++ shown

/-- A code point between the given quotes. -/
def escapeCode (quote : Char) (code : Nat) : List Char :=
  if code = quote.toNat ∨ code = '\x5c'.toNat then ['\x5c', Char.ofNat code]
  else if code = '\n'.toNat then ['\x5c', 'n']
  else if code = '\r'.toNat then ['\x5c', 'r']
  else if code = '\t'.toNat then ['\x5c', 't']
  else if !isHidden code then [Char.ofNat code]
  else if code < 0x100 then '\x5c' :: 'x' :: codeDigits 2 code
  else if code < 0x10000 then '\x5c' :: 'u' :: codeDigits 4 code
  else '\x5c' :: 'U' :: codeDigits 8 code

/-- The code points in quotes. -/
def quoteCodes (codes : Codes) : String :=
  let holds (quote : Char) : Bool := codes.contains quote.toNat
  let mark := if holds '\x27' && !holds '\x22' then '\x22' else '\x27'
  String.ofList (mark :: codes.flatMap (escapeCode mark) ++ [mark])

def quote (text : String) : String :=
  quoteCodes (Codes.ofString text)

end CodeGraph.Quoted
