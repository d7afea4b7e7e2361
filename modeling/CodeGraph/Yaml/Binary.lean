import CodeGraph.Bytes
import CodeGraph.Text.Codes

/-!
# Bytes as text

Three bytes are written with four characters, each of which stands for six bits.
-/

namespace CodeGraph.Yaml

/-- The six bits that a character stands for. -/
def sextet? (character : Char) : Option Nat :=
  let code := character.toNat
  if 'A' ≤ character ∧ character ≤ 'Z' then some (code - 'A'.toNat)
  else if 'a' ≤ character ∧ character ≤ 'z' then some (code - 'a'.toNat + 26)
  else if character.isDigit then some (code - '0'.toNat + 52)
  else if character = '+' then some 62
  else if character = '/' then some 63
  else none

/-- The bytes of a text that has three in four characters.  Other characters are
passed over.  `place` counts characters in a group, `left` holds the bits that
are left over, and `padding` counts the pads behind a group. -/
def binaryFrom (place left padding : Nat) : List Char → Option Bytes
  | [] => if place = 0 then some [] else none
  | '=' :: rest =>
      if 2 ≤ place ∧ 4 ≤ place + padding + 1 then some []
      else binaryFrom place left (if 2 ≤ place then padding + 1 else padding) rest
  | character :: rest =>
      match sextet? character with
      | none => binaryFrom place left padding rest
      | some bits =>
          let total := 64 * left + bits
          match place with
          | 0 => binaryFrom 1 bits 0 rest
          | 1 => (binaryFrom 2 (total % 16) 0 rest).map (UInt8.ofNat (total / 16) :: ·)
          | 2 => (binaryFrom 3 (total % 4) 0 rest).map (UInt8.ofNat (total / 4) :: ·)
          | _ => (binaryFrom 0 0 0 rest).map (UInt8.ofNat total :: ·)

/-- The bytes that a text stands for; it is written in ASCII. -/
def binary? (text : Codes) : Option Bytes :=
  if text.all (· < 0x80) then binaryFrom 0 0 0 (text.map Char.ofNat) else none

end CodeGraph.Yaml
