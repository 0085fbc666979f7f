import StructuralProducts.Text.Printable
import StructuralProducts.Text.Extending

namespace StructuralProducts
namespace Text

/-!
# Quoted text

Displayed strings and characters stand between quotation marks.  A character
that could be misread there is written as an escape: the five that have a short
form of their own, the mark that closes the quotation, and, by code point, every
character that is not printable or that would attach itself to the character
before it.  All other characters stand for themselves, whatever their script.
-/

/-- The lower-case hexadecimal digits of a number, without padding. -/
def hexadecimal (code : Nat) : String :=
  String.ofList (Nat.toDigits 16 code)

/-- One character inside a quotation that the given mark closes. -/
def quotedChar (mark character : Char) : String :=
  if character = '\x00' then "\\0"
  else if character = '\t' then "\\t"
  else if character = '\r' then "\\r"
  else if character = '\n' then "\\n"
  else if character = '\\' then "\\\\"
  else if character = mark then String.ofList ['\\', mark]
  else if attachesToPrevious character || !isPrintable character then
    "\\u\x7b" ++ hexadecimal character.toNat ++ "\x7d"
  else character.toString

/-- A string between double quotation marks. -/
def quotedString (text : String) : String :=
  "\"" ++ String.join (text.toList.map (quotedChar '"')) ++ "\""

/-- A character between single quotation marks. -/
def quotedCharacter (character : Char) : String :=
  "'" ++ quotedChar '\'' character ++ "'"

end Text
end StructuralProducts
