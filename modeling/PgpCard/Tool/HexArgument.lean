import PgpCard.Text.Blank
import PgpCard.Text.Latin1
import PgpCard.Text.Utf8

/-!
# `PgpCard.Tool.HexArgument`: bytes given on the command line

Bytes are given as hexadecimal digits. Blanks around and between the digits do not count,
and neither do markers `0x` in front of them. What remains must be pairs of digits; where
it is not, positions are counted in bytes of what remains.
-/

set_option autoImplicit false

namespace PgpCard.HexArgument

/-- The text without the markers `0x` that it begins with. -/
def dropMarkers : List Char → List Char
  | '0' :: 'x' :: rest => dropMarkers rest
  | text => text

/-- What is left to be read as digits. -/
def digits (text : String) : List Char :=
  (dropMarkers (Text.trimBlanks text.toList)).filter (!Text.isBlank ·)

/-- The bytes that an argument spells. -/
def read (text : String) : Except Hex.Fault Bytes :=
  Hex.decode (Utf8.encode (String.ofList (digits text)))

/-- The complaint in words. -/
def message : Hex.Fault → String
  | .oddLength => "Odd number of digits"
  | .badDigit byte position => s!"Invalid character {Latin1.quoted byte} at position {position}"

end PgpCard.HexArgument
