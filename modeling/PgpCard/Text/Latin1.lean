import PgpCard.Text.Hex

/-!
# `PgpCard.Text.Latin1`: a byte in single quotes

A message that complains about one byte shows it as the Latin-1 character of that code,
in single quotes. Characters that would not show are escaped: a few by a letter, all other
controls, the no-break space and the soft hyphen by their code.
-/

set_option autoImplicit false

namespace PgpCard.Latin1

/-- The Latin-1 character of this code has no visible form: it is a control, the no-break
space or the soft hyphen. -/
def isInvisible (b : UInt8) : Bool :=
  b < 0x20 || (0x7F ≤ b && b ≤ 0xA0) || b == 0xAD

/-- A code in braces after `\u`. -/
def codeEscape (b : UInt8) : String :=
  "\\u\x7b" ++ Hex.lowerNumber b.toNat ++ "\x7d"

/-- The byte as it stands between the quotes. -/
def escape (b : UInt8) : String :=
  match b.toNat with
  | 0x00 => "\\0"
  | 0x09 => "\\t"
  | 0x0A => "\\n"
  | 0x0D => "\\r"
  | 0x27 => "\\'"
  | 0x5C => "\\\\"
  | n => if isInvisible b then codeEscape b else String.singleton (Char.ofNat n)

/-- The byte as a quoted Latin-1 character. -/
def quoted (b : UInt8) : String := "'" ++ escape b ++ "'"

end PgpCard.Latin1
