import PgpCard.Text.Hex

/-!
# `PgpCard.Text.Utf8`: text as bytes, and bytes as text

`encode` writes a text as UTF-8. `decodeLossy` reads any byte string: where the bytes are
no UTF-8, it puts one replacement character U+FFFD for each maximal invalid subpart, that
is, for each longest run of bytes that begins some well-formed sequence, and for each
byte that begins none.

The decoder is a state machine over single bytes. Between two characters it has no
pending sequence. Inside one it knows how many continuation bytes are missing, in which
range the next of them must lie, and the value so far. The range is narrower than
`80 … BF` only for the first continuation byte after `E0`, `ED`, `F0` and `F4`: that is
what excludes overlong forms, surrogates and values above U+10FFFF. A byte outside the
range ends the sequence with one U+FFFD and is then looked at again as a first byte.
-/

set_option autoImplicit false

namespace PgpCard.Utf8

/-- The UTF-8 bytes of a text. -/
def encode (text : String) : Bytes :=
  text.toList.flatMap String.utf8EncodeChar

/-- U+FFFD, which stands for bytes that are no text. -/
def replacement : Char := Char.ofNat 0xFFFD

/-- A sequence whose first byte has been read. -/
structure Pending where
  /-- Continuation bytes that come after the next one. -/
  more : Nat
  /-- Least value of the next byte. -/
  low : UInt8
  /-- Greatest value of the next byte. -/
  high : UInt8
  /-- Payload bits read so far. -/
  value : Nat
  deriving DecidableEq, Repr

/-- What a byte between two characters does: a character of its own, the start of a
sequence, or neither. -/
inductive Lead where
  | char (c : Char)
  | opens (p : Pending)
  | invalid
  deriving DecidableEq, Repr

/-- Classifies a first byte. -/
def lead (b : UInt8) : Lead :=
  if b < 0x80 then .char (Char.ofNat b.toNat)
  else if b < 0xC2 then .invalid
  else if b < 0xE0 then .opens ⟨0, 0x80, 0xBF, b.toNat - 0xC0⟩
  else if b = 0xE0 then .opens ⟨1, 0xA0, 0xBF, 0⟩
  else if b = 0xED then .opens ⟨1, 0x80, 0x9F, 0xD⟩
  else if b < 0xF0 then .opens ⟨1, 0x80, 0xBF, b.toNat - 0xE0⟩
  else if b = 0xF0 then .opens ⟨2, 0x90, 0xBF, 0⟩
  else if b < 0xF4 then .opens ⟨2, 0x80, 0xBF, b.toNat - 0xF0⟩
  else if b = 0xF4 then .opens ⟨2, 0x80, 0x8F, 4⟩
  else .invalid

/-- Decodes from a state between two bytes. Input that ends inside a sequence leaves one
replacement character. -/
def decodeFrom : Option Pending → Bytes → List Char
  | none, [] => []
  | some _, [] => [replacement]
  | none, b :: rest =>
    match lead b with
    | .char c => c :: decodeFrom none rest
    | .opens p => decodeFrom (some p) rest
    | .invalid => replacement :: decodeFrom none rest
  | some p, b :: rest =>
    if p.low ≤ b ∧ b ≤ p.high then
      let value := p.value * 64 + (b.toNat - 0x80)
      match p.more with
      | 0 => Char.ofNat value :: decodeFrom none rest
      | more + 1 => decodeFrom (some ⟨more, 0x80, 0xBF, value⟩) rest
    else
      match lead b with
      | .char c => replacement :: c :: decodeFrom none rest
      | .opens p => replacement :: decodeFrom (some p) rest
      | .invalid => replacement :: replacement :: decodeFrom none rest

/-- The characters of a byte string, with U+FFFD for each maximal invalid subpart. -/
def decodeLossy (bytes : Bytes) : List Char :=
  decodeFrom none bytes

end PgpCard.Utf8
