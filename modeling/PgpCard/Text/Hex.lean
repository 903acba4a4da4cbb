import PgpCard.Bytes

/-!
# `PgpCard.Text.Hex`: byte strings as pairs of hexadecimal digits

A byte is written as two digits, high half first. `lower` and `upper` write a byte
string, in the two letter cases. `decode` reads one back from the bytes of a text and
takes either letter case.

A text is refused for one of two causes, and the parity of its length is looked at first:
an odd number of bytes is `oddLength` whatever the bytes are, and otherwise the first
byte that is not a digit is reported with its position.
-/

set_option autoImplicit false

namespace PgpCard

namespace Hex

/-- The digit for `n < 16`, with lowercase letters. -/
def lowerDigit (n : Nat) : Char :=
  if n < 10 then Char.ofNat (48 + n) else Char.ofNat (87 + n)

/-- The digit for `n < 16`, with uppercase letters. -/
def upperDigit (n : Nat) : Char :=
  if n < 10 then Char.ofNat (48 + n) else Char.ofNat (55 + n)

/-- The two digits of a byte, high half first. -/
def pair (digit : Nat → Char) (b : UInt8) : List Char :=
  [digit (b.toNat / 16), digit (b.toNat % 16)]

/-- A byte string in lowercase digits. -/
def lower (bytes : Bytes) : String :=
  String.ofList (bytes.flatMap (pair lowerDigit))

/-- A byte string in uppercase digits. -/
def upper (bytes : Bytes) : String :=
  String.ofList (bytes.flatMap (pair upperDigit))

/-- A number in lowercase digits without leading zeros. -/
def lowerNumber (n : Nat) : String :=
  String.ofList (Nat.toDigits 16 n)

/-- Why a text is no sequence of digit pairs. -/
inductive Fault where
  /-- The text has an odd number of bytes. -/
  | oddLength
  /-- The byte at `position` is no digit, and no byte before it is wrong. -/
  | badDigit (byte : UInt8) (position : Nat)
  deriving DecidableEq, Repr

/-- The value of a digit of either letter case, given as an ASCII code. -/
def digitValue? (b : UInt8) : Option UInt8 :=
  if 48 ≤ b ∧ b ≤ 57 then some (b - 48)
  else if 65 ≤ b ∧ b ≤ 70 then some (b - 55)
  else if 97 ≤ b ∧ b ≤ 102 then some (b - 87)
  else none

/-- The value of the digit at `position`, or the complaint about it. -/
def readDigit (position : Nat) (b : UInt8) : Except Fault UInt8 :=
  match digitValue? b with
  | some v => .ok v
  | none => .error (.badDigit b position)

/-- Reads digit pairs; `position` is the number of bytes before the text. -/
def decodeFrom (position : Nat) : Bytes → Except Fault Bytes
  | [] => .ok []
  | [_] => .error .oddLength
  | hi :: lo :: rest =>
    match readDigit position hi with
    | .error e => .error e
    | .ok h =>
      match readDigit (position + 1) lo with
      | .error e => .error e
      | .ok l =>
        match decodeFrom (position + 2) rest with
        | .error e => .error e
        | .ok bytes => .ok ((h * 16 + l) :: bytes)

/-- Reads a text of digit pairs. The length is checked before any digit. -/
def decode (text : Bytes) : Except Fault Bytes :=
  if text.length % 2 = 1 then .error .oddLength else decodeFrom 0 text

end Hex

end PgpCard
