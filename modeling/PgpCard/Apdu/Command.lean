import PgpCard.Text.Hex

/-!
# `PgpCard.Apdu.Command`: command APDUs and their two encodings

A command is a header of four bytes, an optional data field (of Nc bytes) and an optional
expected length of the answer (Ne). ISO/IEC 7816-4 encodes it in short form, with one
byte for each length, or in extended form. `encode` takes the short form whenever both
lengths fit it, and `decode` reads either form.

`encode` does not check anything: it writes each length modulo the width of its field, so
a full length (256 short, 65536 extended) becomes zero, which is how the standard writes
it. `check` says which commands are encoded faithfully.

Absent data and empty data are different values with the same encoding.
-/

set_option autoImplicit false

namespace PgpCard

/-- A command to the card, before any choice of encoding. -/
structure Command where
  cla : UInt8
  ins : UInt8
  p1 : UInt8
  p2 : UInt8
  /-- The data field, if there is one. -/
  data : Option Bytes := none
  /-- The expected length of the answer (Ne), if an answer is asked for. -/
  le : Option Nat := none
  deriving DecidableEq, Repr

/-- What is wrong with a command or with its encoding. -/
inductive CommandFault where
  /-- An encoding of `length` bytes that is none of the standard's forms. -/
  | invalidLength (length : Nat)
  /-- More data than an extended length field can count. -/
  | dataTooLong (length limit : Nat)
  /-- An expected length of zero, or more than an extended length field can ask for. -/
  | expectedLengthOutOfRange (le : Nat)
  deriving DecidableEq, Repr

/-- The complaint in words. -/
def CommandFault.message : CommandFault → String
  | .invalidLength n => s!"Invalid command length: {n}"
  | .dataTooLong n limit => s!"Data too long: {n} bytes (max {limit})"
  | .expectedLengthOutOfRange le => s!"Expected length out of range: {le}"

/-- The complaint as a name for machines. -/
def CommandFault.label : CommandFault → String
  | .invalidLength _ => "Command.InvalidLength"
  | .dataTooLong _ _ => "Command.DataTooLong"
  | .expectedLengthOutOfRange _ => "Command.ExpectedLengthOutOfRange"

namespace Command

/-- The largest data field in short form. -/
def maxShortNc : Nat := 255

/-- The largest expected length in short form. -/
def maxShortNe : Nat := 256

/-- The largest data field in extended form. -/
def maxExtendedNc : Nat := 65535

/-- The largest expected length in extended form. -/
def maxExtendedNe : Nat := 65536

/-- The bit of the class byte that announces a further segment of the same command. -/
def chainingBit : UInt8 := 0x10

/-- The data, empty when there is none. -/
def payload (c : Command) : Bytes := c.data.getD []

/-- The number of data bytes (Nc). -/
def nc (c : Command) : Nat := c.payload.length

/-- The expected length (Ne), zero when absent. -/
def ne (c : Command) : Nat := c.le.getD 0

/-- One of the two lengths does not fit the short form. -/
def isExtended (c : Command) : Bool :=
  decide (maxShortNc < c.nc) || decide (maxShortNe < c.ne)

/-- Refuses a command that the extended form cannot hold; the data is looked at first. -/
def check (c : Command) : Except CommandFault Unit :=
  if maxExtendedNc < c.nc then .error (.dataTooLong c.nc maxExtendedNc)
  else match c.le with
    | none => .ok ()
    | some le =>
      if le = 0 ∨ maxExtendedNe < le then .error (.expectedLengthOutOfRange le) else .ok ()

/-- A number in two bytes, high byte first, modulo 65536. -/
def twoBytes (n : Nat) : Bytes := [UInt8.ofNat (n / 256), UInt8.ofNat n]

/-- The encoded length of the data field: its count, and then the data. -/
def dataLength (c : Command) : Nat :=
  if c.nc = 0 then 0 else if c.isExtended then 3 + c.nc else 1 + c.nc

/-- The encoded length of the expected length. In extended form a zero byte marks the
form where no data field has done so. -/
def leLength (c : Command) : Nat :=
  match c.le with
  | none => 0
  | some _ => if c.isExtended then (if c.nc = 0 then 3 else 2) else 1

/-- The number of bytes of the encoding, counted without encoding. -/
def encodedLength (c : Command) : Nat := 4 + c.dataLength + c.leLength

/-- The data field as encoded; an empty one leaves nothing. -/
def encodeData (c : Command) : Bytes :=
  if c.nc = 0 then []
  else if c.isExtended then 0x00 :: (twoBytes c.nc ++ c.payload)
  else UInt8.ofNat c.nc :: c.payload

/-- The expected length as encoded. -/
def encodeLe (c : Command) : Bytes :=
  match c.le with
  | none => []
  | some le =>
    if c.isExtended then (if c.nc = 0 then 0x00 :: twoBytes le else twoBytes le)
    else [UInt8.ofNat le]

/-- The frame that is sent for a command. -/
def encode (c : Command) : Bytes :=
  [c.cla, c.ins, c.p1, c.p2] ++ c.encodeData ++ c.encodeLe

/-- An expected length in one byte; zero stands for 256. -/
def shortLe (b : UInt8) : Nat := if b = 0 then maxShortNe else b.toNat

/-- An expected length in two bytes; zero stands for 65536. -/
def extendedLe (hi lo : UInt8) : Nat :=
  let n := hi.toNat * 256 + lo.toNat
  if n = 0 then maxExtendedNe else n

/-- What follows the header: the data field and the expected length. -/
abbrev Body := Option Bytes × Option Nat

/-- Reads what follows the count `nc` of a short data field. -/
def decodeShortBody (nc : Nat) (rest : Bytes) : Option Body :=
  match rest.drop nc with
  | [] => if rest.length = nc then some (some rest, none) else none
  | [le] => some (some (rest.take nc), some (shortLe le))
  | _ => none

/-- Reads what follows the count `nc` of an extended data field. -/
def decodeExtendedBody (nc : Nat) (rest : Bytes) : Option Body :=
  if nc = 0 then none
  else match rest.drop nc with
    | [] => if rest.length = nc then some (some rest, none) else none
    | [hi, lo] => some (some (rest.take nc), some (extendedLe hi lo))
    | _ => none

/-- Reads the bytes after the header. One byte is an expected length; a first byte that
is not zero counts a short data field; a zero byte opens the extended form, in which two
more bytes are an expected length and otherwise count a data field. -/
def decodeBody : Bytes → Option Body
  | [] => some (none, none)
  | [le] => some (none, some (shortLe le))
  | first :: rest =>
    if first ≠ 0 then decodeShortBody first.toNat rest
    else match rest with
      | [hi, lo] => some (none, some (extendedLe hi lo))
      | hi :: lo :: tail => decodeExtendedBody (hi.toNat * 256 + lo.toNat) tail
      | _ => none

/-- Reads an encoded command. Anything that is none of the standard's forms is refused by
its length, whatever is wrong with it. -/
def decode (frame : Bytes) : Except CommandFault Command :=
  match frame with
  | cla :: ins :: p1 :: p2 :: body =>
    match decodeBody body with
    | some (data, le) => .ok { cla, ins, p1, p2, data, le }
    | none => .error (.invalidLength frame.length)
  | _ => .error (.invalidLength frame.length)

end Command

end PgpCard
