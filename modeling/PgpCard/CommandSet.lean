import PgpCard.Apdu.Command
import PgpCard.Pin

/-!
# `PgpCard.CommandSet`: the commands of an OpenPGP card

`CommandSet` is the vocabulary of a token: which command selects the application, which
one verifies a PIN, and so on, and how a command is brought into short form or split into
a chain. `standard` is the vocabulary of OpenPGP card 3.x. A token that differs is a
record that differs in some fields.

A chain splits the data into segments of 255 bytes. All segments but the last have the
chaining bit in their class byte and ask for no answer; the last one has the class byte
and the expected length of the command, the latter clamped to 256.
-/

set_option autoImplicit false

namespace PgpCard

namespace Ins

/-- SELECT. -/
def select : UInt8 := 0xA4

/-- GET DATA. -/
def getData : UInt8 := 0xCA

/-- GET RESPONSE. -/
def getResponse : UInt8 := 0xC0

/-- VERIFY. -/
def verify : UInt8 := 0x20

/-- PERFORM SECURITY OPERATION. -/
def securityOperation : UInt8 := 0x2A

end Ins

/-- A tag of a data object for GET DATA, as its two parameter bytes. -/
structure ObjectTag where
  p1 : UInt8
  p2 : UInt8
  deriving DecidableEq, Repr

namespace ObjectTag

/-- The tag as a 16-bit number. -/
def toNat (t : ObjectTag) : Nat := t.p1.toNat * 256 + t.p2.toNat

/-- Application related data. -/
def applicationData : ObjectTag := ⟨0x00, 0x6E⟩

/-- Cardholder related data. -/
def cardholder : ObjectTag := ⟨0x00, 0x65⟩

/-- Where to find the public key. -/
def url : ObjectTag := ⟨0x5F, 0x50⟩

end ObjectTag

namespace Aid

/-- The OpenPGP application. -/
def openPgp : Bytes := [0xD2, 0x76, 0x00, 0x01, 0x24, 0x01]

/-- What the identifiers of all Fidesmo applications begin with. -/
def fidesmo : Bytes := [0xA0, 0x00, 0x00, 0x06, 0x17]

end Aid

namespace Command

/-- SELECT by an application identifier or the beginning of one. -/
def select (aid : Bytes) : Command :=
  { cla := 0x00, ins := Ins.select, p1 := 0x04, p2 := 0x00, data := some aid }

/-- GET DATA of one object, however long it is. -/
def getData (tag : ObjectTag) : Command :=
  { cla := 0x00, ins := Ins.getData, p1 := tag.p1, p2 := tag.p2, le := some maxExtendedNe }

/-- GET RESPONSE for the bytes that SW2 announces. -/
def getResponse (sw2 : UInt8) : Command :=
  { cla := 0x00, ins := Ins.getResponse, p1 := 0x00, p2 := 0x00, le := some (shortLe sw2) }

/-- VERIFY of a PIN for one class. -/
def verify (cls : PinClass) (pin : Bytes) : Command :=
  { cla := 0x00, ins := Ins.verify, p1 := 0x00, p2 := cls.reference, data := some pin }

/-- PSO:COMPUTE DIGITAL SIGNATURE. -/
def sign (digestInfo : Bytes) : Command :=
  { cla := 0x00, ins := Ins.securityOperation, p1 := 0x9E, p2 := 0x9A,
    data := some digestInfo, le := some maxExtendedNe }

/-- PSO:DECIPHER. A zero byte before the data names the RSA padding. -/
def decipher (encrypted : Bytes) : Command :=
  { cla := 0x00, ins := Ins.securityOperation, p1 := 0x80, p2 := 0x86,
    data := some (0x00 :: encrypted), le := some maxExtendedNe }

/-- The data fits a short command. -/
def fitsShort (c : Command) : Bool := decide (c.nc ≤ maxShortNc)

/-- The command with its expected length clamped to 256. -/
def toShort (c : Command) : Command :=
  { c with le := c.le.map (min · maxShortNe) }

/-- One segment that announces a further one. -/
def segment (c : Command) (data : Bytes) : Command :=
  { c with cla := c.cla ||| chainingBit, data := some data, le := none }

/-- The segments for the data of a command; `short` is the command clamped. -/
def segments (short : Command) (data : Bytes) : List Command :=
  let rest := data.drop maxShortNc
  if rest = [] then [{ short with data := some data }]
  else short.segment (data.take maxShortNc) :: segments short rest
termination_by data.length
decreasing_by
  simp_all only [rest, List.drop_eq_nil_iff, List.length_drop, maxShortNc]
  omega

/-- The command as a chain of short commands: itself, clamped, when the data fits. -/
def chain (c : Command) : List Command :=
  if c.nc ≤ maxShortNc then [c.toShort] else segments c.toShort c.payload

end Command

/-- The commands that a token understands. -/
structure CommandSet where
  selectApplication : Command := .select Aid.openPgp
  /-- Selects by identifier. -/
  select : Bytes → Command := .select
  getData : ObjectTag → Command := .getData
  /-- Fetches the bytes that SW2 announces. -/
  getResponse : UInt8 → Command := .getResponse
  verify : PinClass → Bytes → Command := .verify
  sign : Bytes → Command := .sign
  /-- Deciphers a session key. -/
  decipher : Bytes → Command := .decipher
  /-- Whether a command can go out as one short command. -/
  fitsShort : Command → Bool := Command.fitsShort
  toShort : Command → Command := .toShort
  chain : Command → List Command := Command.chain

/-- The commands of OpenPGP card 3.x. -/
def CommandSet.standard : CommandSet := {}

end PgpCard
