import PgpCard.Tlv.Reader
import PgpCard.Card.Capabilities

/-!
# `PgpCard.Card.ApplicationData`: what the OpenPGP application says about itself

The application related data of an OpenPGP card is a set of data objects: the application
identifier (`4F`), the historical bytes (`5F52`), the extended capabilities (`C0`), the PW
status bytes (`C4`) and the fingerprints of the keys (`C5`). Cards differ in the templates
they put around these, so each is looked for by its tag, through all templates, and the
first one in document order counts. Only the historical bytes are required.
-/

set_option autoImplicit false

namespace PgpCard

/-- The secure messaging algorithm that the extended capabilities name. -/
inductive SecureMessagingScheme where
  | aes128
  | aes256
  /-- GlobalPlatform SCP11b. -/
  | scp11b
  /-- An algorithm byte without a known meaning. -/
  | other (id : UInt8)
  deriving DecidableEq, Repr

namespace SecureMessagingScheme

/-- The scheme of an algorithm byte. -/
def ofId (id : UInt8) : SecureMessagingScheme :=
  if id = 1 then .aes128
  else if id = 2 then .aes256
  else if id = 3 then .scp11b
  else .other id

/-- The scheme as it is named in output. -/
def name : SecureMessagingScheme → String
  | .aes128 => "AES-128"
  | .aes256 => "AES-256"
  | .scp11b => "SCP11b"
  | .other id => s!"unknown (0x{Hex.lower [id]})"

end SecureMessagingScheme

/-- The application related data of an OpenPGP card. -/
structure ApplicationData where
  /-- The application identifier, empty when the card gives none. -/
  aid : Bytes
  historicalBytes : Bytes
  /-- What the historical bytes say. -/
  card : CardCapabilities
  /-- The first two extended capability bytes: flags and secure messaging algorithm. -/
  extended : Option (UInt8 × UInt8)
  pinStatus : Option Bytes
  /-- The fingerprints of all keys, one after another. -/
  fingerprints : Option Bytes
  deriving DecidableEq, Repr

namespace ApplicationData

/-- Tag of the application identifier. -/
def aidTag : Bytes := [0x4F]

/-- Tag of the historical bytes. -/
def historicalBytesTag : Bytes := [0x5F, 0x52]

/-- Tag of the extended capabilities. -/
def extendedTag : Bytes := [0xC0]

/-- Tag of the PW status bytes. -/
def pinStatusTag : Bytes := [0xC4]

/-- Tag of the fingerprints. -/
def fingerprintsTag : Bytes := [0xC5]

/-- The first two bytes, if there are two. -/
def firstTwo : Bytes → Option (UInt8 × UInt8)
  | a :: b :: _ => some (a, b)
  | _ => none

/-- Collects the application related data from its data objects. -/
def ofObjects (objects : List Tlv) : Except DataFault ApplicationData :=
  match Tlv.findAmong? historicalBytesTag objects with
  | none => .error .missingHistoricalBytes
  | some historicalBytes =>
    match CardCapabilities.ofHistoricalBytes historicalBytes with
    | .error e => .error e
    | .ok card =>
      .ok {
        aid := (Tlv.findAmong? aidTag objects).getD []
        historicalBytes
        card
        extended := (Tlv.findAmong? extendedTag objects).bind firstTwo
        pinStatus := Tlv.findAmong? pinStatusTag objects
        fingerprints := Tlv.findAmong? fingerprintsTag objects }

/-- Reads the application related data as the card sends it. -/
def decode (data : Bytes) : Except DataFault ApplicationData :=
  match Tlv.read data with
  | [] => .error .emptyApplicationData
  | objects => ofObjects objects

/-- One of the flags of the extended capabilities is set. -/
def hasFlag (a : ApplicationData) (flag : UInt8) : Bool :=
  match a.extended with
  | some (flags, _) => flags &&& flag != 0
  | none => false

/-- The secure messaging scheme, if the card offers secure messaging. -/
def scheme? (a : ApplicationData) : Option SecureMessagingScheme :=
  match a.extended with
  | some (flags, id) => if flags &&& 0x80 != 0 then some (.ofId id) else none
  | none => none

/-- The card offers secure messaging by SCP11b. -/
def offersScp11b (a : ApplicationData) : Bool := a.scheme? == some .scp11b

/-- The card has a GET CHALLENGE command. -/
def hasGetChallenge (a : ApplicationData) : Bool := a.hasFlag 0x40

/-- Keys can be imported. -/
def hasKeyImport (a : ApplicationData) : Bool := a.hasFlag 0x20

/-- The signature policy byte of the PW status bytes can be changed. -/
def pinStatusChangeable (a : ApplicationData) : Bool := a.hasFlag 0x10

/-- One verification of the signature PIN is good for several signatures: the first PW
status byte is `01`. -/
def multipleSignatures (a : ApplicationData) : Bool :=
  match a.pinStatus with
  | some (policy :: _) => policy == 1
  | _ => false

end ApplicationData

end PgpCard
