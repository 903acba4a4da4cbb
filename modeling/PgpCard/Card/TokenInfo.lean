import PgpCard.Text.Hex
import PgpCard.Text.Utf8
import PgpCard.Token

/-!
# `PgpCard.Card.TokenInfo`: what a token reports about itself

`TokenInfo` is a snapshot for people. The serial number is bytes 10 to 13 of the
application identifier. `holderName` reads the name out of the cardholder related data:
the fourth byte counts the bytes of the name, which follow it, and the filler `<` between
its parts becomes a space. Data that ends too early has an empty name.

The card sends the fingerprints of its keys as one block. `Fingerprint.split` takes such a
block apart, and `Fingerprint.at?` looks up one position in it.
-/

set_option autoImplicit false

namespace PgpCard

/-- What a token reports about itself. -/
structure TokenInfo where
  kind : LinkKind
  tokenType : TokenType
  /-- The fingerprints of the key slots, in their order. -/
  fingerprints : List Bytes
  aid : Bytes
  holder : String
  url : String
  pw1Retries : UInt8
  pw3Retries : UInt8
  managesLifeCycle : Bool
  deriving DecidableEq, Repr

namespace TokenInfo

/-- The serial number in the application identifier, if that is long enough. -/
def serialNumber? (info : TokenInfo) : Option String :=
  let serial := (info.aid.drop 10).take 4
  if serial.length = 4 then some (Hex.upper serial) else none

/-- The text with the filler `<` as a space. -/
def fillerToSpace (name : List Char) : List Char :=
  name.map fun c => if c = '<' then ' ' else c

/-- The name in the cardholder related data. -/
def holderName : Bytes → String
  | _ :: _ :: _ :: length :: rest =>
    let name := rest.take length.toNat
    if name.length = length.toNat then
      String.ofList (fillerToSpace (Utf8.decodeLossy name))
    else ""
  | _ => ""

end TokenInfo

namespace Fingerprint

/-- The number of bytes of one fingerprint. -/
def length : Nat := 20

/-- The fingerprints in a block of them; bytes too few for one more are left out. -/
def split (block : Bytes) : List Bytes :=
  match h : Bytes.cut? length block with
  | none => []
  | some (one, rest) =>
    have : rest.length + length = block.length := Bytes.length_cut? h
    one :: split rest
termination_by block.length
decreasing_by
  simp only [length] at *
  omega

/-- The fingerprint at a position of a block, if the block reaches that far. -/
def at? (block : Bytes) (position : Nat) : Option Bytes :=
  let one := (block.drop (position * length)).take length
  if one.length = length then some one else none

end Fingerprint

end PgpCard
