import PgpCard.Text.Hex
import PgpCard.Card.DataFault

/-!
# `PgpCard.Card.Capabilities`: what the historical bytes say about framing

The historical bytes of a card (ISO/IEC 7816-4) are a category byte `00`, compact-TLV
objects, and three status bytes. A compact-TLV object is one header byte and as many
value bytes as its low half says. The object with header `73` holds the card
capabilities: in its third value byte, bit 8 stands for command chaining and bit 7 for
extended lengths. Of several such objects the last one counts. The first status byte is
the life cycle status, where zero means that the card does not manage one.
-/

set_option autoImplicit false

namespace PgpCard

/-- A compact-TLV object: the header tells the tag and the length of the value. -/
structure CompactObject where
  header : UInt8
  value : Bytes
  deriving DecidableEq, Repr

namespace CompactObject

/-- The number of value bytes that a header announces. -/
def lengthOf (header : UInt8) : Nat := header.toNat % 16

/-- Splits a byte string into objects, if it is a sequence of objects. -/
def readAll : Bytes → Option (List CompactObject)
  | [] => some []
  | header :: rest =>
    match h : Bytes.cut? (lengthOf header) rest with
    | none => none
    | some (value, rest') =>
      have : rest'.length + lengthOf header = rest.length := Bytes.length_cut? h
      (readAll rest').map (⟨header, value⟩ :: ·)
termination_by bytes => bytes.length

end CompactObject

/-- What the card can do beyond short unchained commands. The default is the safe
baseline for a card that has not been asked yet. -/
structure CardCapabilities where
  /-- Commands may be split into a chain of segments. -/
  chaining : Bool := false
  /-- Extended length fields are understood. -/
  extendedLength : Bool := false
  /-- The life cycle status byte, zero when there is none. -/
  lifeCycleStatus : UInt8 := 0
  deriving DecidableEq, Repr

namespace CardCapabilities

/-- Short commands only, no chains. -/
def baseline : CardCapabilities := {}

/-- The card reports a life cycle status. -/
def managesLifeCycle (c : CardCapabilities) : Bool := c.lifeCycleStatus != 0

/-- The header of the card capabilities object: tag 7, three bytes. -/
def header : UInt8 := 0x73

/-- The third byte of the last card capabilities object, zero when there is none. -/
def flags (objects : List CompactObject) : UInt8 :=
  match objects.reverse.find? (·.header == header) with
  | some o => o.value.getD 2 0
  | none => 0

/-- The capabilities that objects and a life cycle status byte stand for. -/
def ofObjects (objects : List CompactObject) (lifeCycleStatus : UInt8) : CardCapabilities where
  chaining := flags objects &&& 0x80 != 0
  extendedLength := flags objects &&& 0x40 != 0
  lifeCycleStatus := lifeCycleStatus

/-- Reads the historical bytes of a card. -/
def ofHistoricalBytes : Bytes → Except DataFault CardCapabilities
  | [] => .error .emptyHistoricalBytes
  | category :: rest =>
    if category ≠ 0 then .error .unknownCategory
    else match rest.drop (rest.length - 3) with
      | [lifeCycleStatus, _, _] =>
        match CompactObject.readAll (rest.take (rest.length - 3)) with
        | some objects => .ok (ofObjects objects lifeCycleStatus)
        | none => .error .truncatedObject
      | _ => .error .missingStatusIndicator

end CardCapabilities

end PgpCard
