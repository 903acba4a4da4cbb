import PgpCard.Text.Hex

/-!
# `PgpCard.Tlv.Basic`: BER-TLV data objects

A data object is a tag with either a value of its own (primitive) or further objects
(constructed, also called a template). A tag is one to three bytes: one, or a first byte
whose low five bits are all set followed by bytes up to the first below `80`. Bit 6 of the
first byte tells the two kinds apart.

`contentSize` and `size` count the bytes of an object with every length in its shortest
form. `find?` looks for a primitive object in document order, through all templates.
-/

set_option autoImplicit false

namespace PgpCard

/-- A BER-TLV data object. -/
inductive Tlv where
  | primitive (tag : Bytes) (value : Bytes)
  | constructed (tag : Bytes) (children : List Tlv)

namespace Tlv

/-- The bytes of the shortest form of a length. -/
def lengthSize (n : Nat) : Nat :=
  if n < 0x80 then 1
  else if n < 0x100 then 2
  else if n < 0x10000 then 3
  else if n < 0x1000000 then 4
  else 5

/-- The bytes of an object with this tag and this much content. -/
def sizeOf (tag : Bytes) (content : Nat) : Nat :=
  tag.length + lengthSize content + content

/-- The tag of a template has bit 6 of its first byte set. -/
def isTemplateTag : Bytes → Bool
  | [] => false
  | b :: _ => b &&& 0x20 != 0

mutual

/-- The value of the first primitive object with this tag in document order. -/
def find? (tag : Bytes) : Tlv → Option Bytes
  | .primitive t value => if t = tag then some value else none
  | .constructed _ children => findAmong? tag children

/-- The same over several objects, from the first to the last. -/
def findAmong? (tag : Bytes) : List Tlv → Option Bytes
  | [] => none
  | t :: rest =>
    match t.find? tag with
    | some value => some value
    | none => findAmong? tag rest

end

end Tlv

end PgpCard
