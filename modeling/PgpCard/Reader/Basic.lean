import PgpCard.Text.Hex
import PgpCard.Token

/-!
# `PgpCard.Reader.Basic`: readers, and what their answer to reset tells

A `Reader` is what a list of readers shows: a name, and the answer to reset (ATR) of the
card if there is one. Whether the card is reached by contacts or by a radio field is
guessed. PC/SC makes up an ATR `3B 8n 80 01 …` for contactless cards, and drivers name
their contactless slots after the field.

A card is picked by its ATR with a pattern that the ATR must begin with. With a mask only
the bits set in the mask count.
-/

set_option autoImplicit false

namespace PgpCard

/-- How a reader reaches its card. -/
inductive Interface where
  | contact
  | contactless
  deriving DecidableEq, Repr

namespace Interface

/-- The interface as it is named in output. -/
def name : Interface → String
  | .contact => "contact"
  | .contactless => "contactless"

/-- The kind of link over this interface. -/
def linkKind : Interface → LinkKind
  | .contact => .contact
  | .contactless => .contactless

end Interface

namespace Atr

/-- The ATR agrees with the pattern in the bits that the mask sets, byte by byte, as far
as the pattern goes. -/
def agrees : (atr pattern mask : Bytes) → Bool
  | a :: atr, p :: pattern, m :: mask => (a &&& m) == (p &&& m) && agrees atr pattern mask
  | _, [], _ => true
  | _, _, _ => false

/-- The ATR begins with the pattern, under the mask if there is one. A mask that is
shorter than the pattern fits nothing. -/
def fits (atr pattern : Bytes) (mask : Option Bytes) : Bool :=
  match mask with
  | none => pattern.isPrefixOf atr
  | some mask => agrees atr pattern mask

/-- The ATR is one that PC/SC makes up for a contactless card. -/
def isContactless : Bytes → Bool
  | a :: b :: c :: d :: _ => a == 0x3B && b &&& 0xF0 == 0x80 && c == 0x80 && d == 0x01
  | _ => false

end Atr

/-- A reader as a list of readers shows it. -/
structure Reader where
  name : String
  /-- The ATR of the card, if there is a card. -/
  atr : Option Bytes
  deriving DecidableEq, Repr

namespace Reader

/-- An uppercase letter of the ASCII range in lower case, anything else as it is. -/
def toAsciiLower (c : Char) : Char :=
  if 'A' ≤ c ∧ c ≤ 'Z' then Char.ofNat (c.toNat + 32) else c

/-- The text occurs somewhere in the other one. -/
def occursIn (text : List Char) : List Char → Bool
  | [] => text.isEmpty
  | c :: rest => text.isPrefixOf (c :: rest) || occursIn text rest

/-- The words by which drivers name contactless slots. -/
def contactlessMarkers : List String := ["contactless", "picc", "nfc"]

/-- The name is one for a contactless slot, whatever the case of its letters. -/
def isContactlessName (name : String) : Bool :=
  let lower := name.toList.map toAsciiLower
  contactlessMarkers.any fun marker => occursIn marker.toList lower

/-- The interface that an ATR, if there is one, and a reader name suggest. -/
def guessInterface (name : String) (atr : Option Bytes) : Interface :=
  if atr.any Atr.isContactless || isContactlessName name then .contactless else .contact

/-- There is a card. -/
def hasCard (r : Reader) : Bool := r.atr.isSome

/-- There is a card whose ATR begins with the pattern. -/
def atrFits (r : Reader) (pattern : Bytes) (mask : Option Bytes) : Bool :=
  r.atr.any fun atr => Atr.fits atr pattern mask

/-- How the reader reaches its card, as far as one can guess. -/
def interface (r : Reader) : Interface := guessInterface r.name r.atr

end Reader

end PgpCard
