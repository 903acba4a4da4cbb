/-!
# `PgpCard.Token`: tokens, the ways to reach them, and their key slots
-/

set_option autoImplicit false

namespace PgpCard

/-- The physical channel to a token. -/
inductive LinkKind where
  | contact
  /-- A radio field. -/
  | contactless
  /-- A USB token that is its own reader. -/
  | usbCcid
  deriving DecidableEq, Repr

/-- The channel as it is named in output. -/
def LinkKind.name : LinkKind → String
  | .contact => "contact"
  | .contactless => "contactless"
  | .usbCcid => "usb-ccid"

/-- The family of a token, as far as the host can tell. -/
inductive TokenType where
  | openPgpCard
  /-- A Fidesmo card that hosts the OpenPGP application. -/
  | fidesmo
  /-- A product that the link recognises by itself. -/
  | vendor (name : String)
  /-- Nothing more is known. -/
  | unknown
  deriving DecidableEq, Repr

/-- The family as it is named in output. -/
def TokenType.name : TokenType → String
  | .openPgpCard => "OpenPGP card"
  | .fidesmo => "Fidesmo"
  | .vendor name => name
  | .unknown => "unknown"

/-- The key slots of an OpenPGP card. -/
inductive KeySlot where
  | signature
  | encryption
  | authentication
  deriving DecidableEq, Repr

namespace KeySlot

/-- All slots, in the order of their fingerprints on the card. -/
def all : List KeySlot := [.signature, .encryption, .authentication]

/-- The position of the slot's fingerprint. -/
def index : KeySlot → Nat
  | .signature => 0
  | .encryption => 1
  | .authentication => 2

/-- The slot as it is named in output. -/
def name : KeySlot → String
  | .signature => "Signature"
  | .encryption => "Encryption"
  | .authentication => "Authentication"

end KeySlot

end PgpCard
