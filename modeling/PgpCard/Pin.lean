import PgpCard.Text.Utf8

/-!
# `PgpCard.Pin`: PIN classes and their verification state

An OpenPGP card keeps three verifications apart: PW1 for signing, PW1 for everything
else, and PW3 for administration. The host remembers for each class whether the card has
accepted the PIN, so that it need not send it again. `PinState.after` is the only way in
which that memory changes, apart from forgetting everything.
-/

set_option autoImplicit false

namespace PgpCard

/-- What a verification is good for. -/
inductive PinClass where
  /-- PW1 for a signature. -/
  | signature
  /-- PW1 for deciphering and other operations. -/
  | other
  /-- PW3, the admin PIN. -/
  | admin
  deriving DecidableEq, Repr

namespace PinClass

/-- All classes, by reference. -/
def all : List PinClass := [.signature, .other, .admin]

/-- The reference of the class in a VERIFY command. -/
def reference : PinClass → UInt8
  | .signature => 0x81
  | .other => 0x82
  | .admin => 0x83

/-- The class as it is named in output. -/
def name : PinClass → String
  | .signature => "PW1 (signature)"
  | .other => "PW1 (other)"
  | .admin => "PW3 (admin)"

end PinClass

/-- A PIN as the card takes it. -/
structure Pin where
  bytes : Bytes
  deriving DecidableEq, Repr

namespace Pin

/-- The PIN that a text spells, as UTF-8. -/
def ofText (text : String) : Pin := ⟨Utf8.encode text⟩

/-- What a log may say about a PIN. -/
def redacted : String := "Pin(<redacted>)"

end Pin

/-- Whether the card has accepted the PIN of a class. -/
inductive PinState where
  | unverified
  | verified
  deriving DecidableEq, Repr

/-- Something that happens to a class. -/
inductive PinEvent where
  | verified
  /-- A signature was asked for; `multiple` is the policy of the card. -/
  | signatureUsed (multiple : Bool)
  /-- The host gives the verification up. -/
  | invalidated
  deriving DecidableEq, Repr

namespace PinState

/-- The state as it is named in output. -/
def name : PinState → String
  | .unverified => "unverified"
  | .verified => "verified"

/-- The PIN is verified. -/
def isVerified (s : PinState) : Bool := s == .verified

/-- The state of a class after an event. A signature uses the verification up for the
signature class only, and only under the policy of one signature per verification. -/
def after (s : PinState) (cls : PinClass) : PinEvent → PinState
  | .verified => .verified
  | .invalidated => .unverified
  | .signatureUsed multiple => if cls = .signature ∧ multiple = false then .unverified else s

end PinState

/-- The verification states of all classes. -/
structure PinStates where
  signature : PinState := .unverified
  other : PinState := .unverified
  admin : PinState := .unverified
  deriving DecidableEq, Repr

namespace PinStates

/-- Nothing is verified, as after a selection of the application. -/
def fresh : PinStates := {}

/-- The state of a class. -/
def get (s : PinStates) : PinClass → PinState
  | .signature => s.signature
  | .other => s.other
  | .admin => s.admin

/-- Replaces the state of a class. -/
def set (s : PinStates) (cls : PinClass) (state : PinState) : PinStates :=
  match cls with
  | .signature => { s with signature := state }
  | .other => { s with other := state }
  | .admin => { s with admin := state }

/-- The states after an event of one class. -/
def apply (s : PinStates) (cls : PinClass) (event : PinEvent) : PinStates :=
  s.set cls ((s.get cls).after cls event)

@[simp] theorem get_set (s : PinStates) (cls cls' : PinClass) (state : PinState) :
    (s.set cls state).get cls' = if cls' = cls then state else s.get cls' := by
  cases cls <;> cases cls' <;> rfl

end PinStates

end PgpCard
