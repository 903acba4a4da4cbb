import PgpCard.Reader.ServiceFault
import PgpCard.Text.Hex

/-!
# `PgpCard.Reader.Service`: the PC/SC service

The service gives access to all readers of a machine. `Service σ` lists what a service
with states of type `σ` can do, where looking at readers changes no state, and what is
done with a card leaves a state also when it fails. A card that is connected is named by
its reader.
-/

set_option autoImplicit false

namespace PgpCard

/-- Who else may use the card meanwhile. -/
inductive ShareMode where
  /-- Nobody. -/
  | exclusive
  /-- Anybody. -/
  | shared
  /-- The reader itself is meant, with or without a card. -/
  | direct
  deriving DecidableEq, Repr

/-- The mode as it is named in output. -/
def ShareMode.name : ShareMode → String
  | .exclusive => "exclusive"
  | .shared => "shared"
  | .direct => "direct"

/-- What becomes of the card when a connection ends. -/
inductive Disposition where
  /-- It is left as it is. -/
  | leave
  | reset
  deriving DecidableEq, Repr

/-- The disposition as it is named in output. -/
def Disposition.name : Disposition → String
  | .leave => "leave"
  | .reset => "reset"

/-- Transmission protocols, as a mask. -/
structure Protocols where
  mask : Nat
  deriving DecidableEq, Repr

namespace Protocols

/-- Either of the two ISO 7816-3 protocols. -/
def any : Protocols := ⟨3⟩

end Protocols

/-- What the service knows about a reader. -/
structure ReaderStatus where
  present : Bool
  empty : Bool
  atr : Bytes
  deriving DecidableEq, Repr

/-- What a PC/SC service with states `σ` can do. -/
class Service (σ : Type) where
  /-- Whether the service can be used at all. -/
  establish : σ → Except ServiceFault Unit
  readerNames : σ → Except ServiceFault (List String)
  /-- What the service knows about a reader. -/
  status : σ → String → Except ServiceFault ReaderStatus
  /-- The ATR of the card that is connected in a reader. -/
  atr : σ → String → Except ServiceFault Bytes
  /-- Connects the card in a reader. -/
  connect : String → ShareMode → Protocols → EStateM ServiceFault σ Unit
  /-- Sends a frame to the card in a reader. -/
  transmit : String → Bytes → EStateM ServiceFault σ Bytes
  /-- Ends the connection to the card in a reader. -/
  disconnect : String → Disposition → EStateM ServiceFault σ Unit

end PgpCard
