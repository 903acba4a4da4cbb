import PgpCard.Link
import PgpCard.Reader.Basic
import PgpCard.Reader.Fault
import PgpCard.Reader.Service

/-!
# `PgpCard.Reader.Slot`: the link to a card through a reader

A `Slot` is a reader that has been picked for use. The card in it is connected when it is
first needed, so that a slot can be made for an empty reader. Connections are numbered, so
that one can tell whether two frames went over the same one.

After a reset or a removal the connection is worthless and given up. After a reset the
slot may connect again at once, if it is configured to. The frame that failed is never
sent again, since the card has forgotten what it was about, and the failure is reported
all the same.

A connection that is given up is ended with a reset of the card. So is one whose proper
ending failed.
-/

set_option autoImplicit false

namespace PgpCard

/-- How a slot connects its card. -/
structure SlotConfig where
  share : ShareMode := .shared
  protocols : Protocols := .any
  /-- Connect again after a reset of the card. -/
  reconnect : Bool := true
  deriving DecidableEq, Repr

/-- A reader in use. -/
structure Slot where
  reader : String
  config : SlotConfig := {}
  /-- The number of the connection to the card, while there is one. -/
  card : Option Nat := none
  /-- How many connections there have been. -/
  opened : Nat := 0
  deriving DecidableEq, Repr

/-- A slot beside the service that it uses. -/
structure Docked (σ : Type) where
  slot : Slot
  service : σ

/-- A step of a slot with its service. -/
abbrev SlotM (σ : Type) := EStateM ReaderFault (Docked σ)

namespace Slot

variable {σ : Type} [Service σ]

/-- A slot for a reader. The name must not be empty. -/
def new (reader : String) (config : SlotConfig) : Except ReaderFault Slot :=
  if reader.isEmpty then .error (.notFound reader) else .ok { reader, config }

/-- The slot as it stands. -/
def current : SlotM σ Slot := fun d => .ok d.slot d

/-- A call to the service, with its outcome as a value. -/
def call {α : Type} (step : EStateM ServiceFault σ α) : SlotM σ (Except ServiceFault α) :=
  fun d =>
    match step d.service with
    | .ok a service => .ok (.ok a) { d with service }
    | .error e service => .ok (.error e) { d with service }

/-- The slot with a new connection. -/
def connected (d : Docked σ) : Docked σ :=
  { d with slot := { d.slot with card := some d.slot.opened, opened := d.slot.opened + 1 } }

/-- The slot without a connection. -/
def disconnected (d : Docked σ) : Docked σ :=
  { d with slot := { d.slot with card := none } }

/-- The service cannot be asked for a reader whose name has a zero character. -/
def isCallable (reader : String) : Bool :=
  !reader.toList.contains (Char.ofNat 0)

/-- Connects the card of a slot that has no connection. -/
def openCard : SlotM σ Unit := do
  let slot ← current
  match ← call (Service.connect slot.reader slot.config.share slot.config.protocols) with
  | .ok _ => modify connected
  | .error .noSmartcard => throw (.noCard slot.reader)
  | .error fault => throw (.service fault)

/-- Connects the card unless it is connected. -/
def connectCard : SlotM σ Unit := do
  let slot ← current
  if slot.card.isSome then return
  else if isCallable slot.reader then openCard
  else throw (.notFound slot.reader)

/-- Ends the connection with a reset, whatever comes of it. -/
def abandon (d : Docked σ) : Docked σ :=
  match Service.disconnect d.slot.reader .reset d.service with
  | .ok _ service => disconnected { d with service }
  | .error _ service => disconnected { d with service }

/-- Ends the connection in a given way, and with a reset if that fails. -/
def disconnect (disposition : Disposition) (d : Docked σ) : Docked σ :=
  match Service.disconnect d.slot.reader disposition d.service with
  | .ok _ service => disconnected { d with service }
  | .error _ service => abandon { d with service }

/-- Ends the connection in a given way, if there is one. -/
def disconnectIfAny (disposition : Disposition) (d : Docked σ) : Docked σ :=
  if d.slot.card.isSome then disconnect disposition d else d

/-- A failure after which the connection is worthless. -/
def endsConnection (fault : ServiceFault) : Bool :=
  fault == .resetCard || fault == .removedCard

/-- Tries to connect the card. If that fails the slot stays without a connection. -/
def tryConnect (d : Docked σ) : Docked σ :=
  match connectCard d with
  | .ok _ d => d
  | .error _ d => d

/-- What a slot does about a frame that failed: it gives a worthless connection up, and
connects again after a reset if it is configured to. -/
def recover (fault : ServiceFault) (d : Docked σ) : Docked σ :=
  if endsConnection fault then
    let d := abandon d
    -- After a removal there is no card to connect to.
    if fault == .resetCard && d.slot.config.reconnect then tryConnect d else d
  else d

/-- Sends one frame, after connecting the card if need be. The frame goes out once at
most. -/
def exchange (frame : Bytes) : SlotM σ Bytes := do
  connectCard
  match ← call (Service.transmit (← current).reader frame) with
  | .ok answer => return answer
  | .error fault =>
    modify (recover fault)
    throw (.service fault)

/-- Resets the card by ending its connection with a reset and connecting it again. -/
def reset : SlotM σ Unit := do
  modify (disconnectIfAny .reset)
  connectCard

/-- Gives the slot up, and leaves a connected card as it is. -/
def release (d : Docked σ) : Docked σ := disconnectIfAny .leave d

/-- The ATR of the connected card. -/
def atr (d : Docked σ) : Except ReaderFault Bytes :=
  match d.slot.card with
  | none => .error (.noCard d.slot.reader)
  | some _ =>
    match Service.atr d.service d.slot.reader with
    | .ok atr => .ok atr
    | .error fault => .error (.service fault)

/-- How the slot reaches its card: by the ATR where there is one, and by the name. -/
def interface (d : Docked σ) : Interface :=
  Reader.guessInterface d.slot.reader (atr d).toOption

/-- A step of a slot as a step of a link. -/
def asLink {α : Type} (step : SlotM σ α) : EStateM Fault (Docked σ) α := fun d =>
  match step d with
  | .ok a d => .ok a d
  | .error fault d => .error fault.toFault d

/-- A slot is a link. Only a card with contacts may stay connected, since one in a field
can leave at any moment. A slot never knows the family of its token. -/
instance : Link (Docked σ) where
  connect := asLink connectCard
  reset := asLink reset
  exchange frame := asLink (exchange frame)
  isConnected d := d.slot.card.isSome
  kind d := (interface d).linkKind
  persistent d := interface d == .contact
  tokenType? _ := none

end Slot

end PgpCard
