import PgpCard.Apdu.Command
import PgpCard.Apdu.Response

/-!
# `PgpCard.Apdu.Fault`: why an exchange of one frame failed

Three things can go wrong with one frame: the link to the card fails (`LinkFault`), the
host cannot encode the command (`CommandFault`), or the answer makes no sense
(`ResponseFault`). `Fault` is the sum of the three. A fault can also be wrapped in
contexts, each of which says what was being done.

A context changes the wording only. What a fault is, is decided by its `root`, the fault
under all contexts. `lostCard` is the question that matters most above: after a removal
or a reset nothing that was learned from the card holds any more.
-/

set_option autoImplicit false

namespace PgpCard

/-- How the link to the card failed. -/
inductive LinkFault where
  /-- The link could not be opened, or is not open. -/
  | connection
  /-- A frame could not be exchanged. -/
  | transmission
  /-- The reader is missing or unusable. -/
  | device
  | noCard
  | cardRemoved
  /-- Somebody else reset the card. -/
  | cardReset
  /-- The driver reported a code of its own, here as an unsigned 32-bit number. -/
  | driver (code : UInt32)
  | timeout
  /-- Any other failure, in words. -/
  | other (text : String)
  deriving DecidableEq, Repr

namespace LinkFault

/-- The failure in words. -/
def message : LinkFault → String
  | .connection => "Failed to connect to card"
  | .transmission => "Failed to transmit data"
  | .device => "Reader unavailable"
  | .noCard => "No card present"
  | .cardRemoved => "Card removed"
  | .cardReset => "Card reset"
  | .driver code => s!"Driver error code: 0x{Hex.lowerNumber code.toNat}"
  | .timeout => "Operation timed out"
  | .other text => text

/-- The failure as a name for machines. -/
def label : LinkFault → String
  | .connection => "Transport.Connection"
  | .transmission => "Transport.Transmission"
  | .device => "Transport.Device"
  | .noCard => "Transport.NoCard"
  | .cardRemoved => "Transport.CardRemoved"
  | .cardReset => "Transport.CardReset"
  | .driver _ => "Transport.Driver"
  | .timeout => "Transport.Timeout"
  | .other _ => "Transport.Other"

/-- The card behind the link is gone or has forgotten its state. -/
def lostCard : LinkFault → Bool
  | .noCard => true
  | .cardRemoved => true
  | .cardReset => true
  | _ => false

end LinkFault

/-- Why an exchange of one frame failed. -/
inductive Fault where
  | link (fault : LinkFault)
  | response (fault : ResponseFault)
  | command (fault : CommandFault)
  /-- A fault met while doing what `doing` says. -/
  | context (doing : String) (source : Fault)
  deriving DecidableEq, Repr

namespace Fault

/-- The fault in words, contexts first. -/
def message : Fault → String
  | .link f => f.message
  | .response f => f.message
  | .command f => f.message
  | .context doing source => doing ++ ": " ++ source.message

/-- The fault as a name for machines, contexts outside. -/
def label : Fault → String
  | .link f => f.label
  | .response f => f.label
  | .command f => f.label
  | .context _ source => "Context(" ++ source.label ++ ")"

/-- The fault under all contexts. -/
def root : Fault → Fault
  | .context _ source => source.root
  | f => f

/-- The fault wrapped in contexts, the first of the list outermost. -/
def within (contexts : List String) (f : Fault) : Fault :=
  contexts.foldr .context f

/-- The failure of the link that this fault is at its root, if it is one. -/
def linkFault? (f : Fault) : Option LinkFault :=
  match f.root with
  | .link l => some l
  | _ => none

/-- The link failed, under whatever contexts. -/
def isLink (f : Fault) : Bool := f.linkFault?.isSome

/-- The link failed in a way that leaves no card state, under whatever contexts. -/
def lostCard (f : Fault) : Bool := f.linkFault?.any LinkFault.lostCard

end Fault

end PgpCard
