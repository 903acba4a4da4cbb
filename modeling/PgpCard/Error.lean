import PgpCard.Apdu.Fault
import PgpCard.Card.DataFault
import PgpCard.Pin

/-!
# `PgpCard.Error`: why a session operation failed

`Error` lists the causes, `SecureMessagingFault` those of secure messaging. The two refer
to each other: a key agreement exchanges commands, so a failed exchange can be the cause
of a failed agreement. `message` is the wording, and `kind` the coarse classification by
what the caller should do next.

`lostCard` and `statusWord?` look for the cause where it counts. A link failure counts
under all contexts. A status word counts only where the error carries it directly.
-/

set_option autoImplicit false

namespace PgpCard

/-- What secure messaging was doing. -/
inductive SecureMessagingStage where
  /-- Agreeing on keys. -/
  | establish
  | wrap
  | unwrap
  deriving DecidableEq, Repr

/-- The stage as it is named in messages. -/
def SecureMessagingStage.name : SecureMessagingStage → String
  | .establish => "establishment"
  | .wrap => "encrypt/sign"
  | .unwrap => "verify/decrypt"

/-- The stage as a name for machines. -/
def SecureMessagingStage.label : SecureMessagingStage → String
  | .establish => "Establish"
  | .wrap => "Wrap"
  | .unwrap => "Unwrap"

mutual

/-- Why secure messaging failed. -/
inductive SecureMessagingFault where
  | notEstablished
  /-- Card and host disagree on a checksum. -/
  | macMismatch
  /-- The protected data makes no sense. -/
  | malformed (detail : String)
  /-- Encryption or decryption failed. -/
  | cipher (detail : String)
  /-- The card refused the key agreement. -/
  | handshake (detail : String)
  /-- Nothing here speaks the secure messaging of this token. -/
  | unavailable
  /-- An exchange failed during the key agreement. -/
  | channel (cause : Error)

/-- Why a session operation failed. -/
inductive Error where
  | link (fault : LinkFault)
  /-- An exchange failed below the session. -/
  | apdu (fault : Fault)
  /-- The token refused what `action` says. -/
  | card (action : String) (status : StatusWord)
  /-- The token refused a segment before the last one of a chain. -/
  | chainAborted (step total : Nat) (status : StatusWord)
  /-- The token takes neither long commands nor chains. -/
  | cannotTransmit
  /-- The token announced more bytes after as many rounds as are allowed. -/
  | continuationLimit (rounds : Nat)
  | secureMessaging (stage : SecureMessagingStage) (fault : SecureMessagingFault)
  /-- A PIN is needed and the session has none. -/
  | missingPin (cls : PinClass)
  /-- The operation needs a session that has been brought up. -/
  | notConnected
  /-- Data of the card could not be interpreted. -/
  | invalidData (fault : DataFault)

end

/-- What the caller can do about an error. -/
inductive ErrorKind where
  /-- The channel failed: connect again. -/
  | link
  /-- The token refused: try again or authenticate. -/
  | card
  /-- The exchange broke off midway. -/
  | protocol
  /-- Secure messaging failed and is torn down. -/
  | secureMessaging
  /-- The operation was not allowed here. -/
  | programmer
  deriving DecidableEq, Repr

/-- The classification as a name for machines. -/
def ErrorKind.label : ErrorKind → String
  | .link => "Transport"
  | .card => "Card"
  | .protocol => "Protocol"
  | .secureMessaging => "SecureMessaging"
  | .programmer => "Programmer"

mutual

/-- The fault in words. -/
def SecureMessagingFault.message : SecureMessagingFault → String
  | .notEstablished => "Secure messaging not established"
  | .macMismatch => "MAC verification failed"
  | .malformed detail => s!"Malformed secure messaging data: {detail}"
  | .cipher detail => s!"Cipher failure: {detail}"
  | .handshake detail => s!"Handshake failed: {detail}"
  | .unavailable => "No secure messaging provider for this token"
  | .channel cause => s!"Channel error during handshake: {cause.message}"

/-- The error in words. -/
def Error.message : Error → String
  | .link fault => fault.message
  | .apdu fault => fault.message
  | .card action status => s!"{action}: {status.render} ({status.description})"
  | .chainAborted step total status =>
    s!"Failed to chain APDU {step}/{total}, status {status.render}"
  | .cannotTransmit => "Can't transmit command"
  | .continuationLimit rounds => s!"Response continuation exceeded {rounds} GET RESPONSE rounds"
  | .secureMessaging stage fault => s!"Secure messaging {stage.name} failure: {fault.message}"
  | .missingPin cls => s!"Session was not created with a PIN for {cls.name}"
  | .notConnected => "Session is not connected"
  | .invalidData fault => s!"Invalid data: {fault.message}"

end

mutual

/-- The fault as a name for machines, with its cause in brackets. -/
def SecureMessagingFault.label : SecureMessagingFault → String
  | .notEstablished => "NotEstablished"
  | .macMismatch => "MacMismatch"
  | .malformed _ => "Malformed"
  | .cipher _ => "Cipher"
  | .handshake _ => "Handshake"
  | .unavailable => "Unavailable"
  | .channel cause => "Channel(" ++ cause.label ++ ")"

/-- The error as a name for machines, with its cause in brackets. -/
def Error.label : Error → String
  | .link fault => fault.label
  | .apdu fault => "Apdu(" ++ fault.label ++ ")"
  | .card _ _ => "Card"
  | .chainAborted _ _ _ => "ChainAborted"
  | .cannotTransmit => "CannotTransmit"
  | .continuationLimit _ => "ContinuationLimit"
  | .secureMessaging stage fault =>
    "SecureMessaging." ++ stage.label ++ "(" ++ fault.label ++ ")"
  | .missingPin _ => "MissingPin"
  | .notConnected => "NotConnected"
  | .invalidData _ => "InvalidData"

end

namespace Error

/-- The coarse classification. -/
def kind : Error → ErrorKind
  | .link _ => .link
  | .apdu fault => if fault.isLink then .link else .protocol
  | .card _ _ => .card
  | .chainAborted _ _ _ => .protocol
  | .cannotTransmit => .protocol
  | .continuationLimit _ => .protocol
  | .secureMessaging _ _ => .secureMessaging
  | .missingPin _ => .programmer
  | .notConnected => .programmer
  | .invalidData _ => .protocol

/-- The card was removed or reset, so nothing learned from it holds any more. -/
def lostCard : Error → Bool
  | .link fault => fault.lostCard
  | .apdu fault => fault.lostCard
  | _ => false

/-- The status word that the error carries. -/
def statusWord? : Error → Option StatusWord
  | .card _ status => some status
  | .chainAborted _ _ status => some status
  | .apdu (.response fault) => fault.statusWord?
  | _ => none

end Error

end PgpCard
