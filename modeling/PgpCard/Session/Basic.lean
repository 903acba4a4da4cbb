import PgpCard.Card.TokenInfo
import PgpCard.CommandSet
import PgpCard.Link
import PgpCard.SecureMessaging

/-!
# `PgpCard.Session.Basic`: what a session remembers, and what it works on

A `Session` remembers what it has learned from one token: the family, the two descriptors
(card capabilities and application data), the secure messaging channel, and which PINs the
card has accepted. It also holds the PIN to verify with and its `Setup`, which never
change while it runs.

A session does not own its link, which may be shared. `Bench` puts a session and its link
side by side, with a journal of what the session did. What cannot fail is a function from
bench to bench. What can is a step of type `SessionM`: it takes a bench and leaves a
bench, also when it fails.

The journal tells what happened, latest entry first: commands that went out and how that
ended, the installing, use and clearing of channels, and whatever else takes knowledge
away from the session. Nothing that a session does depends on it, except that channels
are numbered in the order in which they are installed.
-/

set_option autoImplicit false

namespace PgpCard

/-- What the owner of a session can choose. -/
structure Config where
  /-- How often an answer may announce that more bytes wait. -/
  maxRounds : Nat := 256
  /-- Ask the token for vendor applications when the link cannot name it. -/
  probe : Bool := true
  /-- Agree on secure messaging where the card offers it. -/
  establish : Bool := true
  /-- Refuse a token without secure messaging. -/
  require : Bool := false
  deriving DecidableEq, Repr

/-- What a session is made with. -/
structure Setup (κ : Type) where
  commands : CommandSet := .standard
  config : Config := {}
  /-- How to agree on secure messaging, if at all. -/
  provider : Option (Provider κ) := none

/-- A channel in use, with its number. -/
structure Installed (κ : Type) where
  id : Nat
  state : κ

/-- What a session remembers. -/
structure Session (κ : Type) where
  setup : Setup κ
  /-- The PIN to verify with. -/
  pin : Option Pin
  tokenType : Option TokenType := none
  card : Option CardCapabilities := none
  application : Option ApplicationData := none
  channel : Option (Installed κ) := none
  pins : PinStates := .fresh

/-- Why a command goes out. -/
inductive Purpose where
  /-- To look for a vendor application. -/
  | probe
  | select
  | read (tag : ObjectTag)
  | verify (cls : PinClass)
  | sign
  | decipher
  /-- As part of a key agreement. -/
  | handshake
  /-- Because the caller said so. -/
  | direct
  deriving DecidableEq, Repr

/-- An entry of the journal. -/
inductive Event where
  /-- A bring-up found the link open, or opened it. -/
  | linkOpened
  /-- A command was handed over for exchange, under these PIN states. -/
  | dispatched (purpose : Purpose) (command : Command) (pins : PinStates)
  /-- A command went to the link, protected by the channel of this number, if any. -/
  | framed (command : Command) (channel : Option Nat)
  | concluded (purpose : Purpose) (outcome : Except Error Response)
  /-- A channel was taken into use. -/
  | installed (channel : Nat)
  /-- A channel was asked to protect a command. -/
  | wrapped (channel : Nat)
  /-- A channel was asked to check an answer. -/
  | unwrapped (channel : Nat)
  /-- The keys of a channel were wiped, and the channel was dropped. -/
  | cleared (channel : Nat)
  /-- A signature was asked for, or noted, on a card with this policy. -/
  | signatureUsed (multiple : Bool)
  /-- The admin verification was given up. -/
  | adminDropped
  /-- The session was told to forget its token. -/
  | tornDown

namespace Event

/-- The entry tells that a channel was taken into use. -/
def isInstalled : Event → Bool
  | .installed _ => true
  | _ => false

/-- The entry tells that a channel was dropped. -/
def isCleared : Event → Bool
  | .cleared _ => true
  | _ => false

end Event

/-- A session beside its link. -/
structure Bench (τ κ : Type) where
  session : Session κ
  link : τ
  /-- What has happened, latest first. -/
  journal : List Event := []

namespace Session

variable {τ κ : Type}

/-- A session that has not talked to its token yet. -/
def new (setup : Setup κ) (pin : Option Pin) : Session κ := { setup, pin }

/-- The channel in use, if it has keys. -/
def channelInUse? [Channel κ] (s : Session κ) : Option (Installed κ) :=
  s.channel.filter fun c => Channel.isEstablished c.state

/-- A secure messaging channel is in use and has keys. -/
def isProtected [Channel κ] (s : Session κ) : Bool := s.channelInUse?.isSome

/-- The session has been brought up, and the link is still open. -/
def isConnected [Link τ] (s : Session κ) (link : τ) : Bool :=
  s.application.isSome && Link.isConnected link

/-- The connection may stay open: the link allows it, and no channel binds it. -/
def isPersistent [Link τ] [Channel κ] (s : Session κ) (link : τ) : Bool :=
  Link.persistent link && !s.isProtected

/-- The fingerprints of all keys, one after another. -/
def fingerprints? (s : Session κ) : Option Bytes :=
  s.application.bind (·.fingerprints)

/-- The PW status bytes. -/
def pinStatus? (s : Session κ) : Option Bytes :=
  s.application.bind (·.pinStatus)

/-- The application identifier. -/
def aid? (s : Session κ) : Option Bytes :=
  s.application.map (·.aid)

/-- The fingerprint of one key slot, if the block of fingerprints reaches that far. -/
def keyFingerprint? (s : Session κ) (slot : KeySlot) : Option Bytes :=
  s.fingerprints?.bind (Fingerprint.at? · slot.index)

/-- One verification of the signature PIN is good for several signatures. A card that has
not said so does not allow it. -/
def multipleSignatures (s : Session κ) : Bool :=
  s.application.any (·.multipleSignatures)

/-- The card capabilities to go by: the baseline for a card that has not been asked. -/
def cardOrBaseline (s : Session κ) : CardCapabilities := s.card.getD .baseline

/-- Takes both descriptors from application data. -/
def describe (a : ApplicationData) (s : Session κ) : Session κ :=
  { s with card := some a.card, application := some a }

/-- Drops both descriptors. -/
def undescribe (s : Session κ) : Session κ :=
  { s with card := none, application := none }

/-- An event of one PIN class. -/
def noteEvent (cls : PinClass) (event : PinEvent) (s : Session κ) : Session κ :=
  { s with pins := s.pins.apply cls event }

/-- Forgets what was learned from the token, except for the channel, which must be cleared
and not just forgotten. -/
def forgetToken (s : Session κ) : Session κ :=
  { s with pins := .fresh, card := none, application := none, tokenType := none }

end Session

namespace Bench

variable {τ κ : Type}

/-- Changes what the session remembers. -/
def update (f : Session κ → Session κ) (b : Bench τ κ) : Bench τ κ :=
  { b with session := f b.session }

/-- Writes an entry into the journal. -/
def record (e : Event) (b : Bench τ κ) : Bench τ κ :=
  { b with journal := e :: b.journal }

/-- Wipes and drops the channel in use, if there is one. -/
def clearChannel (b : Bench τ κ) : Bench τ κ :=
  match b.session.channel with
  | none => b
  | some c => (b.record (.cleared c.id)).update fun s => { s with channel := none }

/-- The number for the next channel. -/
def nextChannel (b : Bench τ κ) : Nat := (b.journal.filter Event.isInstalled).length

/-- Takes a channel into use in place of the one before. -/
def installChannel (state : κ) (b : Bench τ κ) : Bench τ κ :=
  let b := b.clearChannel
  let id := b.nextChannel
  (b.record (.installed id)).update fun s => { s with channel := some { id, state } }

/-- Forgets everything that was learned from the token. The PIN stays, so that a later
bring-up can verify it again. -/
def forgetCard (b : Bench τ κ) : Bench τ κ :=
  b.clearChannel.update Session.forgetToken

/-- Forgets the token and the PIN. The link is left as it is. -/
def teardown (b : Bench τ κ) : Bench τ κ :=
  (b.record .tornDown).forgetCard.update fun s => { s with pin := none }

/-- Uses the signature verification up, if the card allows one signature only. -/
def useSignature (b : Bench τ κ) : Bench τ κ :=
  let multiple := b.session.multipleSignatures
  (b.record (.signatureUsed multiple)).update (.noteEvent .signature (.signatureUsed multiple))

/-- Gives the admin verification up without telling the card. -/
def dropAdmin (b : Bench τ κ) : Bench τ κ :=
  (b.record .adminDropped).update (.noteEvent .admin .invalidated)

end Bench

/-- A step of a session on its link. -/
abbrev SessionM (τ κ : Type) := EStateM Error (Bench τ κ)

namespace SessionM

variable {τ κ : Type}

/-- The session as it stands. -/
def session : SessionM τ κ (Session κ) := fun b => .ok b.session b

/-- The link as it stands. -/
def link : SessionM τ κ τ := fun b => .ok b.link b

/-- Changes the bench. -/
def change (f : Bench τ κ → Bench τ κ) : SessionM τ κ Unit := fun b => .ok () (f b)

/-- Fails unless a condition holds. -/
def ensure (condition : Bool) (e : Error) : SessionM τ κ Unit :=
  if condition then pure () else throw e

/-- A step of the link, with its faults as errors of the session. -/
def onLink {ε α : Type} (wrap : ε → Error) (step : EStateM ε τ α) : SessionM τ κ α :=
  fun b =>
    match step b.link with
    | .ok a link => .ok a { b with link }
    | .error e link => .error (wrap e) { b with link }

/-- A step, and then a change of the bench that depends on how the step ended. -/
def andThen {α : Type} (step : SessionM τ κ α)
    (f : Except Error α → Bench τ κ → Bench τ κ) : SessionM τ κ α := fun b =>
  match step b with
  | .ok a b => .ok a (f (.ok a) b)
  | .error e b => .error e (f (.error e) b)

/-- The outcome of a step, and the bench after it. -/
def start {α : Type} (step : SessionM τ κ α) (b : Bench τ κ) : Except Error α × Bench τ κ :=
  match step b with
  | .ok a b => (.ok a, b)
  | .error e b => (.error e, b)

end SessionM

end PgpCard
