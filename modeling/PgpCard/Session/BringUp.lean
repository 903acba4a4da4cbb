import PgpCard.Session.Exchange

/-!
# `PgpCard.Session.BringUp`: from an open link to a selected application

`connect` brings a session up: open the link, find out the family of the token, select
the OpenPGP application, read its application data, agree on secure messaging. Once the
link is open, everything from an earlier card state is void, whatever comes next. A
bring-up that fails after that leaves no descriptors.

Secure messaging is agreed on when the configuration asks for it, the card offers SCP11b
and there is a provider. In every other case, and when the agreement fails, the session
goes on without, unless the configuration requires secure messaging.
-/

set_option autoImplicit false

namespace PgpCard.SessionM

variable {τ κ : Type} [Link τ] [Channel κ]

/-- Reads a data object. -/
def readObject (tag : ObjectTag) : SessionM τ κ Bytes := do
  let r ← communicate (.read tag) ((← session).setup.commands.getData tag)
  ensure r.isSuccess (.card "Failed to get data" r.status)
  return r.data

/-- Reads the application data and replaces both descriptors. -/
def refresh : SessionM τ κ Unit := do
  let data ← readObject .applicationData
  match ApplicationData.decode data with
  | .error fault => throw (.invalidData fault)
  | .ok a => change (·.update (.describe a))

/-- Asks the token for vendor applications. A Fidesmo token is recognised by its answer to
a selection of the applications it hosts. -/
def probe : SessionM τ κ TokenType := do
  let r ← communicate .probe ((← session).setup.commands.select Aid.fidesmo)
  return if r.isSuccess then .fidesmo else .unknown

/-- Finds out the family of the token, by asking it only where the link does not know. -/
def identify : SessionM τ κ TokenType := do
  match Link.tokenType? (← link) with
  | some t => return t
  | none => if (← session).setup.config.probe then probe else return .unknown

/-- What becomes of a bring-up without secure messaging: it fails if the configuration
requires secure messaging, and goes on if not. -/
def withoutChannel (fault : SecureMessagingFault) : SessionM τ κ Unit := do
  ensure (!(← session).setup.config.require) (.secureMessaging .establish fault)

/-- Plays a key agreement and takes its channel into use. -/
def agree (handshake : Handshake κ) : SessionM τ κ Unit := fun b =>
  match handshake.run (communicate .handshake) b with
  | .ok state b => .ok () (b.installChannel state)
  | .error fault b => withoutChannel fault b.clearChannel

/-- Agrees on secure messaging where that is asked for, offered and possible. -/
def establish : SessionM τ κ Unit := do
  let s ← session
  match s.application, s.setup.provider with
  | some a, some provider =>
    if s.setup.config.establish && a.offersScp11b then agree (provider a)
    else withoutChannel .unavailable
  | _, _ => withoutChannel .unavailable

/-- The exchanges of a bring-up. -/
def bringUp : SessionM τ κ Unit := do
  let t ← identify
  change (·.update fun s => { s with tokenType := some t })
  let r ← communicate .select (← session).setup.commands.selectApplication
  ensure r.isSuccess (.card "Initialization failed" r.status)
  refresh
  change (·.update fun s => { s with pins := .fresh })
  establish

/-- Opens the link unless it is open. -/
def openLink : SessionM τ κ Unit := do
  if Link.isConnected (← link) then return
  else onLink (fun fault => .apdu (.context "Failed to connect to token" fault)) Link.connect

/-- The bench at the start of a bring-up: nothing from an earlier card state is left, and
the card counts as the baseline until it says more. -/
def clean (b : Bench τ κ) : Bench τ κ :=
  (b.record .linkOpened).clearChannel.update fun s =>
    { s with pins := .fresh, card := some .baseline, application := none }

/-- What a bring-up that ended like this leaves: no descriptors if it failed. -/
def afterBringUp : Except Error Unit → Bench τ κ → Bench τ κ
  | .ok _, b => b
  | .error _, b => b.update .undescribe

/-- Brings the session up, whatever it was before. -/
def connect : SessionM τ κ Unit := do
  openLink
  -- A link that does not open ends the bring-up here, with the session as it was.
  change clean
  bringUp.andThen afterBringUp

/-- Brings the session up unless it is up. -/
def connectIfNecessary : SessionM τ κ Unit := do
  if (← session).isConnected (← link) then return else connect

end PgpCard.SessionM
