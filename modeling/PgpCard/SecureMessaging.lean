import PgpCard.Card.ApplicationData
import PgpCard.Error

/-!
# `PgpCard.SecureMessaging`: protected channels and how they come about

A secure messaging channel protects each command before it goes out and checks each
answer that comes in. `Channel κ` lists what a channel with states of type `κ` does; a
cipher suite is an instance of it. Like a link, a channel leaves a state also when it
fails.

A channel comes about by a key agreement with the card. `Handshake κ` is such an
agreement as a tree: either it has ended, with a channel or with a fault, or it sends a
command and goes on according to how that exchange turns out. The tree says everything
about an agreement that the card and the session can see. `run` plays it over any way to
exchange commands.
-/

set_option autoImplicit false

namespace PgpCard

/-- What a secure messaging channel with states `κ` does. -/
class Channel (κ : Type) where
  /-- Keys are in place, and commands are to be protected. -/
  isEstablished : κ → Bool
  /-- Encrypts and signs a command. -/
  wrap : Command → EStateM SecureMessagingFault κ Command
  /-- Verifies and decrypts a whole answer. -/
  unwrap : Response → EStateM SecureMessagingFault κ Response

/-- A key agreement that yields a channel with states `κ`. -/
inductive Handshake (κ : Type) where
  /-- The agreement has ended. -/
  | done (result : Except SecureMessagingFault κ)
  /-- The agreement sends a command and goes on with the outcome of the exchange. -/
  | send (command : Command) (next : Except Error Response → Handshake κ)

/-- A choice of key agreement for each card that offers one. -/
abbrev Provider (κ : Type) := ApplicationData → Handshake κ

/-- Plays an agreement over a way to exchange commands. A failed exchange does not end the
agreement; it is up to the agreement what to make of it. -/
def Handshake.run {κ σ : Type} (exchange : Command → EStateM Error σ Response) :
    Handshake κ → EStateM SecureMessagingFault σ κ
  | .done (.ok channel) => pure channel
  | .done (.error fault) => throw fault
  | .send command next => fun s =>
    match exchange command s with
    | .ok response s => (next (.ok response)).run exchange s
    | .error error s => (next (.error error)).run exchange s

end PgpCard
