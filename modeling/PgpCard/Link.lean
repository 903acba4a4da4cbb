import PgpCard.Apdu.Fault
import PgpCard.Token

/-!
# `PgpCard.Link`: the link to a card

A link moves raw frames to a card and brings raw answers back. It knows nothing of
chains, of answers in several parts or of secure messaging. `Link τ` lists what a link
with states of type `τ` can do. Each operation takes a state and leaves a state, also when
it fails, so that everything above is a function of the link's behaviour, whatever that
behaviour is.

`transmit` is the exchange of one command: check it, encode it, send it, read the answer.
A command that fails the check is never sent.
-/

set_option autoImplicit false

namespace PgpCard

/-- What a link with states `τ` can do. -/
class Link (τ : Type) where
  /-- Opens the channel to the card. -/
  connect : EStateM Fault τ Unit
  reset : EStateM Fault τ Unit
  /-- Sends one frame and brings back one answer. -/
  exchange : Bytes → EStateM Fault τ Bytes
  /-- The channel to the card is open. -/
  isConnected : τ → Bool
  kind : τ → LinkKind
  /-- The channel may stay open between operations. -/
  persistent : τ → Bool
  /-- The family of the token, where the link knows it by itself. -/
  tokenType? : τ → Option TokenType

namespace Link

variable {τ : Type} [Link τ]

/-- Turns a result into a step that changes no state. -/
def ofExcept {ε ε' σ α : Type} (wrap : ε → ε') : Except ε α → EStateM ε' σ α
  | .ok a => pure a
  | .error e => throw (wrap e)

/-- Exchanges one command with the card. A command that fails its check is not sent. -/
def transmit (c : Command) : EStateM Fault τ Response := do
  ofExcept .command c.check
  let answer ← exchange c.encode
  ofExcept .response (Response.decode answer)

end Link

end PgpCard
