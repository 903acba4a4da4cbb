import PgpCard.Session.Verification
import PgpCard.Text.Blank

/-!
# `PgpCard.Session.Information`: what a connected token reports about itself

`url` and `holder` read one data object each. `tokenInfo` puts everything together. It
takes the identifier and the fingerprints from the descriptor as it was before those two
exchanges, and the retry counters and the rest as they are afterwards.
-/

set_option autoImplicit false

namespace PgpCard.SessionM

variable {τ κ : Type} [Link τ] [Channel κ]

/-- Where to find the public key, without blanks around it. -/
def url : SessionM τ κ String := do
  let data ← readObject .url
  return String.ofList (Text.trimBlanks (Utf8.decodeLossy data))

/-- The name of the cardholder. -/
def holder : SessionM τ κ String := do
  return TokenInfo.holderName (← readObject .cardholder)

/-- The retry counters of PW1 and PW3: the fifth and the seventh PW status byte. -/
def retryCounters (s : Session κ) : Except DataFault (UInt8 × UInt8) :=
  match s.pinStatus? with
  | none => .error .missingPinStatus
  | some status =>
    match status[4]?, status[6]? with
    | some pw1, some pw3 => .ok (pw1, pw3)
    | _, _ => .error .shortPinStatus

/-- The snapshot of a token. `before` is the session before, and `after` the session after
the name and the address have been read. -/
def snapshot (before after : Session κ) (kind : LinkKind) (holder url : String) :
    Except DataFault TokenInfo :=
  match retryCounters after with
  | .error fault => .error fault
  | .ok (pw1Retries, pw3Retries) => .ok {
      kind
      tokenType := after.tokenType.getD .unknown
      fingerprints := Fingerprint.split (before.fingerprints?.getD [])
      aid := before.aid?.getD []
      holder, url, pw1Retries, pw3Retries
      managesLifeCycle := after.card.any (·.managesLifeCycle) }

/-- Everything that the token reports about itself. -/
def tokenInfo : SessionM τ κ TokenInfo := do
  let before ← session
  ensure before.application.isSome .notConnected
  let holder ← holder
  let url ← url
  match snapshot before (← session) (Link.kind (← link)) holder url with
  | .error fault => throw (.invalidData fault)
  | .ok info => return info

end PgpCard.SessionM
