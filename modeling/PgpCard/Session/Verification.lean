import PgpCard.Session.BringUp

/-!
# `PgpCard.Session.Verification`: PINs, and what they are needed for

A class that is verified is not verified again. Signing and deciphering verify their class
first with the PIN of the session. Signing also uses the verification up, whatever comes
of the signature, where the card's policy is one signature per verification.
-/

set_option autoImplicit false

namespace PgpCard.SessionM

variable {τ κ : Type} [Link τ] [Channel κ]

/-- Has the card verify a PIN. -/
def verify (cls : PinClass) (pin : Pin) : SessionM τ κ Unit := do
  let r ← communicate (.verify cls) ((← session).setup.commands.verify cls pin.bytes)
  ensure r.isSuccess (.card "Bad PIN" r.status)
  change (·.update (.noteEvent cls .verified))

/-- Has the card verify the PIN of the session, unless the class is verified. -/
def verifyOwnPin (cls : PinClass) : SessionM τ κ Unit := do
  let s ← session
  if (s.pins.get cls).isVerified then return
  else match s.pin with
    | none => throw (.missingPin cls)
    | some pin => verify cls pin

/-- Has the card verify an admin PIN, unless that class is verified. -/
def verifyAdmin (pin : Pin) : SessionM τ κ Unit := do
  if ((← session).pins.get .admin).isVerified then return else verify .admin pin

/-- The payload of a successful answer; `action` says what failed otherwise. -/
def payloadOf (action : String) (r : Response) : SessionM τ κ Bytes := do
  ensure r.isSuccess (.card action r.status)
  return r.data

/-- Sends the command to sign, and uses the verification up whatever comes of it. -/
def requestSignature (digestInfo : Bytes) : SessionM τ κ Response := do
  let command := (← session).setup.commands.sign digestInfo
  (communicate .sign command).andThen fun _ b => b.useSignature

/-- Signs a digest with the signature key. -/
def sign (digestInfo : Bytes) : SessionM τ κ Bytes := do
  verifyOwnPin .signature
  payloadOf "Failed to sign" (← requestSignature digestInfo)

/-- Deciphers a session key with the decryption key. -/
def decipher (encrypted : Bytes) : SessionM τ κ Bytes := do
  verifyOwnPin .other
  let r ← communicate .decipher ((← session).setup.commands.decipher encrypted)
  payloadOf "Failed to decipher" r

end PgpCard.SessionM
