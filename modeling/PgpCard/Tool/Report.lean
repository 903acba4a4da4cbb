import PgpCard.Card.ApplicationData
import PgpCard.Card.TokenInfo
import PgpCard.Reader.Basic

/-!
# `PgpCard.Tool.Report`: what the tool prints

Every report is a list of lines. A key slot whose fingerprint is all zeros holds no key.
-/

set_option autoImplicit false

namespace PgpCard.Tool.Report

/-- Lines as the tool prints them, each with its end. -/
def text (lines : List String) : String :=
  String.join (lines.map (· ++ "\n"))

/-- The name and version of the tool. -/
def version : List String := ["sectoken-cli 0.1.0"]

/-- How the tool is called. -/
def help : List String :=
  ["Inspect and use OpenPGP smart cards",
    "",
    "Usage: sectoken [OPTIONS] <COMMAND>",
    "",
    "Commands:",
    "  list        List available readers",
    "  info        Show what the token reports about itself",
    "  verify-pin  Verify a PIN (--pin PIN, --admin for PW3)",
    "  sign        Sign a DigestInfo given in hex (--pin PIN DATA)",
    "  decipher    Decipher a session key given in hex (--pin PIN DATA)",
    "",
    "Options:",
    "  -r, --reader <READER>  Reader to use instead of the first with a card",
    "  -v, --verbose          Trace level output",
    "  -h, --help             Print help",
    "  -V, --version          Print version"]

/-- One reader in a numbered list. -/
def readerLine (position : Nat) (r : Reader) : String :=
  let card :=
    match r.atr with
    | some atr => s!"ATR {Hex.upper atr}"
    | none => "no card"
  s!"{position + 1}. {r.name} ({r.interface.name}, {card})"

/-- The readers, numbered from one. -/
def readers (rs : List Reader) : List String :=
  "Available readers:" :: rs.mapIdx readerLine

/-- One key slot and its fingerprint. -/
def keyLine (slot : KeySlot) (fingerprint : Bytes) : String :=
  if fingerprint.all (· == 0) then s!"{slot.name} key: not present"
  else s!"{slot.name} key: {Hex.upper fingerprint}"

/-- What a token reports about itself. -/
def info (i : TokenInfo) : List String :=
  [s!"Token: {i.tokenType.name} over {i.kind.name}", s!"AID: {Hex.upper i.aid}"] ++
    (i.serialNumber?.map fun serial => s!"Serial number: {serial}").toList ++
    [s!"Cardholder: {i.holder}",
      s!"URL: {i.url}",
      s!"PIN retries: PW1 {i.pw1Retries.toNat}, PW3 {i.pw3Retries.toNat}",
      s!"Life cycle management: {i.managesLifeCycle}"] ++
    List.zipWith keyLine KeySlot.all i.fingerprints

/-- The secure messaging scheme, if there is one. -/
def schemeName (a : ApplicationData) : String :=
  match a.scheme? with
  | some scheme => scheme.name
  | none => "not supported"

/-- What the application of a token can do. -/
def capabilities (a : ApplicationData) : List String :=
  ["Capabilities:",
    s!"  Extended length: {a.card.extendedLength}",
    s!"  Command chaining: {a.card.chaining}",
    s!"  Key import: {a.hasKeyImport}",
    s!"  GET CHALLENGE: {a.hasGetChallenge}",
    s!"  Secure messaging: {schemeName a}",
    s!"  PW1 valid for multiple signatures: {a.multipleSignatures}"]

end PgpCard.Tool.Report
