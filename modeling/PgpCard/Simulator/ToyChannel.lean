import PgpCard.SecureMessaging

/-!
# `PgpCard.Simulator.ToyChannel`: a cipher suite for trials

The toy suite combines each byte with a one-byte key and appends one checksum byte. It
protects nothing, but it changes every command and notices changed answers, so it shows
where a session uses its channel. Its key agreement sends a fixed list of commands.
-/

set_option autoImplicit false

namespace PgpCard.Simulator

/-- A toy channel. -/
structure ToyChannel where
  key : UInt8
  /-- The channel has no keys. -/
  inactive : Bool := false
  /-- What every protection of a command fails with. -/
  wrapFault : Option SecureMessagingFault := none
  /-- What every check of an answer fails with. -/
  unwrapFault : Option SecureMessagingFault := none

namespace ToyChannel

/-- The checksum of a text: the sum of its bytes, combined with the key. -/
def mac (key : UInt8) (text : Bytes) : UInt8 :=
  text.foldl (· + ·) 0 ^^^ key

/-- Combines every byte with the key; doing so twice changes nothing. -/
def mask (key : UInt8) (text : Bytes) : Bytes :=
  text.map (· ^^^ key)

/-- The class byte of a protected command has bits 3 and 4 set. -/
def protectedClass (cla : UInt8) : UInt8 := cla ||| 0x0C

/-- Protects a command; afterwards it always has data. -/
def wrap (c : Command) : EStateM SecureMessagingFault ToyChannel Command := fun channel =>
  match channel.wrapFault with
  | some fault => .error fault channel
  | none =>
    let masked := mask channel.key c.payload
    let data := some (masked ++ [mac channel.key masked])
    .ok { c with cla := protectedClass c.cla, data } channel

/-- Checks an answer and uncovers its payload. -/
def unwrap (r : Response) : EStateM SecureMessagingFault ToyChannel Response := fun channel =>
  match channel.unwrapFault, r.data.getLast? with
  | some fault, _ => .error fault channel
  | none, none => .error (.malformed "missing MAC") channel
  | none, some check =>
    let masked := r.data.dropLast
    if check = mac channel.key masked then
      .ok { r with data := mask channel.key masked } channel
    else .error .macMismatch channel

instance : Channel ToyChannel where
  isEstablished channel := !channel.inactive
  wrap := wrap
  unwrap := unwrap

/-- Sends the commands one after another; each must be answered by `90 00`. -/
def agreement (result : Except SecureMessagingFault ToyChannel) :
    List Command → Handshake ToyChannel
  | [] => .done result
  | c :: rest => .send c fun
    | .error cause => .done (.error (.channel cause))
    | .ok r =>
      if r.isSuccess then agreement result rest
      else .done (.error (.handshake s!"card answered {r.status.render}"))

/-- A provider that sends the given commands to a card that offers SCP11b, and then ends
with the given result. -/
def provider (commands : List Command) (result : Except SecureMessagingFault ToyChannel) :
    Provider ToyChannel := fun a =>
  if a.offersScp11b then agreement result commands
  else .done (.error (.handshake "not offered"))

end ToyChannel

end PgpCard.Simulator
