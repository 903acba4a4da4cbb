import PgpCard.Session.Basic

/-!
# `PgpCard.Session.Exchange`: one logical command over the link

Every command of a session goes through `communicate`. It protects the command when a
channel is in use, sends it in the framing that the card understands, collects an answer
that comes in several parts, and checks the whole answer with the channel.

The framing depends on the card capabilities, where a card that has not been asked counts
as the baseline. With extended lengths a command goes out as it is. Otherwise it goes out
in short form if its data fits, as a chain if the card takes chains, and not at all if
not.

Two kinds of failure have consequences. A failure of channel work drops the channel. A
failure that means that the card has lost its state drops all that was learned from it.
-/

set_option autoImplicit false

namespace PgpCard

/-- How the sending of a chain ended. -/
inductive ChainOutcome where
  /-- All segments went out; the answer is the one to the last. -/
  | completed (response : Response)
  /-- The card refused segment `step` of `total`, counted from one. -/
  | aborted (step total : Nat) (status : StatusWord)
  deriving DecidableEq, Repr

namespace Link

variable {τ : Type} [Link τ]

/-- Exchanges one command, as a step that fails with session errors. -/
def transmitPlain (c : Command) : EStateM Error τ Response := fun link =>
  match transmit c link with
  | .ok r link => .ok r link
  | .error fault link => .error (.apdu fault) link

/-- Sends the segments of a chain of `total` from the one after `sent`. Only `90 00` lets
the next segment out; the last answer is taken whatever its status. -/
def transmitSegments (total : Nat) : Nat → List Command → EStateM Error τ ChainOutcome
  | _, [] => throw .cannotTransmit
  | _, [last] => do
    return .completed (← transmitPlain last)
  | sent, c :: rest => do
    let r ← transmitPlain c
    if r.isSuccess then transmitSegments total (sent + 1) rest
    else return .aborted (sent + 1) total r.status

/-- Sends a chain in order, up to the first segment that is refused. An empty chain is an
error, since there is nothing to send. -/
def transmitChain (chain : List Command) : EStateM Error τ ChainOutcome :=
  transmitSegments chain.length 0 chain

/-- Sends a command in the framing that the card understands. -/
def transmitFramed (commands : CommandSet) (card : CardCapabilities) (c : Command) :
    EStateM Error τ Response := do
  if card.extendedLength then transmitPlain c
  else if commands.fitsShort c then transmitPlain (commands.toShort c)
  else if card.chaining then
    match ← transmitChain (commands.chain c) with
    | .completed r => return r
    | .aborted step total status => throw (.chainAborted step total status)
  else throw .cannotTransmit

/-- Collects an answer in several parts: as long as the status announces more bytes, they
are fetched and put behind. After `limit` rounds with yet more bytes announced it gives up;
`left` is what remains of the limit. -/
def collect (getResponse : UInt8 → Command) (limit : Nat) :
    Nat → Response → EStateM Error τ Response
  | left, r =>
    match r.status.remaining? with
    | none => pure r
    | some sw2 =>
      match left with
      | 0 => throw (.continuationLimit limit)
      | left + 1 => do
        let next ← transmitPlain (getResponse sw2)
        let rest ← collect getResponse limit left next
        -- The status of the whole answer is the last one.
        return { rest with data := r.data ++ rest.data }

/-- A whole exchange without secure messaging: the command in its framing, and the answer
in all its parts. -/
def exchangePlain (commands : CommandSet) (maxRounds : Nat) (card : CardCapabilities)
    (c : Command) : EStateM Error τ Response := do
  let r ← transmitFramed commands card c
  collect commands.getResponse maxRounds maxRounds r

end Link

namespace SessionM

variable {τ κ : Type}

/-- Work of a channel in use. When it fails the channel is dropped and `stage` names the
failure. -/
def onChannel {α : Type} (stage : SecureMessagingStage) (channel : Installed κ)
    (work : EStateM SecureMessagingFault κ α) : SessionM τ κ α := fun b =>
  match work channel.state with
  | .ok a state => .ok a (b.update fun s => { s with channel := some { channel with state } })
  | .error fault _ => .error (.secureMessaging stage fault) b.clearChannel

variable [Channel κ]

/-- Protects a command, if a channel is in use, and tells by which channel. -/
def protect (c : Command) : SessionM τ κ (Command × Option Nat) := do
  match (← session).channelInUse? with
  | none => return (c, none)
  | some channel =>
    change (·.record (.wrapped channel.id))
    return (← onChannel .wrap channel (Channel.wrap c), some channel.id)

/-- Checks an answer, if a channel is in use. -/
def unprotect (r : Response) : SessionM τ κ Response := do
  match (← session).channelInUse? with
  | none => return r
  | some channel =>
    -- The channel has moved on since it protected the command, so it is looked up again.
    change (·.record (.unwrapped channel.id))
    onChannel .unwrap channel (Channel.unwrap r)

variable [Link τ]

/-- The exchange of a command that is protected already. -/
def exchangeFramed (c : Command) : SessionM τ κ Response := do
  let s ← session
  onLink id (Link.exchangePlain s.setup.commands s.setup.config.maxRounds s.cardOrBaseline c)

/-- What an exchange that ended like this means for the session: a card that has lost its
state is forgotten. -/
def afterExchange : Except Error Response → Bench τ κ → Bench τ κ
  | .ok _, b => b
  | .error e, b => if e.lostCard then b.forgetCard else b

/-- An exchange without the entries that tell of its purpose. -/
def exchange (c : Command) : SessionM τ κ Response := do
  let (framed, channel) ← protect c
  change (·.record (.framed framed channel))
  -- A loss is dealt with at once, before anybody else sees the failure.
  let r ← (exchangeFramed framed).andThen afterExchange
  unprotect r

/-- Exchanges one logical command with the token. -/
def communicate (purpose : Purpose) (c : Command) : SessionM τ κ Response := do
  change fun b => b.record (.dispatched purpose c b.session.pins)
  (exchange c).andThen fun outcome b => b.record (.concluded purpose outcome)

end SessionM

end PgpCard
