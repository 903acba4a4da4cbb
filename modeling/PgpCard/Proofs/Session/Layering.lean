import PgpCard.Proofs.Link.Tap
import PgpCard.Proofs.Session.Exchange
import PgpCard.Simulator.ScriptedLink
import PgpCard.Simulator.ToyChannel

/-!
# `PgpCard.Proofs.Session.Layering`: secure messaging is one layer around an exchange

A channel in use protects a command once, before the command is brought into any framing, and
checks the answer once, after all of its parts were put together. In between the exchange is the
one that a session without a channel would have with the protected command.

`communicate_layers` compares the two. The plain session is the same bench without its channel
(`Bench.unprotected`), on a link with a tap, so that equal links have seen equal frames. Where
the plain exchange fails, the failure is passed on, and the channel is not asked again.

The comparison needs a channel that still has its keys after it has protected the command. One
that has not is not asked to check the answer. `Course.eq_of_wrapped` inverts the course of an
exchange under this condition.
-/

set_option autoImplicit false

namespace PgpCard

open Step

/-- The entry tells what a command or its answer goes through inside of an exchange. -/
def Event.isPassage : Event → Bool
  | .wrapped _ | .framed _ _ | .unwrapped _ => true
  | _ => false

namespace Bench

variable {τ κ : Type} (b : Bench τ κ)

/-- The same bench, where the session has no channel. -/
def unprotected : Bench τ κ := b.update fun s => { s with channel := none }

/-- The bench after a command went to the link that the channel has protected. -/
def sentBy (channel : Installed κ) (w : Command) (state : κ) (link : τ) : Bench τ κ :=
  ((b.record (.wrapped channel.id)).advance channel state).sent w (some channel.id) link

/-- That a channel was cleared is no passage of a command. -/
theorem passages_clearChannel :
    b.clearChannel.journal.filter Event.isPassage = b.journal.filter Event.isPassage := by
  rw [journal_clearChannel, List.filter_append, channelIds]
  cases b.session.channel <;> rfl

end Bench

namespace SessionM

variable {τ κ : Type} [Link τ] [Channel κ]

/-- A channel that cannot protect the command is dropped. -/
theorem Course.eq_of_not_wrapped {c : Command} {o : Except Error Response} {b b' : Bench τ κ}
    {channel : Installed κ} {fault : SecureMessagingFault} {state : κ} (h : Course c b o b')
    (huse : b.session.channelInUse? = some channel)
    (hwrap : Channel.wrap c channel.state = .error fault state) :
    o = .error (.secureMessaging .wrap fault) ∧
      b' = (b.record (.wrapped channel.id)).clearChannel := by
  have hunprepared : ∀ {framed tag b₁}, ¬Prepared c b framed tag b₁ := by
    intro framed tag b₁ hprep
    cases hprep with
    | plain hplain => exact nomatch hplain.symm.trans huse
    | wrapped huse' hwrap' =>
      obtain rfl := Option.some.inj (huse'.symm.trans huse)
      exact nomatch hwrap'.symm.trans hwrap
  cases h with
  | notWrapped huse' hwrap' =>
    obtain rfl := Option.some.inj (huse'.symm.trans huse)
    cases hwrap'.symm.trans hwrap
    exact ⟨rfl, rfl⟩
  | failed hprep | answered hprep | unwrapped hprep | notUnwrapped hprep =>
    exact absurd hprep hunprepared

/-- A channel that keeps its keys while it protects the command: what goes to the link is the
protected command, and an answer to it is checked by the channel as it is then. -/
theorem Course.eq_of_wrapped {c w : Command} {o : Except Error Response} {b b' : Bench τ κ}
    {channel : Installed κ} {state : κ} (h : Course c b o b')
    (huse : b.session.channelInUse? = some channel)
    (hwrap : Channel.wrap c channel.state = .ok w state)
    (hkeys : Channel.isEstablished state = true) :
    (∃ e, (b.onWire w).1 = .error e ∧ o = .error e ∧
      b' = afterExchange (.error e) (b.sentBy channel w state (b.onWire w).2)) ∨
    ∃ r, (b.onWire w).1 = .ok r ∧
      ((∃ r' state', Channel.unwrap r state = .ok r' state' ∧ o = .ok r' ∧
        b' = ((b.sentBy channel w state (b.onWire w).2).record (.unwrapped channel.id)).advance
          { channel with state } state') ∨
      ∃ fault state', Channel.unwrap r state = .error fault state' ∧
        o = .error (.secureMessaging .unwrap fault) ∧
        b' = ((b.sentBy channel w state (b.onWire w).2).record
          (.unwrapped channel.id)).clearChannel) := by
  -- The channel in use is known, and so is what it makes of the command.
  have hprepared : ∀ {framed tag b₁}, Prepared c b framed tag b₁ → framed = w ∧
      tag = some channel.id ∧ b₁ = (b.record (.wrapped channel.id)).advance channel state := by
    intro framed tag b₁ hprep
    cases hprep with
    | plain hplain => exact nomatch hplain.symm.trans huse
    | @wrapped channel' framed state' huse' hwrap' =>
      obtain rfl : channel' = channel := Option.some.inj (huse'.symm.trans huse)
      obtain ⟨rfl, rfl⟩ : framed = w ∧ state' = state := by
        rw [hwrap] at hwrap'
        cases hwrap'
        exact ⟨rfl, rfl⟩
      exact ⟨rfl, rfl, rfl⟩
  -- It still has its keys, so it is in use when the answer comes.
  have hstill : ∀ {channel'},
      ((b.record (.wrapped channel.id)).advance channel state).session.channelInUse? =
        some channel' ↔ channel' = { channel with state } := by
    intro channel'
    have hadvanced : ((b.record (.wrapped channel.id)).advance channel state).session.channelInUse?
        = some { channel with state } := if_pos hkeys
    rw [hadvanced, Option.some.injEq]
    exact eq_comm
  cases h with
  | @notWrapped channel' fault state' huse' hwrap' =>
    obtain rfl : channel' = channel := Option.some.inj (huse'.symm.trans huse)
    rw [hwrap] at hwrap'
    cases hwrap'
  | @failed framed tag b₁ e link hprep hwire =>
    obtain ⟨rfl, rfl, rfl⟩ := hprepared hprep
    exact Or.inl ⟨e, by rw [hwire], rfl, by rw [hwire]; rfl⟩
  | @answered framed tag b₁ r link hprep hwire huse₁ =>
    obtain ⟨rfl, rfl, rfl⟩ := hprepared hprep
    exact nomatch huse₁.symm.trans (hstill.mpr rfl)
  | @unwrapped framed tag b₁ r r' link channel' state' hprep hwire huse₁ hunwrap =>
    obtain ⟨rfl, rfl, rfl⟩ := hprepared hprep
    obtain rfl := hstill.mp huse₁
    exact Or.inr ⟨r, by rw [hwire], Or.inl ⟨r', state', hunwrap, rfl, by rw [hwire]; rfl⟩⟩
  | @notUnwrapped framed tag b₁ r link channel' fault state' hprep hwire huse₁ hunwrap =>
    obtain ⟨rfl, rfl, rfl⟩ := hprepared hprep
    obtain rfl := hstill.mp huse₁
    exact Or.inr ⟨r, by rw [hwire], Or.inr ⟨fault, state', hunwrap, rfl, by rw [hwire]; rfl⟩⟩

omit [Link τ] [Channel κ] in
theorem passages_afterExchange (o : Except Error Response) (b : Bench τ κ) :
    (afterExchange o b).journal.filter Event.isPassage = b.journal.filter Event.isPassage := by
  cases o with
  | ok r => rfl
  | error e =>
    cases hlost : e.lostCard with
    | false => rw [afterExchange_of_kept hlost]
    | true =>
      rw [afterExchange_of_lost hlost]
      exact b.passages_clearChannel

/-- Without its channel the session has the exchange of the command itself. -/
theorem start_communicate_unprotected (purpose : Purpose) (w : Command) (b : Bench τ κ) :
    ((communicate purpose w).start b.unprotected).1 = (b.onWire w).1 ∧
    ((communicate purpose w).start b.unprotected).2.link = (b.onWire w).2 ∧
    ((communicate purpose w).start b.unprotected).2.session =
      if Outcome.lost (b.onWire w).1 then { b.session.forgetToken with channel := none }
      else b.unprotected.session := by
  obtain ⟨o, b', hcourse, hrun⟩ := run_communicate_eq purpose w b.unprotected
  obtain ⟨link, hwire, rfl⟩ := hcourse.eq_of_plain rfl
  have hwire : b.onWire w = (o, link) := hwire
  rw [start_eq_run, hrun, hwire]
  exact ⟨rfl, link_afterExchange o _, session_afterExchange o _⟩

/-- The passages of one exchange are those by which the journal differs. -/
theorem exists_passages {purpose : Purpose} {c : Command} {o : Except Error Response}
    {b b' : Bench τ κ} (h : Course c (b.record (.dispatched purpose c b.session.pins)) o b')
    {passages : List Event} (hpassages : b'.journal.filter Event.isPassage =
      passages ++ b.journal.filter Event.isPassage) :
    ∃ events, (b'.record (.concluded purpose o)).journal = events ++ b.journal ∧
      events.filter Event.isPassage = passages := by
  obtain ⟨work, hjournal, -, -⟩ := h.work
  have hjournal' : b'.journal = (work ++ [.dispatched purpose c b.session.pins]) ++ b.journal := by
    rw [hjournal, List.append_assoc]
    rfl
  refine ⟨.concluded purpose o :: (work ++ [.dispatched purpose c b.session.pins]),
    congrArg _ hjournal', ?_⟩
  rw [hjournal', List.filter_append] at hpassages
  exact List.append_cancel_right hpassages

/-- An exchange with a channel in use is a plain exchange inside of the work of the channel. A
channel that cannot protect the command is dropped, and nothing is sent. Otherwise the link sees
what it would see if a session without a channel had been asked for the protected command, and
is left alike. The command has been protected once, before it went to the link. A failure of the
plain exchange is the failure of the whole, and the channel is asked nothing more. An answer of
the plain exchange, with all its parts, goes to the channel once, and what the channel makes of
it is the answer of the whole. Apart from the channel the session ends as the plain one. -/
theorem communicate_layers {b : Bench (Tapped τ) κ} {channel : Installed κ}
    (huse : b.session.channelInUse? = some channel) (purpose : Purpose) (c : Command) :
    let o := ((communicate purpose c).start b).1
    let b' := ((communicate purpose c).start b).2
    (∀ fault state, Channel.wrap c channel.state = .error fault state →
      o = .error (.secureMessaging .wrap fault) ∧ b'.link = b.link ∧
      b'.session = b.unprotected.session) ∧
    (∀ w state, Channel.wrap c channel.state = .ok w state → Channel.isEstablished state = true →
      let plain := (communicate purpose w).start b.unprotected
      b'.link = plain.2.link ∧
      (∃ events, b'.journal = events ++ b.journal ∧ events.filter Event.isPassage =
        (if plain.1.isOk then [.unwrapped channel.id] else []) ++
          [.framed w (some channel.id), .wrapped channel.id]) ∧
      (∀ e, plain.1 = .error e → o = .error e ∧ b'.session = { plain.2.session with
        channel := if e.lostCard then none else some { channel with state } }) ∧
      (∀ r, plain.1 = .ok r →
        (∀ r' state', Channel.unwrap r state = .ok r' state' → o = .ok r' ∧
          b'.session = { plain.2.session with
            channel := some { channel with state := state' } }) ∧
        (∀ fault state', Channel.unwrap r state = .error fault state' →
          o = .error (.secureMessaging .unwrap fault) ∧
          b'.session = { plain.2.session with channel := none }))) := by
  intro o b'
  obtain ⟨o₀, b₀, hcourse, hrun⟩ := run_communicate_eq purpose c b
  have ho : o = o₀ := by
    show ((communicate purpose c).start b).1 = o₀
    rw [start_eq_run, hrun]
  have hb' : b' = b₀.record (.concluded purpose o₀) := by
    show ((communicate purpose c).start b).2 = _
    rw [start_eq_run, hrun]
  rw [ho, hb']
  refine ⟨?unwrappable, ?layered⟩
  case unwrappable =>
    intro fault state hwrap
    obtain ⟨rfl, rfl⟩ := hcourse.eq_of_not_wrapped huse hwrap
    exact ⟨rfl, Bench.link_clearChannel _, Bench.session_clearChannel _⟩
  case layered =>
    intro w state hwrap hkeys plain
    obtain ⟨hplain, hlink, hsession⟩ := start_communicate_unprotected purpose w b
    have hplain : plain.1 = (b.onWire w).1 := hplain
    have hlink : plain.2.link = (b.onWire w).2 := hlink
    have hsession : plain.2.session = _ := hsession
    rw [hplain, hlink, hsession]
    rcases hcourse.eq_of_wrapped huse hwrap hkeys with ⟨e, hwire, rfl, rfl⟩ |
      ⟨r, hwire, ⟨r', state', hunwrap, rfl, rfl⟩ | ⟨fault, state', hunwrap, rfl, rfl⟩⟩
    all_goals have hwire : (b.onWire w).1 = _ := hwire; rw [hwire]
    · -- The exchange fails on the link.
      refine ⟨link_afterExchange _ _, ?_, ?_, nofun⟩
      · exact exists_passages hcourse (passages_afterExchange _ _)
      · rintro e' ⟨⟩
        refine ⟨rfl, ?_⟩
        show (afterExchange _ _).session = _
        rw [session_afterExchange, show Outcome.lost (.error e : Except Error Response) = e.lostCard
          from rfl]
        cases e.lostCard <;> rfl
    · -- The channel accepts the answer.
      refine ⟨rfl, exists_passages hcourse rfl, nofun, ?_⟩
      rintro r₁ ⟨⟩
      rw [hunwrap]
      refine ⟨?_, nofun⟩
      rintro r₂ state₂ ⟨⟩
      exact ⟨rfl, rfl⟩
    · -- The channel refuses the answer, and is dropped.
      refine ⟨Bench.link_clearChannel _, exists_passages hcourse ?_, nofun, ?_⟩
      · exact Bench.passages_clearChannel _
      · rintro r₁ ⟨⟩
        rw [hunwrap]
        refine ⟨nofun, ?_⟩
        rintro fault' state₂ ⟨⟩
        exact ⟨rfl, Bench.session_clearChannel _⟩

open Simulator in
/-- A protected command that goes out in two segments, and an answer in two parts. The frames are
those of the protected command, and the caller sees what the channel has made of both parts. -/
theorem communicate_layers_chained :
    let link : ScriptedLink :=
      { connected := true,
        turns := [.answer [0x90, 0x00], .answer [0x99, 0x61, 0x02],
          .answer [0x88, 0x12, 0x90, 0x00]] }
    let session : Session ToyChannel := { Session.new {} none with
      card := some { chaining := true }, channel := some ⟨0, { key := 0x33 }⟩ }
    let b : Bench (Tapped ScriptedLink) ToyChannel := { session, link := ⟨link, []⟩ }
    let c : Command :=
      { cla := 0x00, ins := 0x2A, p1 := 0x80, p2 := 0x86, data := some (List.replicate 300 0x55) }
    b.session.channelInUse? = some ⟨0, { key := 0x33 }⟩ ∧
    ((communicate .direct c).start b).1 = .ok ⟨[0xAA, 0xBB], .success⟩ ∧
    ((communicate .direct c).start b).2.link.frames.length = 3 := by
  intro link session b c
  let masked := ToyChannel.mask 0x33 c.payload
  let w : Command :=
    { c with cla := ToyChannel.protectedClass 0x00, data := some (masked ++ [ToyChannel.mac 0x33 masked]) }
  have huse : b.session.channelInUse? = some ⟨0, { key := 0x33 }⟩ := rfl
  obtain ⟨hlink, -, -, hanswered⟩ :=
    (communicate_layers huse .direct c).2 w { key := 0x33 } rfl rfl
  let plain := (communicate .direct w).start b.unprotected
  have hplain : plain.1.toOption = some ⟨[0x99, 0x88, 0x12], .success⟩ ∧
      plain.2.link.frames.length = 3 := by decide +kernel
  refine ⟨huse, ?_, ?_⟩
  · cases hr : plain.1 with
    | error e =>
      rw [hr] at hplain
      exact nomatch hplain.1
    | ok r =>
      rw [hr] at hplain
      obtain rfl := Option.some.inj hplain.1
      exact ((hanswered _ hr).1 _ { key := 0x33 } rfl).1
  · rw [hlink]
    exact hplain.2

end SessionM

end PgpCard
