import PgpCard.Proofs.Link.Parts
import PgpCard.Proofs.Session.Course

/-!
# `PgpCard.Proofs.Session.Exchange`: what an exchange leaves behind

Every command of a session goes through `communicate`, so what an exchange can do to a
session has to be said once. `Exchanged` says it: the channel moves on, or is dropped; a
card that has lost its state is forgotten; nothing else of the session changes; and the
journal tells of the exchange and of nothing but its own work in between.
`run_communicate` proves it for every command, session and link.

The proof goes through the courses that an exchange can take. `Worked` is what their parts
have in common: the session changed no more than its channel. With which error a course ends
matters as well, since a failure of channel work drops the channel, and a loss of the card
forgets the card. That an error on the link is never one of channel work is
`exchangePlain_outside`.

`communicate_effect` spells the result out for the caller of an exchange. It adds that the
channel is cleared once, and only where it is dropped.
-/

set_option autoImplicit false

namespace PgpCard

open Step

/-- The entry tells of the work inside of one exchange. -/
def Event.isWork : Event → Bool
  | .framed _ _ | .wrapped _ | .unwrapped _ | .cleared _ => true
  | _ => false

/-- To clear channels is work. -/
theorem Event.isWork_of_mem_cleared (ids : List Nat) :
    ∀ e ∈ ids.map Event.cleared, e.isWork = true :=
  List.forall_mem_map.mpr fun _ _ => rfl

/-- The number of the channel that the entry tells to be cleared. -/
def Event.cleared? : Event → Option Nat
  | .cleared id => some id
  | _ => none

namespace Outcome

variable {α : Type}

/-- What ended like this has found the card without its state. -/
def lost : Except Error α → Bool
  | .ok _ => false
  | .error e => e.lostCard

/-- An exchange that ended like this leaves no channel. -/
def dropsChannel : Except Error α → Bool
  | .ok _ => false
  | .error (.secureMessaging _ _) => true
  | .error e => e.lostCard

/-- What ended like this did not fail in secure messaging. -/
def OutsideChannel (o : Except Error α) : Prop :=
  ∀ stage fault, o ≠ .error (.secureMessaging stage fault)

/-- A card that has lost its state leaves no channel. -/
theorem dropsChannel_of_lost {o : Except Error α} (h : lost o = true) : dropsChannel o = true := by
  cases o with
  | ok a => exact nomatch h
  | error e =>
    cases e with
    | secureMessaging stage fault => rfl
    | _ => exact h

/-- Outside of secure messaging the loss of the card is the one reason to drop a channel. -/
theorem dropsChannel_eq_lost {o : Except Error α} (h : OutsideChannel o) :
    dropsChannel o = lost o := by
  cases o with
  | ok a => rfl
  | error e =>
    cases e with
    | secureMessaging stage fault => exact absurd rfl (h stage fault)
    | _ => rfl

end Outcome

namespace Bench

variable {τ κ : Type}

/-- From the one bench to the other only entries that fit were written into the journal. -/
def Wrote (fits : Event → Bool) (b b' : Bench τ κ) : Prop :=
  ∃ events, b'.journal = events ++ b.journal ∧ ∀ e ∈ events, fits e = true

theorem Wrote.refl (fits : Event → Bool) (b : Bench τ κ) : Wrote fits b b := ⟨[], rfl, by simp⟩

/-- The latest entries are at the front. -/
theorem Wrote.trans {fits : Event → Bool} {b b' b'' : Bench τ κ} (h : Wrote fits b b')
    (h' : Wrote fits b' b'') : Wrote fits b b'' := by
  obtain ⟨events, hjournal, hfits⟩ := h
  obtain ⟨events', hjournal', hfits'⟩ := h'
  refine ⟨events' ++ events, ?_, List.forall_mem_append.mpr ⟨hfits', hfits⟩⟩
  rw [hjournal', hjournal, List.append_assoc]

/-- From the one bench to the other no more was done than work on one exchange: of the
session only the channel has changed. It was dropped if `drops`, and else it is still the
one of its number. -/
structure Worked (drops : Bool) (b b' : Bench τ κ) : Prop where
  session : b'.session = { b.session with channel := b'.session.channel }
  channel : b'.session.channel.map Installed.id =
    if drops then none else b.session.channel.map Installed.id
  journal : Wrote Event.isWork b b'

theorem Worked.refl (b : Bench τ κ) : Worked false b b := ⟨rfl, rfl, .refl _ b⟩

/-- Work and then more work is work. -/
theorem Worked.trans {drops : Bool} {b b' b'' : Bench τ κ} (h : Worked false b b')
    (h' : Worked drops b' b'') : Worked drops b b'' := by
  refine ⟨?_, ?_, h.journal.trans h'.journal⟩
  · rw [h'.session, h.session]
  · rw [h'.channel, h.channel]
    rfl

/-- An entry about work is part of the work. -/
theorem worked_record {e : Event} (h : e.isWork = true) (b : Bench τ κ) :
    Worked false b (b.record e) :=
  ⟨rfl, rfl, [e], rfl, by simpa using h⟩

/-- Dropping the channel is work that drops the channel. -/
theorem worked_clearChannel (b : Bench τ κ) : Worked true b b.clearChannel := by
  unfold clearChannel
  cases h : b.session.channel with
  | none => exact ⟨rfl, by rw [h]; rfl, .refl _ b⟩
  | some c => exact ⟨rfl, rfl, [.cleared c.id], rfl, by simp [Event.isWork]⟩

/-- Forgetting the token at both ends keeps the difference. -/
theorem Worked.forgetToken {drops : Bool} {b b' : Bench τ κ} (h : Worked drops b b') :
    Worked drops (b.update Session.forgetToken) (b'.update Session.forgetToken) := by
  refine ⟨?_, h.channel, h.journal⟩
  show b'.session.forgetToken = { b.session.forgetToken with channel := b'.session.channel }
  rw [h.session]
  rfl

/-- No channel is left. -/
theorem Worked.channel_eq_none {b b' : Bench τ κ} (h : Worked true b b') :
    b'.session.channel = none :=
  Option.map_eq_none_iff.mp h.channel

end Bench

/-! ### The exchange on the link -/

namespace Link

variable {τ : Type}

/-- Nothing on the link fails in secure messaging. -/
theorem outsideChannel_composable : Composable (τ := τ) fun _ step =>
    ∀ link, Outcome.OutsideChannel (run step link).1 where
  pure a link := nofun
  giveUp {α e} he link := by
    rintro stage fault heq
    obtain rfl : e = .secureMessaging stage fault := Except.error.inj heq
    exact nomatch he
  bind {α β step next} hstep hnext link := by
    rcases hrun : run step link with ⟨e | a, link'⟩
    · rw [run_bind_of_error hrun]
      intro stage fault heq
      have houtside := hstep link stage fault
      rw [hrun] at houtside
      cases heq
      exact houtside rfl
    · rw [run_bind_of_ok hrun]
      exact hnext a link'

variable [Link τ]

theorem transmitPlain_outside (c : Command) (link : τ) :
    Outcome.OutsideChannel (run (transmitPlain c) link).1 := by
  unfold run transmitPlain
  cases transmit c link with
  | ok r link => exact nofun
  | error fault link => exact nofun

theorem exchangePlain_outside (commands : CommandSet) (maxRounds : Nat) (card : CardCapabilities)
    (c : Command) (link : τ) :
    Outcome.OutsideChannel (run (exchangePlain commands maxRounds card c) link).1 :=
  outsideChannel_composable.exchangePlain maxRounds (fun s _ => transmitPlain_outside s)
    (fun _ => transmitPlain_outside _) link

end Link

/-! ### The exchange of the session -/

namespace SessionM

variable {τ κ : Type} [Channel κ]

/-- Making a command ready is work. -/
theorem Prepared.worked {c framed : Command} {tag : Option Nat} {b b₁ : Bench τ κ}
    (h : Prepared c b framed tag b₁) : b.Worked false b₁ := by
  cases h with
  | plain huse => exact .refl b
  | @wrapped channel _ state huse hwrap =>
    -- That the channel was asked is noted, and the channel moves on but keeps its number.
    refine (Bench.worked_record (e := .wrapped channel.id) rfl b).trans ⟨rfl, ?_, .refl _ _⟩
    show some channel.id = b.session.channel.map Installed.id
    rw [channel_of_channelInUse? huse]
    rfl

/-- What an exchange that ended like this leaves: its work was done on the session as it
was, or on what remains of it when the card is forgotten. -/
def Exchanged (o : Except Error Response) (b b' : Bench τ κ) : Prop :=
  (if Outcome.lost o then b.update Session.forgetToken else b).Worked (Outcome.dropsChannel o) b'

omit [Channel κ] in
/-- The sending is work. -/
theorem worked_sent {b b₁ : Bench τ κ} (h : b.Worked false b₁) (framed : Command)
    (tag : Option Nat) (link : τ) : b.Worked false (b₁.sent framed tag link) :=
  (h.trans (Bench.worked_record (e := .framed framed tag) rfl b₁)).trans ⟨rfl, rfl, .refl _ _⟩

variable [Link τ]

omit [Channel κ] in
/-- The exchange on the link does not fail in secure messaging. -/
theorem wire_outside {b : Bench τ κ} {framed : Command} {o : Except Error Response} {link : τ}
    (h : b.onWire framed = (o, link)) : Outcome.OutsideChannel o := by
  have houtside := Link.exchangePlain_outside b.session.setup.commands
    b.session.setup.config.maxRounds b.session.cardOrBaseline framed b.link
  rw [show (run _ b.link).1 = (b.onWire framed).1 from rfl, h] at houtside
  exact houtside

/-- An exchange comes to the link once, or the channel in use has failed before. On the link it
is a loss just if it is one, and it is answered there if it is answered. -/
theorem Course.onLink {c : Command} {o : Except Error Response} {b b' : Bench τ κ}
    (h : Course c b o b') :
    (b'.link = b.link ∧ ∃ fault, o = .error (.secureMessaging .wrap fault)) ∨
      ∃ framed wired, b.onWire framed = (wired, b'.link) ∧ Outcome.lost wired = Outcome.lost o ∧
        (∀ r, o = .ok r → ∃ r', wired = .ok r') := by
  cases h with
  | @notWrapped channel fault state huse hwrap =>
    exact Or.inl ⟨Bench.link_clearChannel _, fault, rfl⟩
  | @failed framed tag b₁ e link hprep hwire =>
    refine Or.inr ⟨framed, .error e, ?_, rfl, nofun⟩
    rw [link_afterExchange]
    exact hwire
  | answered hprep hwire huse => exact Or.inr ⟨_, _, hwire, rfl, fun r h => ⟨r, h⟩⟩
  | unwrapped hprep hwire huse hunwrap => exact Or.inr ⟨_, _, hwire, rfl, fun _ _ => ⟨_, rfl⟩⟩
  | @notUnwrapped framed tag b₁ r link channel fault state hprep hwire huse hunwrap =>
    -- The card has answered, and that the channel refuses the answer is no loss.
    refine Or.inr ⟨framed, .ok r, ?_, rfl, nofun⟩
    rw [Bench.link_clearChannel]
    exact hwire

omit [Link τ] [Channel κ] in
/-- A card that was lost is forgotten, and otherwise the session stays as it is. -/
theorem session_afterExchange (o : Except Error Response) (b : Bench τ κ) :
    (afterExchange o b).session =
      if Outcome.lost o then { b.session.forgetToken with channel := none } else b.session := by
  cases o with
  | ok r => rfl
  | error e =>
    show _ = if e.lostCard then _ else _
    cases hlost : e.lostCard with
    | false =>
      rw [afterExchange_of_kept hlost]
      rfl
    | true =>
      rw [afterExchange_of_lost hlost, Bench.session_forgetCard]
      rfl

/-- Whatever course an exchange takes, it leaves no more than that. -/
theorem Course.exchanged {c : Command} {o : Except Error Response} {b b' : Bench τ κ}
    (h : Course c b o b') : Exchanged o b b' := by
  cases h with
  | notWrapped huse hwrap =>
    -- Nothing has gone out, since the command could not be protected.
    exact (Bench.worked_record rfl b).trans (Bench.worked_clearChannel _)
  | @failed framed tag b₁ e link hprep hwire =>
    have hsent := worked_sent hprep.worked framed tag link
    rw [Exchanged, Outcome.dropsChannel_eq_lost (wire_outside hwire)]
    show Bench.Worked e.lostCard (if e.lostCard then b.update Session.forgetToken else b) _
    -- A failure on the link drops the channel only together with everything else.
    cases hlost : e.lostCard with
    | false =>
      rw [afterExchange_of_kept hlost]
      exact hsent
    | true =>
      rw [afterExchange_of_lost hlost]
      exact (hsent.trans (Bench.worked_clearChannel _)).forgetToken
  | answered hprep hwire huse => exact worked_sent hprep.worked _ _ _
  | @unwrapped framed tag b₁ r r' link channel state hprep hwire huse hunwrap =>
    have hsent := worked_sent hprep.worked framed tag link
    have hasked := hsent.trans (Bench.worked_record (e := .unwrapped channel.id) rfl _)
    refine hasked.trans ⟨rfl, ?_, .refl _ _⟩
    show some channel.id = b₁.session.channel.map Installed.id
    rw [channel_of_channelInUse? huse]
    rfl
  | @notUnwrapped framed tag b₁ r link channel fault state hprep hwire huse hunwrap =>
    -- The card has answered, so a failed check of the answer is no loss.
    have hsent := worked_sent hprep.worked framed tag link
    have hasked := hsent.trans (Bench.worked_record (e := .unwrapped channel.id) rfl _)
    exact hasked.trans (Bench.worked_clearChannel _)

/-- What every exchange does: it is announced in the journal, it works, and its end is
noted. -/
theorem run_communicate (purpose : Purpose) (c : Command) (b : Bench τ κ) :
    ∃ o b', Exchanged o (b.record (.dispatched purpose c b.session.pins)) b' ∧
      run (communicate purpose c) b = (o, b'.record (.concluded purpose o)) := by
  obtain ⟨o, b', hcourse, hrun⟩ := run_communicate_eq purpose c b
  exact ⟨o, b', hcourse.exchanged, hrun⟩

/-! ### The effect in full -/

section Effect

omit [Channel κ] [Link τ]

variable {o : Except Error Response} {b b' : Bench τ κ}

/-- Neither the session nor what is left of a forgotten card differs in setup or PIN. -/
theorem Exchanged.setup_and_pin (h : Exchanged o b b') :
    b'.session.setup = b.session.setup ∧ b'.session.pin = b.session.pin := by
  rw [h.session]
  cases Outcome.lost o <;> exact ⟨rfl, rfl⟩

/-- Where the card is lost, all that was learned from it is gone. -/
theorem Exchanged.session_of_lost (h : Exchanged o b b') (hlost : Outcome.lost o = true) :
    b'.session = { b.session with
      card := none, application := none, tokenType := none, pins := .fresh, channel := none } := by
  rw [Exchanged, hlost, Outcome.dropsChannel_of_lost hlost] at h
  rw [h.session, h.channel_eq_none]
  rfl

/-- Where the work of the channel fails, the channel is all that is gone. -/
theorem Exchanged.session_of_channel {stage : SecureMessagingStage} {fault : SecureMessagingFault}
    (h : Exchanged (.error (.secureMessaging stage fault)) b b') :
    b'.session = { b.session with channel := none } := by
  have hworked : b.Worked true b' := h
  rw [hworked.session, hworked.channel_eq_none]

/-- Otherwise the channel keeps its number, and all else stays as it was. -/
theorem Exchanged.session_of_kept (h : Exchanged o b b') (hlost : Outcome.lost o = false)
    (houtside : Outcome.OutsideChannel o) :
    b'.session = { b.session with channel := b'.session.channel } ∧
      b'.channelIds = b.channelIds := by
  rw [Exchanged, Outcome.dropsChannel_eq_lost houtside, hlost] at h
  refine ⟨h.session, ?_⟩
  unfold Bench.channelIds
  rw [h.channel]
  rfl

end Effect

omit [Link τ] in
/-- Making a command ready clears nothing. -/
theorem Prepared.cleared {c framed : Command} {tag : Option Nat} {b b₁ : Bench τ κ}
    (h : Prepared c b framed tag b₁) : b₁.channelIds = b.channelIds ∧
      b₁.journal.filterMap Event.cleared? = b.journal.filterMap Event.cleared? := by
  cases h with
  | plain huse => exact ⟨rfl, rfl⟩
  | wrapped huse hwrap =>
    refine ⟨?_, rfl⟩
    unfold Bench.channelIds
    rw [channel_of_channelInUse? huse]
    rfl

omit [Channel κ] [Link τ] in
/-- Dropping the channel clears it. -/
theorem cleared_clearChannel (b : Bench τ κ) :
    b.clearChannel.journal.filterMap Event.cleared? =
      b.channelIds ++ b.journal.filterMap Event.cleared? := by
  have hids : (b.channelIds.map Event.cleared).filterMap Event.cleared? = b.channelIds := by
    unfold Bench.channelIds
    cases b.session.channel <;> rfl
  rw [Bench.journal_clearChannel, List.filterMap_append, hids]

/-- An exchange clears the channel if it drops it, and nothing else. -/
theorem Course.cleared {c : Command} {o : Except Error Response} {b b' : Bench τ κ}
    (h : Course c b o b') : b'.journal.filterMap Event.cleared? =
      (if Outcome.dropsChannel o then b.channelIds else []) ++
        b.journal.filterMap Event.cleared? := by
  cases h with
  | notWrapped huse hwrap => exact cleared_clearChannel _
  | @failed framed tag b₁ e link hprep hwire =>
    obtain ⟨hids, hcleared⟩ := hprep.cleared
    rw [Outcome.dropsChannel_eq_lost (wire_outside hwire), ← hids, ← hcleared]
    show _ = (if e.lostCard then _ else _) ++ _
    cases hlost : e.lostCard with
    | false =>
      rw [afterExchange_of_kept hlost]
      rfl
    | true =>
      rw [afterExchange_of_lost hlost]
      exact cleared_clearChannel (b₁.sent framed tag link)
  | answered hprep hwire huse => exact hprep.cleared.2
  | unwrapped hprep hwire huse hunwrap => exact hprep.cleared.2
  | @notUnwrapped framed tag b₁ r link channel fault state hprep hwire huse hunwrap =>
    obtain ⟨hids, hcleared⟩ := hprep.cleared
    rw [cleared_clearChannel, ← hids, ← hcleared]
    rfl

/-- An exchange writes of its work, and of the clearing of the channel just if it drops it. -/
theorem Course.work {c : Command} {o : Except Error Response} {b b' : Bench τ κ}
    (h : Course c b o b') : ∃ work, b'.journal = work ++ b.journal ∧
      (∀ e ∈ work, e.isWork = true) ∧
      work.filterMap Event.cleared? = if Outcome.dropsChannel o then b.channelIds else [] := by
  obtain ⟨work, hjournal, hwork⟩ := h.exchanged.journal
  have hjournal' : b'.journal = work ++ b.journal := by
    rw [hjournal]
    cases Outcome.lost o <;> rfl
  refine ⟨work, hjournal', hwork, ?_⟩
  have hcleared := h.cleared
  rw [hjournal', List.filterMap_append] at hcleared
  exact List.append_cancel_right hcleared

/-- The host's own work on the channel is all that can fail in secure messaging here. -/
theorem Course.stage {c : Command} {b b' : Bench τ κ} {stage : SecureMessagingStage}
    {fault : SecureMessagingFault}
    (h : Course c b (.error (.secureMessaging stage fault)) b') : stage = .wrap ∨ stage = .unwrap := by
  cases h with
  | notWrapped huse hwrap => exact Or.inl rfl
  | failed hprep hwire => exact absurd rfl (wire_outside hwire stage fault)
  | notUnwrapped hprep hwire huse hunwrap => exact Or.inr rfl

/-- Without a channel in use only a loss of the card changes the session. -/
theorem Course.session_of_plain {c : Command} {o : Except Error Response} {b b' : Bench τ κ}
    (h : Course c b o b') (hplain : b.session.channelInUse? = none) :
    b'.session =
      if Outcome.lost o then { b.session.forgetToken with channel := none } else b.session := by
  obtain ⟨link, -, rfl⟩ := h.eq_of_plain hplain
  exact session_afterExchange o _

/-- What an exchange does to the session, by its outcome. The setup and the PIN are never
touched. When the card has lost its state, everything learned from it is gone, and the channel
was cleared. When the channel failed to protect the command or refused the answer, the channel
was cleared, and nothing else has changed. Whatever else comes of the exchange, the session
knows what it knew, with the channel that it had; one that is not in use is not even asked. -/
theorem communicate_effect (purpose : Purpose) (c : Command) (b : Bench τ κ) :
    let o := ((communicate purpose c).start b).1
    let b' := ((communicate purpose c).start b).2
    (b'.session.setup = b.session.setup ∧ b'.session.pin = b.session.pin) ∧
    ∃ events, b'.journal = events ++ b.journal ∧
      (Outcome.lost o = true →
        b'.session = { b.session with
          card := none, application := none, tokenType := none, pins := .fresh, channel := none } ∧
        events.filterMap Event.cleared? = b.channelIds) ∧
      (∀ stage fault, o = .error (.secureMessaging stage fault) →
        (stage = .wrap ∨ stage = .unwrap) ∧ b'.session = { b.session with channel := none } ∧
        events.filterMap Event.cleared? = b.channelIds) ∧
      (Outcome.lost o = false → Outcome.OutsideChannel o →
        b'.session = { b.session with channel := b'.session.channel } ∧
        b'.channelIds = b.channelIds ∧ events.filterMap Event.cleared? = [] ∧
        (b.session.channelInUse? = none → b'.session = b.session)) := by
  intro o b'
  obtain ⟨o₀, b₀, hcourse, hrun⟩ := run_communicate_eq purpose c b
  have ho : o = o₀ := by
    show ((communicate purpose c).start b).1 = o₀
    rw [start_eq_run, hrun]
  have hb' : b' = b₀.record (.concluded purpose o₀) := by
    show ((communicate purpose c).start b).2 = _
    rw [start_eq_run, hrun]
  rw [ho, hb']
  obtain ⟨work, hjournal, -, hcleared⟩ := hcourse.work
  have hexchanged := hcourse.exchanged
  have hevents : (.concluded purpose o₀ :: (work ++ [.dispatched purpose c b.session.pins])).filterMap
      Event.cleared? = if Outcome.dropsChannel o₀ then b.channelIds else [] := by
    rw [List.filterMap_cons, List.filterMap_append, hcleared]
    exact List.append_nil _
  refine ⟨?setup, .concluded purpose o₀ :: (work ++ [.dispatched purpose c b.session.pins]),
    ?journal, ?lost, ?channel, ?kept⟩
  case setup => exact hexchanged.setup_and_pin
  case journal =>
    show _ :: b₀.journal = _
    rw [hjournal, List.cons_append, List.append_assoc]
    rfl
  case lost =>
    intro hlost
    rw [Outcome.dropsChannel_of_lost hlost] at hevents
    exact ⟨hexchanged.session_of_lost hlost, hevents⟩
  case channel =>
    rintro stage fault rfl
    exact ⟨hcourse.stage, hexchanged.session_of_channel, hevents⟩
  case kept =>
    intro hlost houtside
    rw [Outcome.dropsChannel_eq_lost houtside, hlost] at hevents
    obtain ⟨hsession, hids⟩ := hexchanged.session_of_kept hlost houtside
    refine ⟨hsession, hids, hevents, fun hplain => ?_⟩
    have hunchanged := hcourse.session_of_plain hplain
    rw [hlost] at hunchanged
    exact hunchanged

end SessionM

end PgpCard
