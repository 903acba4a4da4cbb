import PgpCard.Proofs.Link.Tap
import PgpCard.Proofs.Session.Exchange
import PgpCard.Proofs.Session.Run
import PgpCard.Simulator.ScriptedLink
import PgpCard.Simulator.ToyChannel

/-!
# `PgpCard.Proofs.Session.BringUp`: how a bring-up ends

A bring-up opens the link, clears away what was known, and then has a number of exchanges.
`Bench.Passed` says what any number of exchanges does to a session: a card that was lost in
one of them is forgotten, and otherwise no more than the channel changes. A single exchange
is the case of `run_communicate`, and the exchanges of a key agreement follow by induction on
the agreement (`handshake_passed`). What the agreement makes of a loss is its own affair, but one
that ends with the first failed exchange comes to nothing after it (`handshake_fails_of_loss`).

`InProgress` is the invariant of a bring-up from the opening of the link on. Nothing is
verified and no channel is in use until the very last step, which may take one into use and
then succeeds (`bringUp_ends`).

So a bring-up that fails leaves nothing of an earlier card state, if only it got past the
opening of the link. `blank_of_connect_error_iff` says so, and it says what is left when the
link did not open: everything, also what was verified with a card that may be gone.
-/

set_option autoImplicit false

namespace PgpCard

open Step

namespace Event

/-- The entry belongs to an exchange for one of these purposes. -/
def isAmong (purposes : List Purpose) : Event → Bool
  | .dispatched p _ _ | .concluded p _ => decide (p ∈ purposes)
  | e => e.isWork

/-- The entry tells that an exchange found the card without its state. -/
def isLoss : Event → Bool
  | .concluded _ o => Outcome.lost o
  | _ => false

/-- The entry tells that an exchange has cost the session its channel. -/
def drops : Event → Bool
  | .concluded _ o => Outcome.dropsChannel o
  | _ => false

/-- Work belongs to an exchange for whatever purpose. -/
theorem isAmong_of_isWork {purposes : List Purpose} {e : Event} (h : e.isWork = true) :
    e.isAmong purposes = true := by
  cases e with
  | framed | wrapped | unwrapped | cleared => rfl
  | _ => exact nomatch h

/-- An exchange for one of some purposes is one for one of more purposes. -/
theorem isAmong_mono {purposes purposes' : List Purpose} (h : purposes ⊆ purposes') {e : Event}
    (he : e.isAmong purposes = true) : e.isAmong purposes' = true := by
  cases e with
  | dispatched p c pins => exact decide_eq_true (h (of_decide_eq_true he))
  | concluded p o => exact decide_eq_true (h (of_decide_eq_true he))
  | _ => exact he

/-- No loss is noted inside of an exchange. -/
theorem isLoss_of_isWork {e : Event} (h : e.isWork = true) : e.isLoss = false := by
  cases e with
  | concluded p o => exact nomatch h
  | _ => rfl

theorem any_isLoss_of_isWork {work : List Event} (h : ∀ e ∈ work, e.isWork = true) :
    work.any isLoss = false := by
  rw [List.any_eq_false]
  intro e he
  exact ne_true_of_eq_false (isLoss_of_isWork (h e he))

/-- An exchange loses the card if it ends as a loss, whatever its work was. -/
theorem any_isLoss_exchange (purpose : Purpose) (o : Except Error Response) (c : Command)
    (pins : PinStates) {work : List Event} (hwork : ∀ e ∈ work, e.isWork = true) :
    (concluded purpose o :: (work ++ [dispatched purpose c pins])).any isLoss
      = Outcome.lost o := by
  rw [List.any_cons, List.any_append, any_isLoss_of_isWork hwork]
  exact Bool.or_false _

end Event

namespace Bench

variable {τ κ : Type}

/-- Some exchanges for these purposes took the one bench to the other, and `events` tells of
them. If the card was lost in one of them it is forgotten, and otherwise the session changed
no more than its channel. -/
structure Passed (purposes : List Purpose) (events : List Event) (b b' : Bench τ κ) : Prop where
  journal : b'.journal = events ++ b.journal
  among : ∀ e ∈ events, e.isAmong purposes = true
  session : b'.session =
    { (if events.any Event.isLoss then b.session.forgetToken else b.session) with
      channel := b'.session.channel }
  channel : b.session.channel = none → b'.session.channel = none

theorem Passed.refl (purposes : List Purpose) (b : Bench τ κ) : Passed purposes [] b b :=
  ⟨rfl, by simp, rfl, id⟩

/-- Exchanges and then more exchanges are exchanges. -/
theorem Passed.trans {purposes : List Purpose} {events events' : List Event}
    {b b' b'' : Bench τ κ} (h : Passed purposes events b b')
    (h' : Passed purposes events' b' b'') : Passed purposes (events' ++ events) b b'' := by
  refine ⟨?_, List.forall_mem_append.mpr ⟨h'.among, h.among⟩, ?_,
    fun hb => h'.channel (h.channel hb)⟩
  · rw [h'.journal, h.journal, List.append_assoc]
  · -- What was forgotten once is not forgotten further by forgetting it again.
    rw [h'.session, h.session, List.any_append]
    cases events'.any Event.isLoss <;> cases events.any Event.isLoss <;> rfl

/-- Exchanges without a loss change no more than the channel. -/
theorem Passed.session_of_no_loss {purposes : List Purpose} {events : List Event}
    {b b' : Bench τ κ} (h : Passed purposes events b b') (hloss : events.any Event.isLoss = false) :
    b'.session = { b.session with channel := b'.session.channel } := by
  have hsession := h.session
  rw [hloss] at hsession
  exact hsession

/-- Whatever passes, nothing is verified by it. -/
theorem Passed.pins {purposes : List Purpose} {events : List Event} {b b' : Bench τ κ}
    (h : Passed purposes events b b') (hb : b.session.pins = .fresh) :
    b'.session.pins = .fresh := by
  rw [h.session]
  cases events.any Event.isLoss with
  | false => exact hb
  | true => rfl

end Bench

/-- Nothing of a card state is known: there are no descriptors, no channel and no
verifications. -/
structure Session.Blank {κ : Type} (s : Session κ) : Prop where
  card : s.card = none
  application : s.application = none
  channel : s.channel = none
  pins : s.pins = .fresh

namespace SessionM

/-- A key agreement goes on with what came of its exchange. -/
theorem run_handshake_send {κ σ : Type} (exchange : Command → EStateM Error σ Response) (c : Command)
    (next : Except Error Response → Handshake κ) (s : σ) :
    run ((Handshake.send c next).run exchange) s =
      run ((next (run (exchange c) s).1).run exchange) (run (exchange c) s).2 := by
  simp only [run, Handshake.run]
  cases exchange c s <;> rfl

variable {τ κ : Type}

/-! ### A bring-up in progress -/

/-- What the commands of a bring-up are for. -/
def bringUpPurposes : List Purpose := [.probe, .select, .read .applicationData, .handshake]

/-- A bring-up that began at the one bench has come to the other. It has not taken a channel
into use yet. -/
structure InProgress (b₀ b : Bench τ κ) : Prop where
  journal : b₀.Wrote (Event.isAmong bringUpPurposes) b
  channel : b.session.channel = none
  pins : b.session.pins = .fresh

/-- Exchanges for a purpose of the bring-up belong to it. -/
theorem InProgress.passed {b₀ b b' : Bench τ κ} {purposes : List Purpose} {events : List Event}
    (h : InProgress b₀ b) (hsub : purposes ⊆ bringUpPurposes)
    (hpassed : b.Passed purposes events b') : InProgress b₀ b' := by
  have hwrote : b.Wrote (Event.isAmong bringUpPurposes) b' :=
    ⟨events, hpassed.journal, fun e he => Event.isAmong_mono hsub (hpassed.among e he)⟩
  exact ⟨h.journal.trans hwrote, hpassed.channel h.channel, hpassed.pins h.pins⟩

/-- How a bring-up that began at `b₀` can end: as it is in progress, or with a channel taken
into use, and then it is a success. -/
def Ends (b₀ : Bench τ κ) (o : Except Error Unit) (b : Bench τ κ) : Prop :=
  InProgress b₀ b ∨
    o = .ok () ∧ ∃ b₁ state, InProgress b₀ b₁ ∧ b = b₁.installChannel state

/-- To do without a channel is an error just if a channel is required. -/
theorem run_withoutChannel (fault : SecureMessagingFault) (b : Bench τ κ) :
    run (withoutChannel fault) b =
      (if b.session.setup.config.require then .error (.secureMessaging .establish fault) else .ok (),
        b) := by
  rw [withoutChannel, run_session_bind, ensure]
  cases b.session.setup.config.require <;> rfl

theorem withoutChannel_ends (b₀ : Bench τ κ) (fault : SecureMessagingFault) :
    Ensures (InProgress b₀) (withoutChannel fault) (Ends b₀) := by
  intro b hb
  rw [run_withoutChannel]
  exact Or.inl hb

/-- Where there is no channel there is nothing to drop. -/
theorem clearChannel_of_channel_eq_none {b : Bench τ κ} (h : b.session.channel = none) :
    b.clearChannel = b := by
  rw [Bench.clearChannel, h]

variable [Link τ] [Channel κ]

/-! ### The stages of a bring-up -/

/-- One exchange passes, and it is a loss of the card if it ends as one. -/
theorem communicate_passed (purpose : Purpose) (c : Command) (b : Bench τ κ) :
    ∃ work, (∀ e ∈ work, e.isWork = true) ∧
      b.Passed [purpose] (.concluded purpose (run (communicate purpose c) b).1 ::
        (work ++ [.dispatched purpose c b.session.pins])) (run (communicate purpose c) b).2 := by
  obtain ⟨o, b', hexchanged, hrun⟩ := run_communicate purpose c b
  rw [hrun]
  obtain ⟨work, hjournal, hwork⟩ := hexchanged.journal
  refine ⟨work, hwork, ?_, ?_, ?_, ?_⟩
  · -- The announcement comes first and the end comes last, with the work in between.
    show _ :: b'.journal = _
    rw [hjournal]
    cases Outcome.lost o <;> simp [Bench.record, Bench.update]
  · intro e he
    rcases List.mem_cons.mp he with rfl | he
    · exact decide_eq_true List.mem_cons_self
    · rcases List.mem_append.mp he with he | he
      · exact Event.isAmong_of_isWork (hwork e he)
      · obtain rfl := List.mem_singleton.mp he
        exact decide_eq_true List.mem_cons_self
  · -- The entry about the end is a loss just when the session has forgotten the card.
    have hsession := hexchanged.session
    rw [Event.any_isLoss_exchange purpose o c b.session.pins hwork]
    cases hlost : Outcome.lost o with
    | false =>
      rw [hlost] at hsession
      exact hsession
    | true =>
      rw [hlost] at hsession
      exact hsession
  · -- No exchange takes a channel into use, since a channel keeps its number or is dropped.
    intro hb
    have hchannel := hexchanged.channel
    apply Option.map_eq_none_iff.mp
    show b'.session.channel.map Installed.id = none
    rw [hchannel]
    cases Outcome.dropsChannel o with
    | true => rfl
    | false =>
      cases Outcome.lost o with
      | true => exact Option.map_eq_none_iff.mpr hb
      | false => exact Option.map_eq_none_iff.mpr hb

/-- What each exchange keeps, all exchanges of a key agreement keep. -/
theorem keeps_handshake {I : Bench τ κ → Prop}
    (hcommunicate : ∀ c, Keeps I (communicate .handshake c)) (handshake : Handshake κ) :
    Keeps I (handshake.run (communicate .handshake)) := by
  induction handshake with
  | done result =>
    intro b hb
    cases result <;> exact hb
  | send c next ih =>
    intro b hb
    -- The provider sees what came of the exchange, and the rest may depend on it.
    rw [run_handshake_send]
    exact ih _ _ (hcommunicate c b hb)

/-- The exchanges of a key agreement pass, whatever it makes of them. -/
theorem handshake_passed (handshake : Handshake κ) (b : Bench τ κ) :
    ∃ events, b.Passed [.handshake] events (run (handshake.run (communicate .handshake)) b).2 := by
  have hcommunicate : ∀ c, Keeps (fun b' => ∃ events, b.Passed [.handshake] events b')
      (communicate .handshake c) := by
    rintro c b' ⟨events, hpassed⟩
    obtain ⟨work, -, hnext⟩ := communicate_passed .handshake c b'
    exact ⟨_, hpassed.trans hnext⟩
  exact keeps_handshake hcommunicate handshake b ⟨[], .refl _ b⟩

/-- An agreement that ends with the first exchange that fails has failed wherever one of its
exchanges has lost the card. `P` is what makes it end there, and `R` says which faults it makes of a
failure. The induction is on the agreement, along which the events come apart exchange by
exchange. -/
theorem handshake_fails_of_loss {P : Handshake κ → Prop} {R : Error → SecureMessagingFault → Prop}
    (hends : ∀ c next, P (.send c next) →
      (∀ e, ∃ fault, R e fault ∧ next (.error e) = .done (.error fault)) ∧ ∀ o, P (next o))
    (handshake : Handshake κ) :
    P handshake → ∀ {b : Bench τ κ} {events : List Event},
      (run (handshake.run (communicate .handshake)) b).2.journal = events ++ b.journal →
      events.any Event.isLoss = true →
      ∃ e fault, e.lostCard = true ∧ R e fault ∧
        (run (handshake.run (communicate .handshake)) b).1 = .error fault := by
  induction handshake with
  | done result =>
    intro _ b events hjournal hloss
    -- Nothing was exchanged.
    have hnone : events = [] := by
      cases result <;> exact List.self_eq_append_left.mp hjournal
    subst hnone
    exact nomatch hloss
  | send c next ih =>
    intro h b events hjournal hloss
    rw [run_handshake_send] at hjournal ⊢
    obtain ⟨hstops, hnext⟩ := hends c next h
    obtain ⟨work, hwork, hpassed⟩ := communicate_passed .handshake c b
    obtain ⟨later, hrest⟩ := handshake_passed (next (run (communicate .handshake c) b).1)
      (run (communicate .handshake c) b).2
    obtain rfl := List.append_cancel_right (hjournal.symm.trans (hpassed.trans hrest).journal)
    cases hlater : later.any Event.isLoss with
    | true => exact ih _ (hnext _) hrest.journal hlater
    | false =>
      -- The loss is the one of the first exchange, so the agreement has ended with it.
      rw [List.any_append, hlater, Bool.false_or, Event.any_isLoss_exchange _ _ _ _ hwork] at hloss
      rcases hrun : run (communicate .handshake c) b with ⟨e | r, b'⟩
      · obtain ⟨fault, hfault, hstop⟩ := hstops e
        rw [hrun] at hloss
        dsimp only
        rw [hstop]
        exact ⟨e, fault, hloss, hfault, rfl⟩
      · rw [hrun] at hloss
        exact nomatch hloss

theorem communicate_inProgress (b₀ : Bench τ κ) {purpose : Purpose}
    (h : purpose ∈ bringUpPurposes) (c : Command) :
    Keeps (InProgress b₀) (communicate purpose c) := by
  intro b hb
  obtain ⟨work, -, hpassed⟩ := communicate_passed purpose c b
  exact hb.passed (List.cons_subset.mpr ⟨h, List.nil_subset _⟩) hpassed

/-- A key agreement has its exchanges, and then a channel is there or is done without. -/
theorem run_agree (handshake : Handshake κ) (b : Bench τ κ) :
    run (agree handshake) b =
      match run (handshake.run (communicate .handshake)) b with
      | (.ok state, b) => (.ok (), b.installChannel state)
      | (.error fault, b) => run (withoutChannel fault) b.clearChannel := by
  simp only [run, agree]
  cases handshake.run (communicate .handshake) b <;> rfl

/-- An agreement is played where the configuration asks for it, the card offers it and there is a
provider. Otherwise the session does without a channel. -/
theorem establish_cases (b : Bench τ κ) :
    (∃ a provider, b.session.application = some a ∧ b.session.setup.provider = some provider ∧
      (b.session.setup.config.establish && a.offersScp11b) = true ∧
      run establish b = run (agree (provider a)) b) ∨
    run establish b = run (withoutChannel .unavailable) b ∧
      ∀ a provider, b.session.application = some a → b.session.setup.provider = some provider →
        (b.session.setup.config.establish && a.offersScp11b) = false := by
  rw [establish, run_session_bind]
  cases happlication : b.session.application with
  | none => exact Or.inr ⟨rfl, nofun⟩
  | some a =>
    cases hprovider : b.session.setup.provider with
    | none => exact Or.inr ⟨rfl, nofun⟩
    | some provider =>
      dsimp only
      cases hplayed : b.session.setup.config.establish && a.offersScp11b with
      | true => exact Or.inl ⟨a, provider, rfl, rfl, hplayed, rfl⟩
      | false =>
        refine Or.inr ⟨rfl, ?_⟩
        rintro a' provider' ⟨⟩ -
        exact hplayed

/-- What the exchanges and the changes of the channel keep, the second half of a bring-up keeps. -/
theorem keeps_settling {I : Bench τ κ → Prop}
    (hcommunicate : ∀ c, Keeps I (communicate .handshake c))
    (hdescribe : ∀ b a, I b → I (b.update (.describe a)))
    (hpins : ∀ b, I b → I (b.update fun s => { s with pins := .fresh }))
    (hclear : ∀ b, I b → I b.clearChannel) (hinstall : ∀ b state, I b → I (b.installChannel state))
    (data : Bytes) : Keeps I (settling data) := by
  have hwithout : ∀ fault, Keeps I (withoutChannel fault) := by
    intro fault b hb
    rw [run_withoutChannel]
    exact hb
  have hagree : ∀ handshake, Keeps I (agree handshake) := by
    intro handshake b hb
    have hkept := keeps_handshake hcommunicate handshake b hb
    rw [run_agree]
    rcases hrun : run (handshake.run (communicate .handshake)) b with ⟨fault | state, b'⟩
    all_goals rw [hrun] at hkept
    · exact hwithout fault _ (hclear b' hkept)
    · exact hinstall b' state hkept
  have hestablish : Keeps I establish := by
    intro b hb
    rcases establish_cases b with ⟨a, provider, -, -, -, hrun⟩ | ⟨hrun, -⟩
    all_goals rw [hrun]
    · exact hagree _ b hb
    · exact hwithout _ b hb
  refine Keeps.bind ((keeps_composable I).takeOver (fun a b hb => hdescribe b a hb) data) fun u => ?_
  intro b hb
  rw [run_change_bind]
  exact hestablish _ (hpins b hb)

theorem agree_ends (b₀ : Bench τ κ) (handshake : Handshake κ) :
    Ensures (InProgress b₀) (agree handshake) (Ends b₀) := by
  intro b hb
  obtain ⟨events, hpassed⟩ := handshake_passed handshake b
  have hprogress := hb.passed (by decide) hpassed
  rw [run_agree]
  rcases hrun : run (handshake.run (communicate .handshake)) b with ⟨fault | state, b'⟩
  all_goals rw [hrun] at hprogress
  · -- The agreement has failed before any channel was taken into use.
    have hclear : b'.clearChannel = b' := clearChannel_of_channel_eq_none hprogress.channel
    dsimp only
    rw [hclear]
    exact withoutChannel_ends b₀ fault b' hprogress
  · exact Or.inr ⟨rfl, b', state, hprogress, rfl⟩

theorem establish_ends (b₀ : Bench τ κ) : Ensures (InProgress b₀) establish (Ends b₀) := by
  intro b hb
  rcases establish_cases b with ⟨a, provider, -, -, -, hrun⟩ | ⟨hrun, -⟩
  all_goals rw [hrun]
  · exact agree_ends b₀ _ b hb
  · exact withoutChannel_ends b₀ _ b hb

theorem bringUp_ends (b₀ : Bench τ κ) : Ensures (InProgress b₀) bringUp (Ends b₀) := by
  have hstop : ∀ e b, InProgress b₀ b → Ends b₀ (.error e) b := fun _ _ h => Or.inl h
  have hidentify : Keeps (InProgress b₀) identify :=
    (keeps_composable _).identify fun c => communicate_inProgress b₀ (by decide) c
  have hrefresh : Keeps (InProgress b₀) refresh :=
    (keeps_composable _).refresh (fun c => communicate_inProgress b₀ (by decide) c)
      fun a b hb => ⟨hb.journal, hb.channel, hb.pins⟩
  unfold bringUp
  refine Ensures.bind hidentify (fun t b hb => ?_) hstop
  rw [run_change_bind, run_session_bind]
  -- The invariant does not speak of the family of the token.
  have hb' : InProgress b₀ (b.update fun s => { s with tokenType := some t }) :=
    ⟨hb.journal, hb.channel, hb.pins⟩
  refine Ensures.bind (communicate_inProgress b₀ (by decide) _) (fun r => ?_) hstop _ hb'
  refine Ensures.bind (Keeps.ensure _ _) (fun u => ?_) hstop
  refine Ensures.bind hrefresh (fun u b hb => ?_) hstop
  rw [run_change_bind]
  -- The second reset of the PIN states finds nothing to reset.
  exact establish_ends b₀ _ ⟨hb.journal, hb.channel, rfl⟩

/-! ### The whole of it -/

omit [Channel κ] in
/-- The opening of the link leaves the session and its journal alone. -/
theorem session_openLink (b : Bench τ κ) :
    (run openLink b).2.session = b.session ∧ (run openLink b).2.journal = b.journal := by
  rw [openLink, run_link_bind]
  split
  · exact ⟨rfl, rfl⟩
  · rw [run_onLink]
    exact ⟨rfl, rfl⟩

omit [Channel κ] in
/-- The opening of the link is not an exchange. -/
theorem exchanges_openLink (b : Bench (Tapped τ) κ) :
    (run openLink b).2.link.exchanges = b.link.exchanges := by
  rw [openLink, run_link_bind]
  split
  · rfl
  · rw [run_onLink]
    show (run (Tapped.behind Link.connect) b.link).2.exchanges = _
    unfold run Tapped.behind
    cases Link.connect b.link.link <;> rfl

omit [Channel κ] in
/-- An open link is not opened again. -/
theorem run_openLink_of_isConnected {b : Bench τ κ} (h : Link.isConnected b.link = true) :
    run openLink b = (.ok (), b) := by
  rw [openLink, run_link_bind, if_pos h]
  rfl

omit [Link τ] [Channel κ] in
/-- The start of a bring-up notes that the link is open, and drops the channel. -/
theorem journal_clean (b : Bench τ κ) :
    (clean b).journal = b.channelIds.map .cleared ++ .linkOpened :: b.journal :=
  Bench.journal_clearChannel (b.record .linkOpened)

omit [Link τ] [Channel κ] in
/-- A clean session has its setup, its PIN and the family of the token, and nothing else of
before. -/
theorem session_clean (b : Bench τ κ) : (clean b).session = { b.session with
    channel := none, pins := .fresh, card := some .baseline, application := none } := by
  show ({ (b.record .linkOpened).clearChannel.session with
    pins := .fresh, card := some .baseline, application := none } : Session κ) = _
  rw [Bench.session_clearChannel]
  rfl

omit [Link τ] [Channel κ] in
theorem link_clean (b : Bench τ κ) : (clean b).link = b.link :=
  Bench.link_clearChannel (b.record .linkOpened)

omit [Link τ] [Channel κ] in
/-- A bring-up starts without a channel and without verifications. -/
theorem clean_inProgress (b : Bench τ κ) : InProgress (clean b) (clean b) := by
  refine ⟨.refl _ _, ?_, rfl⟩
  rw [session_clean]

/-- A bring-up is over when the link does not open. Otherwise it starts from a clean
session, and its end is looked at. -/
theorem run_connect (b : Bench τ κ) :
    run connect b =
      match run openLink b with
      | (.error e, b) => (.error e, b)
      | (.ok (), b) =>
        ((run bringUp (clean b)).1,
          afterBringUp (run bringUp (clean b)).1 (run bringUp (clean b)).2) := by
  rw [connect, run_bind]
  rcases run openLink b with ⟨e | u, b'⟩
  · rfl
  · dsimp only
    rw [run_change_bind, run_andThen]

/-- What is said of the session and the journal only, and is kept by a bring-up from a clean
session, does not depend on whether the link opens. -/
theorem keeps_connect {I : Bench τ κ → Prop}
    (hopen : ∀ b b', I b → b'.session = b.session → b'.journal = b.journal → I b')
    (hbringUp : ∀ b, I b → I (run bringUp (clean b)).2)
    (hundescribe : ∀ b, I b → I (b.update .undescribe)) : Keeps I connect := by
  intro b hb
  rw [run_connect]
  obtain ⟨hsession, hjournal⟩ := session_openLink b
  rcases hrun : run openLink b with ⟨e | ⟨⟩, b₀⟩
  all_goals
    rw [hrun] at hsession hjournal
    have hopened : I b₀ := hopen b b₀ hb hsession hjournal
  · exact hopened
  · have hended := hbringUp b₀ hopened
    show I (afterBringUp (run bringUp (clean b₀)).1 (run bringUp (clean b₀)).2)
    cases (run bringUp (clean b₀)).1 with
    | ok u => exact hended
    | error e => exact hundescribe _ hended

/-- What a bring-up does until it has the application data. -/
def untilDescribed : SessionM τ κ Bytes := do
  openLink
  change clean
  reading

/-- A bring-up that does not come to the application data is over there. -/
theorem run_connect_of_undescribed {b b₁ : Bench τ κ} {e : Error}
    (h : run untilDescribed b = (.error e, b₁)) :
    (run connect b).1 = .error e ∧ (run connect b).2.link = b₁.link := by
  rw [run_connect]
  rw [untilDescribed, run_bind] at h
  rcases hopen : run openLink b with ⟨e' | ⟨⟩, b₀⟩ <;> rw [hopen] at h
  · obtain ⟨⟨⟩, rfl⟩ := Prod.mk.inj h
    exact ⟨rfl, rfl⟩
  · have hreading : run reading (clean b₀) = (.error e, b₁) := h
    show (run bringUp (clean b₀)).1 = _ ∧ (afterBringUp (run bringUp (clean b₀)).1 _).link = _
    rw [bringUp_eq, run_bind_of_error hreading]
    exact ⟨rfl, rfl⟩

/-- One that does goes on with the second half. -/
theorem run_connect_of_described {b b₁ : Bench τ κ} {data : Bytes}
    (h : run untilDescribed b = (.ok data, b₁)) :
    run connect b =
      ((run (settling data) b₁).1,
        afterBringUp (run (settling data) b₁).1 (run (settling data) b₁).2) := by
  rw [run_connect]
  obtain ⟨⟨⟩, b₀, hopen, hrest⟩ := run_bind_eq_ok h
  have hreading : run reading (clean b₀) = (.ok data, b₁) := hrest
  rw [hopen]
  dsimp only
  rw [bringUp_eq, run_bind_of_ok hreading]

/-- A bring-up that got past the opening of the link fails without descriptors, without a
channel and without verifications. -/
theorem blank_of_bringUp_error (b : Bench τ κ) {e : Error}
    (h : (run bringUp (clean b)).1 = .error e) :
    (afterBringUp (.error e) (run bringUp (clean b)).2).session.Blank := by
  have hends := bringUp_ends (clean b) (clean b) (clean_inProgress b)
  rw [h] at hends
  rcases hends with hprogress | ⟨hok, -⟩
  · -- The descriptors are dropped at the end, and the rest was never there.
    exact ⟨rfl, rfl, hprogress.channel, hprogress.pins⟩
  · exact nomatch hok

/-- When a bring-up fails nothing of an earlier card state is left, provided that the link
opened or that nothing had been there before. If the link did not open, the session is what
it was. -/
theorem blank_of_connect_error_iff {b b' : Bench τ κ} {e : Error}
    (h : connect.start b = (.error e, b')) :
    (b'.session.Blank ↔ (openLink.start b).1 = .ok () ∨ b.session.Blank) ∧
    ((openLink.start b).1 ≠ .ok () → b'.session = b.session) ∧
    (b'.session.Blank → ∀ (link : τ) (cls : PinClass),
      b'.session.isConnected link = false ∧ b'.session.pins.get cls = .unverified) := by
  rw [start_eq_run, run_connect] at h
  rw [start_eq_run]
  have hblank : b'.session.Blank → ∀ (link : τ) (cls : PinClass),
      b'.session.isConnected link = false ∧ b'.session.pins.get cls = .unverified := by
    intro h link cls
    refine ⟨?_, ?_⟩
    · rw [Session.isConnected, h.application]
      rfl
    · rw [h.pins]
      cases cls <;> rfl
  rcases hopen : run openLink b with ⟨fault | ⟨⟩, b₁⟩
  · -- The link did not open, and nothing was done.
    rw [hopen] at h
    obtain rfl : b₁ = b' := congrArg Prod.snd h
    have hsession : b₁.session = b.session := by
      have hkept := (session_openLink b).1
      rw [hopen] at hkept
      exact hkept
    refine ⟨?_, fun _ => hsession, hblank⟩
    rw [hsession]
    simp
  · -- The link opened, so the bring-up has failed in one of its later stages.
    rw [hopen] at h
    have herror : (run bringUp (clean b₁)).1 = .error e := congrArg Prod.fst h
    have hafter : afterBringUp (.error e) (run bringUp (clean b₁)).2 = b' := by
      rw [← herror]
      exact congrArg Prod.snd h
    have hforgotten : b'.session.Blank := by
      rw [← hafter]
      exact blank_of_bringUp_error b₁ herror
    exact ⟨⟨fun _ => Or.inl rfl, fun _ => hforgotten⟩, fun hne => absurd rfl hne, hblank⟩

open Simulator in
/-- A session that was brought up and has verified its PIN, on a link that answers nothing
more and opens again only if `opening` is no fault. -/
def trialBench (opening : Option Fault) : Bench ScriptedLink ToyChannel :=
  let link : ScriptedLink :=
    { tokenType := some .unknown, openings := [none, opening],
      turns := [.answer [0x90, 0x00], .answer [0x5F, 0x52, 0x04, 0x00, 0x05, 0x90, 0x00, 0x90, 0x00],
        .answer [0x90, 0x00]] }
  Operation.runAll { session := .new {} (some (.ofText "123456")), link }
    [.connect, .verifyOwnPin .other]

/-- A bring-up of a card that has stopped to answer leaves nothing. -/
theorem blank_of_connect_error_silent :
    ∃ e b', connect.start (trialBench none) = (.error e, b') ∧ b'.session.Blank := by
  rcases h : connect.start (trialBench none) with ⟨e | u, b'⟩
  · have hopen : (openLink.start (trialBench none)).1 = .ok () := by
      have hconnected : Link.isConnected (trialBench none).link = true := by decide +kernel
      rw [start_eq_run, run_openLink_of_isConnected hconnected]
    exact ⟨e, b', rfl, (blank_of_connect_error_iff h).1.mpr (Or.inl hopen)⟩
  · have hfails : (connect.start (trialBench none)).1.isOk = false := by decide +kernel
    rw [h] at hfails
    cases hfails

/-- After a bring-up that could not open the link, the session counts as connected and its
PIN as verified as soon as the link is open again. -/
theorem connect_error_of_closed_link_keeps_verified :
    let b := trialBench (some (.link .noCard))
    let closed := { b with link := { b.link with connected := false } }
    let after := connect.start closed
    after.1.isOk = false ∧ after.2.session.isConnected { after.2.link with connected := true } = true ∧
      after.2.session.pins.get .other = .verified := by
  decide +kernel

end SessionM

end PgpCard
