import PgpCard.Proofs.Session.BringUp
import PgpCard.Proofs.Session.Run

/-!
# `PgpCard.Proofs.Session.Forgetting`: what is left after a loss

An exchange that finds the card without its state forgets what was known of the card. An
operation may have several exchanges and do something after each, so that whatever is known
at its end might have been known before the loss, or might have been learned after it.

`perform_forgets` says that neither happens. When any exchange of an operation has met a loss,
the session knows nothing of a card after that operation: it has no descriptors and no
verifications. It has no channel either, unless a key agreement goes on after a failed exchange
and comes up with one.

Most steps are `Candid`: a loss is their outcome, and ends the operation. A key agreement is
not, since the provider decides what to make of it. So it matters that the agreement is the
last stage of a bring-up (`Candid.bind_forgot`).
-/

set_option autoImplicit false

namespace PgpCard

open Step

/-- The agreement ends when an exchange fails, and then without a channel. -/
def Handshake.Stops {κ : Type} : Handshake κ → Prop
  | .done _ => True
  | .send _ next => (∀ e, ∃ fault, next (.error e) = .done (.error fault)) ∧ ∀ o, (next o).Stops

/-- The provider of the session gives up at the first exchange that fails. -/
def Session.Stops {κ : Type} (s : Session κ) : Prop :=
  ∀ provider a, s.setup.provider = some provider → (provider a).Stops

namespace Event

/-- The entry tells how an exchange has ended. -/
def isConclusion : Event → Bool
  | .concluded _ _ => true
  | _ => false

theorem isConclusion_of_isWork {e : Event} (h : e.isWork = true) : e.isConclusion = false := by
  cases e with
  | concluded p o => exact nomatch h
  | _ => rfl

/-- Where no exchange has ended, none has met a loss. -/
theorem any_isLoss_of_quiet {events : List Event} (h : ∀ e ∈ events, e.isConclusion = false) :
    events.any isLoss = false := by
  rw [List.any_eq_false]
  intro e he hloss
  have hquiet := h e he
  cases e with
  | concluded p o => exact nomatch hquiet
  | _ => exact nomatch hloss

end Event

namespace Bench

variable {τ κ : Type}

/-! ### Changes without an exchange -/

/-- A change of the bench without an exchange, which leaves the link and keeps the setup. -/
def Quiet (f : Bench τ κ → Bench τ κ) : Prop :=
  ∀ b, (f b).link = b.link ∧ (f b).session.setup = b.session.setup ∧
    ∃ events, (f b).journal = events ++ b.journal ∧ ∀ e ∈ events, e.isConclusion = false

theorem quiet_clearChannel : Quiet (τ := τ) (κ := κ) clearChannel := by
  intro b
  have hworked := worked_clearChannel b
  obtain ⟨work, hjournal, hwork⟩ := hworked.journal
  refine ⟨b.link_clearChannel, ?_, work, hjournal, fun e he => ?_⟩
  · rw [hworked.session]
  · exact Event.isConclusion_of_isWork (hwork e he)

theorem session_installChannel (state : κ) (b : Bench τ κ) : (b.installChannel state).session =
    { b.session with channel := some { id := b.clearChannel.nextChannel, state } } := by
  rw [installChannel, update, record, session_clearChannel]

theorem quiet_record {e : Event} (h : e.isConclusion = false) :
    Quiet (τ := τ) (κ := κ) (·.record e) := fun _ =>
  ⟨rfl, rfl, [e], rfl, List.forall_mem_singleton.mpr h⟩

theorem quiet_update {f : Session κ → Session κ} (h : ∀ s, (f s).setup = s.setup) :
    Quiet (τ := τ) (·.update f) := fun b => ⟨rfl, h b.session, [], rfl, by simp⟩

/-- One change after the other. -/
theorem Quiet.comp {f g : Bench τ κ → Bench τ κ} (hg : Quiet g) (hf : Quiet f) :
    Quiet fun b => g (f b) := by
  intro b
  obtain ⟨hlink, hsetup, events, hjournal, hquiet⟩ := hf b
  obtain ⟨hlink', hsetup', events', hjournal', hquiet'⟩ := hg (f b)
  refine ⟨hlink'.trans hlink, hsetup'.trans hsetup, events' ++ events, ?_,
    List.forall_mem_append.mpr ⟨hquiet', hquiet⟩⟩
  rw [hjournal', hjournal, List.append_assoc]

/-- A note, and then a change of the session. -/
theorem quiet_note {e : Event} {f : Session κ → Session κ} (he : e.isConclusion = false)
    (hf : ∀ s, (f s).setup = s.setup) : Quiet (τ := τ) fun b => (b.record e).update f :=
  (quiet_update hf).comp (quiet_record he)

theorem quiet_installChannel (state : κ) : Quiet (τ := τ) (κ := κ) (installChannel state) :=
  fun b => (Quiet.comp (quiet_note rfl fun _ => rfl) quiet_clearChannel) b

theorem quiet_useSignature : Quiet (τ := τ) (κ := κ) (·.useSignature) := fun b =>
  quiet_note rfl (fun _ => rfl) b

theorem quiet_dropAdmin : Quiet (τ := τ) (κ := κ) (·.dropAdmin) := quiet_note rfl fun _ => rfl

theorem quiet_teardown : Quiet (τ := τ) (κ := κ) teardown :=
  have hforget : Quiet (τ := τ) (κ := κ) forgetCard :=
    (quiet_update fun _ => rfl).comp quiet_clearChannel
  (quiet_update fun _ => rfl).comp (hforget.comp (quiet_record rfl))

/-- The start of a bring-up notes that the link is open and drops the channel. -/
theorem quiet_clean : Quiet (τ := τ) (κ := κ) SessionM.clean :=
  (quiet_update fun _ => rfl).comp (quiet_clearChannel.comp (quiet_record rfl))

theorem quiet_afterBringUp (o : Except Error Unit) :
    Quiet (τ := τ) (κ := κ) (SessionM.afterBringUp o) := by
  intro b
  cases o <;> exact ⟨rfl, rfl, [], rfl, by simp⟩

/-! ### What is forgotten -/

/-- From the one bench to the other `events` were noted. If they tell of a loss, then nothing
is known of a card, up to a channel that a provider has come up with after all. -/
structure Forgot (events : List Event) (b b' : Bench τ κ) : Prop where
  journal : b'.journal = events ++ b.journal
  setup : b'.session.setup = b.session.setup
  session : events.any Event.isLoss = true →
    b'.session.application = none ∧ b'.session.card = none ∧ b'.session.pins = .fresh
  channel : events.any Event.isLoss = true → b.session.Stops → b'.session.channel = none

/-- Without a loss there is nothing to forget. -/
theorem Forgot.of_no_loss {events : List Event} {b b' : Bench τ κ}
    (hjournal : b'.journal = events ++ b.journal) (hsetup : b'.session.setup = b.session.setup)
    (h : events.any Event.isLoss = false) : Forgot events b b' := by
  refine ⟨hjournal, hsetup, fun hloss => ?_, fun hloss => ?_⟩
  all_goals exact absurd hloss (ne_true_of_eq_false h)

theorem Quiet.forgot {f : Bench τ κ → Bench τ κ} (h : Quiet f) (b : Bench τ κ) :
    ∃ events, events.any Event.isLoss = false ∧ Forgot events b (f b) := by
  obtain ⟨-, hsetup, events, hjournal, hquiet⟩ := h b
  have hloss := Event.any_isLoss_of_quiet hquiet
  exact ⟨events, hloss, .of_no_loss hjournal hsetup hloss⟩

/-- Without a loss so far, what follows decides. -/
theorem Forgot.after {events events' : List Event} {b b' b'' : Bench τ κ}
    (h : Forgot events b b') (hquiet : events.any Event.isLoss = false)
    (h' : Forgot events' b' b'') : Forgot (events' ++ events) b b'' := by
  have hany : (events' ++ events).any Event.isLoss = events'.any Event.isLoss := by
    rw [List.any_append, hquiet, Bool.or_false]
  refine ⟨?_, h'.setup.trans h.setup, fun hloss => h'.session (hany ▸ hloss), fun hloss hstops => ?_⟩
  · rw [h'.journal, h.journal, List.append_assoc]
  · refine h'.channel (hany ▸ hloss) ?_
    unfold Session.Stops at hstops ⊢
    rw [h.setup]
    exact hstops

end Bench

namespace SessionM

variable {τ κ : Type}

/-- A loss is met just if it is the outcome, and then nothing is known of a card. -/
def Candid {α : Type} (step : SessionM τ κ α) : Prop :=
  ∀ b, ∃ events, (run step b).2.journal = events ++ b.journal ∧
    (run step b).2.session.setup = b.session.setup ∧
    events.any Event.isLoss = Outcome.lost (run step b).1 ∧
    (Outcome.lost (run step b).1 = true → (run step b).2.session.Blank)

/-- What a candid step leaves. -/
theorem Candid.forgot {α : Type} {step : SessionM τ κ α} (h : Candid step) (b : Bench τ κ) :
    ∃ events, events.any Event.isLoss = Outcome.lost (run step b).1 ∧
      b.Forgot events (run step b).2 := by
  obtain ⟨events, hjournal, hsetup, hlost, hblank⟩ := h b
  refine ⟨events, hlost, hjournal, hsetup, fun hloss => ?_, fun hloss _ => ?_⟩
  · have hforgotten := hblank (hlost.symm.trans hloss)
    exact ⟨hforgotten.application, hforgotten.card, hforgotten.pins⟩
  · exact (hblank (hlost.symm.trans hloss)).channel

/-- What comes after a candid step need not be candid itself. -/
theorem Candid.bind_forgot {α β : Type} {step : SessionM τ κ α} {next : α → SessionM τ κ β}
    (h : Candid step) (hnext : ∀ a b, ∃ events, Bench.Forgot events b (run (next a) b).2)
    (b : Bench τ κ) : ∃ events, b.Forgot events (run (step >>= next) b).2 := by
  obtain ⟨events, hlost, hforgot⟩ := h.forgot b
  rcases hrun : run step b with ⟨e | a, b'⟩
  · rw [run_bind_of_error hrun]
    rw [hrun] at hforgot
    exact ⟨events, hforgot⟩
  · -- The step went on, so it has met no loss.
    rw [run_bind_of_ok hrun]
    rw [hrun] at hforgot hlost
    obtain ⟨events', hforgot'⟩ := hnext a b'
    exact ⟨_, hforgot.after hlost hforgot'⟩

theorem candid_composable : Composable (τ := τ) (κ := κ) fun _ step => Candid step where
  pure _ b := ⟨[], rfl, rfl, rfl, nofun⟩
  refuse {α e} he b := by
    refine ⟨[], rfl, rfl, he.symm, fun hlost => ?_⟩
    exact absurd hlost (ne_true_of_eq_false he)
  session b := ⟨[], rfl, rfl, rfl, nofun⟩
  link b := ⟨[], rfl, rfl, rfl, nofun⟩
  bind {α β step next} hstep hnext b := by
    obtain ⟨events, hjournal, hsetup, hlost, hblank⟩ := hstep b
    rcases hrun : run step b with ⟨e | a, b'⟩
    · rw [run_bind_of_error hrun]
      rw [hrun] at hjournal hsetup hlost hblank
      exact ⟨events, hjournal, hsetup, hlost, hblank⟩
    · rw [run_bind_of_ok hrun]
      rw [hrun] at hjournal hsetup hlost
      obtain ⟨events', hjournal', hsetup', hlost', hblank'⟩ := hnext a b'
      refine ⟨events' ++ events, ?_, hsetup'.trans hsetup, ?_, hblank'⟩
      · rw [hjournal', hjournal, List.append_assoc]
      · rw [List.any_append, hlost, hlost']
        exact Bool.or_false _

theorem candid_change {f : Bench τ κ → Bench τ κ} (h : Bench.Quiet f) : Candid (change f) := by
  intro b
  obtain ⟨-, hsetup, events, hjournal, hquiet⟩ := h b
  exact ⟨events, hjournal, hsetup, Event.any_isLoss_of_quiet hquiet, nofun⟩

/-- The note of a signature finds nothing to use up where nothing is known. -/
theorem blank_useSignature {b : Bench τ κ} (h : b.session.Blank) : b.useSignature.session.Blank := by
  refine ⟨h.card, h.application, h.channel, ?_⟩
  show b.session.pins.apply .signature _ = _
  rw [h.pins, Session.multipleSignatures, h.application]
  rfl

variable [Link τ] [Channel κ]

theorem candid_communicate (purpose : Purpose) (c : Command) :
    Candid (communicate (τ := τ) (κ := κ) purpose c) := by
  intro b
  obtain ⟨o, b', hcourse, hrun⟩ := run_communicate_eq purpose c b
  obtain ⟨work, hjournal, hwork, -⟩ := hcourse.work
  have hexchanged := hcourse.exchanged
  rw [hrun]
  refine ⟨_, ?_, hexchanged.setup_and_pin.1,
    Event.any_isLoss_exchange purpose o c b.session.pins hwork, fun hlost => ?_⟩
  · show _ :: b'.journal = _
    rw [hjournal]
    exact congrArg _ (List.append_assoc work [_] _).symm
  · show b'.session.Blank
    rw [hexchanged.session_of_lost hlost]
    exact ⟨rfl, rfl, rfl, rfl⟩

theorem candid_verify (cls : PinClass) (pin : Pin) :
    Candid (verify (τ := τ) (κ := κ) cls pin) := by
  refine candid_composable.bind candid_composable.session fun s => ?_
  refine candid_composable.bind (candid_communicate (.verify cls) _) fun r => ?_
  refine candid_composable.bind (candid_composable.ensure _ rfl) fun _ => ?_
  exact candid_change (Bench.quiet_update fun _ => rfl)

theorem candid_requestSignature (digestInfo : Bytes) :
    Candid (requestSignature (τ := τ) (κ := κ) digestInfo) := by
  refine candid_composable.bind candid_composable.session fun s => ?_
  intro b
  obtain ⟨events, hjournal, hsetup, hlost, hblank⟩ := candid_communicate .sign
    (s.setup.commands.sign digestInfo) b
  rw [run_andThen]
  rcases hrun : run (communicate .sign (s.setup.commands.sign digestInfo)) b with ⟨o, b'⟩
  rw [hrun] at hjournal hsetup hlost hblank
  refine ⟨.signatureUsed b'.session.multipleSignatures :: events, ?_, hsetup, hlost,
    fun h => blank_useSignature (hblank h)⟩
  exact congrArg _ hjournal

theorem candid_serves : Serves (τ := τ) (κ := κ) fun _ step => Candid step :=
  { candid_composable with
    communicate := fun purpose c _ _ _ => candid_communicate purpose c
    verify := candid_verify
    requestSignature := candid_requestSignature
    describe := fun _ => candid_change (Bench.quiet_update fun _ => rfl)
    useSignature := candid_change Bench.quiet_useSignature
    dropAdmin := candid_change Bench.quiet_dropAdmin }

/-! ### A bring-up -/

/-- An agreement that stops has failed where one of its exchanges has lost the card. -/
theorem handshake_stops {handshake : Handshake κ} (h : handshake.Stops) {b : Bench τ κ}
    {events : List Event}
    (hpassed : b.Passed [.handshake] events (run (handshake.run (communicate .handshake)) b).2)
    (hloss : events.any Event.isLoss = true) :
    ∃ fault, (run (handshake.run (communicate .handshake)) b).1 = .error fault := by
  have hends : ∀ c next, (Handshake.send c next : Handshake κ).Stops →
      (∀ e, ∃ fault, True ∧ next (.error e) = .done (.error fault)) ∧ ∀ o, (next o).Stops := by
    rintro c next ⟨hstops, hnext⟩
    exact ⟨fun e => (hstops e).imp fun _ => And.intro trivial, hnext⟩
  obtain ⟨-, fault, -, -, hfault⟩ := handshake_fails_of_loss hends handshake h hpassed.journal hloss
  exact ⟨fault, hfault⟩

omit [Link τ] [Channel κ] in
/-- To do without a channel changes nothing. -/
theorem withoutChannel_forgot {events : List Event} {b b' : Bench τ κ} (fault : SecureMessagingFault)
    (h : b.Forgot events b') : b.Forgot events (run (withoutChannel fault) b').2 := by
  rw [run_withoutChannel]
  exact h

omit [Link τ] [Channel κ] in
/-- What passes forgets a lost card, but possibly not the channel. -/
theorem session_of_passed {purposes : List Purpose} {events : List Event} {b b' : Bench τ κ}
    (h : b.Passed purposes events b') : b'.session.setup = b.session.setup ∧
      (events.any Event.isLoss = true →
        b'.session.application = none ∧ b'.session.card = none ∧ b'.session.pins = .fresh) := by
  rw [h.session]
  cases events.any Event.isLoss with
  | false => exact ⟨rfl, nofun⟩
  | true => exact ⟨rfl, fun _ => ⟨rfl, rfl, rfl⟩⟩

theorem agree_forgot (handshake : Handshake κ) (b : Bench τ κ)
    (hprovider : b.session.Stops → handshake.Stops) :
    ∃ events, b.Forgot events (run (agree handshake) b).2 := by
  obtain ⟨events, hpassed⟩ := handshake_passed handshake b
  have hends := fun hstops => handshake_stops (hprovider hstops) hpassed
  obtain ⟨hsetup, hsession⟩ := session_of_passed hpassed
  rw [run_agree]
  rcases hrun : run (handshake.run (communicate .handshake)) b with ⟨fault | state, b'⟩
  all_goals rw [hrun] at hpassed hends hsetup hsession
  · -- A failed agreement leaves no channel.
    have hworked := Bench.worked_clearChannel b'
    obtain ⟨work, hjournal, hwork⟩ := hworked.journal
    have hany : (work ++ events).any Event.isLoss = events.any Event.isLoss := by
      rw [List.any_append, Event.any_isLoss_of_isWork hwork, Bool.false_or]
    refine ⟨work ++ events, withoutChannel_forgot fault ⟨?_, ?_, fun hloss => ?_,
      fun _ _ => hworked.channel_eq_none⟩⟩
    · rw [hjournal, hpassed.journal, List.append_assoc]
    · rw [hworked.session]
      exact hsetup
    · rw [hworked.session]
      exact hsession (hany ▸ hloss)
  · obtain ⟨-, hsetup', later, hjournal, hquiet⟩ := Bench.quiet_installChannel state b'
    have hany : (later ++ events).any Event.isLoss = events.any Event.isLoss := by
      rw [List.any_append, Event.any_isLoss_of_quiet hquiet, Bool.false_or]
    dsimp only at hpassed hsetup hsession ⊢
    refine ⟨later ++ events, ?_, hsetup'.trans hsetup, fun hloss => ?_, fun hloss hstops => ?_⟩
    · rw [hjournal, hpassed.journal, List.append_assoc]
    · rw [Bench.session_installChannel]
      exact hsession (hany ▸ hloss)
    · -- An agreement that stops would not have come to a channel after a loss.
      obtain ⟨fault, hfault⟩ := hends hstops (hany ▸ hloss)
      exact nomatch hfault

theorem establish_forgot (b : Bench τ κ) : ∃ events, b.Forgot events (run establish b).2 := by
  rcases establish_cases b with ⟨a, provider, -, hprovider, -, hrun⟩ | ⟨hrun, -⟩
  all_goals rw [hrun]
  · exact agree_forgot _ b fun h => h provider a hprovider
  · exact ⟨[], withoutChannel_forgot _ (.of_no_loss rfl rfl rfl)⟩

/-- All stages before the key agreement are candid. -/
theorem bringUp_forgot (b : Bench τ κ) : ∃ events, b.Forgot events (run bringUp b).2 :=
  candid_composable.bringUp (Q := fun step => ∀ b, ∃ events, Bench.Forgot events b (run step b).2)
    (fun h hnext => h.bind_forgot hnext) (fun purpose c _ => candid_communicate purpose c)
    (fun _ h => candid_change (Bench.quiet_update h)) establish_forgot b

theorem connect_forgot (b : Bench τ κ) : ∃ events, b.Forgot events (run connect b).2 := by
  obtain ⟨hsession, hjournal⟩ := session_openLink b
  have hopened : b.Forgot [] (run openLink b).2 :=
    .of_no_loss hjournal (congrArg Session.setup hsession) rfl
  rw [run_connect]
  rcases hrun : run openLink b with ⟨e | ⟨⟩, b₀⟩
  all_goals rw [hrun] at hopened
  · exact ⟨[], hopened⟩
  · obtain ⟨start, hquiet, hclean⟩ := Bench.quiet_clean.forgot b₀
    obtain ⟨events, hbringUp⟩ := bringUp_forgot (clean b₀)
    have hforgot := (hopened.after rfl hclean).after (by rw [List.append_nil]; exact hquiet) hbringUp
    refine ⟨events ++ (start ++ []), ?_⟩
    dsimp only
    -- Dropping the descriptors of a failed bring-up forgets no less.
    cases (run bringUp (clean b₀)).1 with
    | ok u => exact hforgot
    | error e =>
      exact ⟨hforgot.journal, hforgot.setup, fun hloss => ⟨rfl, rfl, (hforgot.session hloss).2.2⟩,
        hforgot.channel⟩

/-! ### Whole operations -/

/-- After an operation in which an exchange has found the card without its state, the session
knows nothing of a card. -/
theorem perform_forgets (op : Operation κ) (b : Bench τ κ) :
    ∃ events, b.Forgot events (run op.perform b).2 := by
  have hquiet : ∀ {f : Bench τ κ → Bench τ κ}, Bench.Quiet f →
      ∃ events, b.Forgot events (f b) := by
    intro f hf
    obtain ⟨events, -, hforgot⟩ := hf.forgot b
    exact ⟨events, hforgot⟩
  have hanswered : ∀ {step : SessionM τ κ Unit}, (∃ events, b.Forgot events (run step b).2) →
      ∃ events, b.Forgot events (run (step >>= fun _ => pure Answer.done) b).2 := by
    intro step h
    rw [show run (step >>= _) b = _ from run_bind_pure step (fun _ => Answer.done) b]
    exact h
  have hservice : ∀ op : Operation κ, op.isService = true →
      ∃ events, b.Forgot events (run op.perform b).2 := by
    intro op hop
    obtain ⟨events, -, hforgot⟩ := (candid_serves.perform hop).forgot b
    exact ⟨events, hforgot⟩
  cases op with
  | connect => exact hanswered (connect_forgot b)
  | connectIfNecessary =>
    refine hanswered ?_
    rw [connectIfNecessary, run_session_bind, run_link_bind]
    split
    · exact ⟨[], .of_no_loss rfl rfl rfl⟩
    · exact connect_forgot b
  | installChannel state => exact hquiet (Bench.quiet_installChannel state)
  | clearChannel => exact hquiet Bench.quiet_clearChannel
  | teardown => exact hquiet Bench.quiet_teardown
  | _ => exact hservice _ rfl

/-! ### What is not learned again -/

/-- The session has no application data. -/
def Undescribed (b : Bench τ κ) : Prop := b.session.application = none

theorem undescribed_communicate (purpose : Purpose) (c : Command) :
    Keeps (Undescribed (τ := τ) (κ := κ)) (communicate purpose c) := by
  intro b hb
  obtain ⟨work, -, hpassed⟩ := communicate_passed purpose c b
  rw [Undescribed, hpassed.session]
  split
  · rfl
  · exact hb

theorem undescribed_uses :
    Uses (τ := τ) (κ := κ) fun _ step => Keeps Undescribed step :=
  { keeps_composable Undescribed with
    communicate := fun purpose c _ _ _ => undescribed_communicate purpose c
    verify := fun cls => keeps_verify (undescribed_communicate (.verify cls)) fun _ hb => hb
    requestSignature := keeps_requestSignature (undescribed_communicate .sign) fun _ hb => hb
    useSignature := fun _ hb => hb
    dropAdmin := fun _ hb => hb }

/-- Only an operation that may give it descriptors gives a session descriptors. -/
theorem undescribed_perform {op : Operation κ} {b : Bench τ κ} (hop : ¬ op.Describes b)
    (hb : Undescribed b) : Undescribed (run op.perform b).2 := by
  cases op with
  | connect | refresh | describe => exact absurd trivial hop
  | connectIfNecessary =>
    -- Without application data the session does not count as connected.
    have hclosed : b.session.isConnected b.link = false := by
      rw [Session.isConnected, hb]
      rfl
    exact absurd hclosed hop
  | installChannel state =>
    show (b.installChannel state).session.application = none
    rw [Bench.session_installChannel]
    exact hb
  | clearChannel =>
    show b.clearChannel.session.application = none
    rw [Bench.session_clearChannel]
    exact hb
  | teardown => exact rfl
  | _ => exact undescribed_uses.perform rfl b hb

end SessionM

end PgpCard
