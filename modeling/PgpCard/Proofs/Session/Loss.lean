import PgpCard.Proofs.Session.Connected
import PgpCard.Proofs.Session.Forgetting

/-!
# `PgpCard.Proofs.Session.Loss`: who learns that the card is lost

When an exchange finds the card without its state, whoever asked for the operation has to learn
that, since nothing known of the card holds any more. A tap on the link shows each exchange that
found it so (`Tapped.loses`), and the journal shows each exchange of the session that ended so
(`Event.isLoss`).

`Reports` is what most steps have: the two agree, and the step ends in a loss exactly when one
was met. It passes from single frames to exchanges, and from exchanges to operations.

A key agreement does not have it. What its exchanges come to goes to the provider, whose answer
is that there is no channel, and no error of secure messaging counts as a loss. Whether that is
an error at all depends on the configuration (`Swallowed`). `lost_iff_outside_agreement` draws
the line: an operation that has met a loss tells so exactly when it met one outside of a key
agreement.
-/

set_option autoImplicit false

namespace PgpCard

open Step

/-! ### The exchange on the link -/

/-- The exchange of a frame has found the card without its state. -/
def Tapped.loses : Bytes × Except Fault Bytes → Bool
  | (_, .ok _) => false
  | (_, .error fault) => fault.lostCard

namespace Link

variable {τ : Type}

/-- What was exchanged on the way to this outcome: a loss just if the outcome is one. -/
def Counted {α : Type} (t : Tapped τ) (o : Except Error α) (t' : Tapped τ) : Prop :=
  ∃ exchanges, t'.exchanges = t.exchanges ++ exchanges ∧
    exchanges.any Tapped.loses = Outcome.lost o

/-- A step that goes on has met no loss, so the step after it counts alone. -/
theorem additive_counted :
    Additive fun _ new o => new.any Tapped.loses = Outcome.lost o where
  pure _ := rfl
  giveUp {α e} he := by
    cases e with
    | chainAborted | cannotTransmit | continuationLimit => rfl
    | _ => exact nomatch he
  stop h := h
  goOn h h' := by
    rw [List.any_append, h, h']
    rfl

theorem counted_composable : Composable (τ := Tapped τ) fun _ step =>
    ∀ t, Counted t (run step t).1 (run step t).2 :=
  additive_counted.composable

variable [Link τ]

theorem transmitPlain_counted (c : Command) (t : Tapped τ) :
    Counted t (run (transmitPlain c) t).1 (run (transmitPlain c) t).2 := by
  refine adds_transmitPlain (Φ := fun _ new o => new.any Tapped.loses = Outcome.lost o)
    (fun _ _ => rfl) (fun fault => Bool.or_false _) (fun answer => ?_) t
  -- The card has answered, so whatever is wrong with the answer is no loss.
  cases Response.decode answer <;> rfl

theorem exchangePlain_counted (commands : CommandSet) (maxRounds : Nat) (card : CardCapabilities)
    (c : Command) (t : Tapped τ) :
    Counted t (run (exchangePlain commands maxRounds card c) t).1
      (run (exchangePlain commands maxRounds card c) t).2 :=
  counted_composable.exchangePlain maxRounds (fun s _ => transmitPlain_counted s)
    (fun _ => transmitPlain_counted _) t

end Link

/-! ### The steps of a session -/

namespace Bench

variable {τ κ : Type}

/-- From the one bench to the other these events were noted and these exchanges made. The two
agree about losses, and the setup was not touched. -/
structure Traced (events : List Event) (exchanges : List (Bytes × Except Fault Bytes))
    (b b' : Bench (Tapped τ) κ) : Prop where
  journal : b'.journal = events ++ b.journal
  tap : b'.link.exchanges = b.link.exchanges ++ exchanges
  counted : exchanges.any Tapped.loses = events.any Event.isLoss
  setup : b'.session.setup = b.session.setup

theorem Traced.refl (b : Bench (Tapped τ) κ) : Traced [] [] b b :=
  ⟨rfl, (List.append_nil _).symm, rfl, rfl⟩

/-- The journal grows at the front, and the tap at the end. -/
theorem Traced.trans {events events' : List Event}
    {exchanges exchanges' : List (Bytes × Except Fault Bytes)} {b b' b'' : Bench (Tapped τ) κ}
    (h : Traced events exchanges b b') (h' : Traced events' exchanges' b' b'') :
    Traced (events' ++ events) (exchanges ++ exchanges') b b'' := by
  refine ⟨?_, ?_, ?_, h'.setup.trans h.setup⟩
  · rw [h'.journal, h.journal, List.append_assoc]
  · rw [h'.tap, h.tap, List.append_assoc]
  · rw [List.any_append, List.any_append, h.counted, h'.counted]
    exact Bool.or_comm _ _

/-- What is quiet is traced without a loss. -/
theorem Quiet.traced {f : Bench (Tapped τ) κ → Bench (Tapped τ) κ} (h : Quiet f)
    (b : Bench (Tapped τ) κ) :
    ∃ events, Traced events [] b (f b) ∧ events.any Event.isLoss = false := by
  obtain ⟨hlink, hsetup, events, hjournal, hquiet⟩ := h b
  have hloss := Event.any_isLoss_of_quiet hquiet
  refine ⟨events, ⟨hjournal, ?_, hloss.symm, hsetup⟩, hloss⟩
  rw [hlink, List.append_nil]

/-- What led from the one bench to the other has met a loss just if `lost`, and none of them in
a key agreement. -/
def Reported (lost : Bool) (b b' : Bench (Tapped τ) κ) : Prop :=
  ∃ events exchanges, Traced events exchanges b b' ∧ events.any Event.isLoss = lost ∧
    ∀ e ∈ events, e.isLoss = true → e.isAmong [.handshake] = false

theorem Reported.refl (b : Bench (Tapped τ) κ) : Reported false b b :=
  ⟨[], [], .refl b, rfl, by simp⟩

/-- Without a loss so far, what follows decides. -/
theorem Reported.trans {lost : Bool} {b b' b'' : Bench (Tapped τ) κ} (h : Reported false b b')
    (h' : Reported lost b' b'') : Reported lost b b'' := by
  obtain ⟨events, exchanges, htraced, hlost, houtside⟩ := h
  obtain ⟨events', exchanges', htraced', hlost', houtside'⟩ := h'
  refine ⟨_, _, htraced.trans htraced', ?_, List.forall_mem_append.mpr ⟨houtside', houtside⟩⟩
  rw [List.any_append, hlost, hlost', Bool.or_false]

/-- A quiet change adds no loss, and takes none away. -/
theorem Reported.quiet {lost : Bool} {b b' : Bench (Tapped τ) κ} (h : Reported lost b b')
    {f : Bench (Tapped τ) κ → Bench (Tapped τ) κ} (hf : Quiet f) : Reported lost b (f b') := by
  obtain ⟨events, exchanges, htraced, hlost, houtside⟩ := h
  obtain ⟨later, htraced', hquiet⟩ := hf.traced b'
  refine ⟨_, _, htraced.trans htraced', ?_, List.forall_mem_append.mpr ⟨?_, houtside⟩⟩
  · rw [List.any_append, hquiet]
    exact hlost
  · intro e he hloss
    exact absurd hloss (List.any_eq_false.mp hquiet e he)

end Bench

namespace SessionM

variable {τ κ : Type}

/-- The step ends in a loss exactly when it has met one, and it has met none in a key
agreement. -/
def Reports {α : Type} (step : SessionM (Tapped τ) κ α) : Prop :=
  ∀ b : Bench (Tapped τ) κ, b.Reported (Outcome.lost (run step b).1) (run step b).2

theorem reports_composable : Composable (τ := Tapped τ) (κ := κ) fun _ step => Reports step where
  pure _ := Bench.Reported.refl
  refuse {α e} he b := by
    show b.Reported e.lostCard b
    rw [he]
    exact .refl b
  session := Bench.Reported.refl
  link := Bench.Reported.refl
  bind {α β step next} hstep hnext b := by
    have hreported := hstep b
    rcases hrun : run step b with ⟨e | a, b'⟩
    · rw [run_bind_of_error hrun]
      rw [hrun] at hreported
      exact hreported
    · -- The first step went on, so it has met no loss.
      rw [run_bind_of_ok hrun]
      rw [hrun] at hreported
      exact hreported.trans (hnext a b')

theorem reports_change {f : Bench (Tapped τ) κ → Bench (Tapped τ) κ} (h : Bench.Quiet f) :
    Reports (change f) := fun b => (Bench.Reported.refl b).quiet h

variable [Link τ] [Channel κ]

/-- An exchange ends in a loss exactly when one of its frames has met one. -/
theorem Course.counted {c : Command} {o : Except Error Response} {b b' : Bench (Tapped τ) κ}
    (h : Course c b o b') : Link.Counted b.link o b'.link := by
  rcases h.onLink with ⟨hlink, fault, rfl⟩ | ⟨framed, wired, hwire, hlost, -⟩
  · rw [hlink]
    exact ⟨[], (List.append_nil _).symm, rfl⟩
  · have hcounted : Link.Counted b.link (b.onWire framed).1 (b.onWire framed).2 :=
      Link.exchangePlain_counted _ _ _ framed b.link
    rw [hwire] at hcounted
    obtain ⟨exchanges, hexchanges, hany⟩ := hcounted
    exact ⟨exchanges, hexchanges, hany.trans hlost⟩

/-- An exchange for whatever purpose. -/
theorem communicate_traced (purpose : Purpose) (c : Command) (b : Bench (Tapped τ) κ) :
    ∃ events exchanges, Bench.Traced events exchanges b (run (communicate purpose c) b).2 ∧
      events.any Event.isLoss = Outcome.lost (run (communicate purpose c) b).1 ∧
      ∀ e ∈ events, e.isLoss = true → e.isAmong [.handshake] = decide (purpose = .handshake) := by
  obtain ⟨o, b', hcourse, hrun⟩ := run_communicate_eq purpose c b
  obtain ⟨work, hjournal, hwork, -⟩ := hcourse.work
  obtain ⟨exchanges, hexchanges, hlost⟩ := hcourse.counted
  have hloss := Event.any_isLoss_exchange purpose o c b.session.pins hwork
  rw [hrun]
  refine ⟨_, exchanges, ⟨?_, hexchanges, hlost.trans hloss.symm, hcourse.exchanged.setup_and_pin.1⟩,
    hloss, ?_⟩
  · show _ :: b'.journal = _
    rw [hjournal]
    exact congrArg _ (List.append_assoc work [_] _).symm
  · -- Only the end of the exchange can tell of a loss.
    intro e he hloss
    rcases List.mem_cons.mp he with rfl | he
    · exact decide_eq_decide.mpr List.mem_singleton
    · rcases List.mem_append.mp he with he | he
      · exact absurd hloss (ne_true_of_eq_false (Event.isLoss_of_isWork (hwork e he)))
      · obtain rfl := List.mem_singleton.mp he
        exact nomatch hloss

theorem reports_communicate (purpose : Purpose) (h : purpose ≠ .handshake) (c : Command) :
    Reports (communicate (τ := Tapped τ) (κ := κ) purpose c) := by
  intro b
  obtain ⟨events, exchanges, htraced, hlost, hagreement⟩ := communicate_traced purpose c b
  refine ⟨events, exchanges, htraced, hlost, fun e he hloss => ?_⟩
  rw [hagreement e he hloss]
  exact decide_eq_false h

omit [Link τ] [Channel κ] in
/-- What is noted after a step whatever came of it does not hide a loss. -/
theorem reports_andThen {α : Type} {step : SessionM (Tapped τ) κ α}
    {f : Bench (Tapped τ) κ → Bench (Tapped τ) κ} (hstep : Reports step) (h : Bench.Quiet f) :
    Reports (step.andThen fun _ => f) := by
  intro b
  rw [run_andThen]
  exact (hstep b).quiet h

theorem reports_verify (cls : PinClass) (pin : Pin) :
    Reports (verify (τ := Tapped τ) (κ := κ) cls pin) := by
  refine reports_composable.bind reports_composable.session fun s => ?_
  refine reports_composable.bind (reports_communicate (.verify cls) nofun _) fun r => ?_
  refine reports_composable.bind (reports_composable.ensure _ rfl) fun _ => ?_
  exact reports_change (Bench.quiet_update fun _ => rfl)

theorem reports_requestSignature (digestInfo : Bytes) :
    Reports (requestSignature (τ := Tapped τ) (κ := κ) digestInfo) := by
  refine reports_composable.bind reports_composable.session fun s => ?_
  exact reports_andThen (reports_communicate .sign nofun _) Bench.quiet_useSignature

theorem reports_serves : Serves (τ := Tapped τ) (κ := κ) fun _ step => Reports step :=
  { reports_composable with
    communicate := fun purpose c _ _ h => reports_communicate purpose h c
    verify := reports_verify
    requestSignature := reports_requestSignature
    describe := fun _ => reports_change (Bench.quiet_update fun _ => rfl)
    useSignature := reports_change Bench.quiet_useSignature
    dropAdmin := reports_change Bench.quiet_dropAdmin }

end SessionM

/-! ### The key agreement -/

/-- The agreement ends when an exchange fails, with that failure as its fault. -/
def Handshake.GivesUp {κ : Type} : Handshake κ → Prop
  | .done _ => True
  | .send _ next =>
    (∀ e, next (.error e) = .done (.error (.channel e))) ∧ ∀ o, (next o).GivesUp

/-- An agreement that gives up with its failure stops. -/
theorem Handshake.GivesUp.stops {κ : Type} {handshake : Handshake κ} (h : handshake.GivesUp) :
    handshake.Stops := by
  induction handshake with
  | done result => exact trivial
  | send c next ih => exact ⟨fun e => ⟨.channel e, h.1 e⟩, fun o => ih o (h.2 o)⟩

/-- The provider of the session tells of failed exchanges. -/
def Session.GivesUp {κ : Type} (s : Session κ) : Prop :=
  ∀ provider a, s.setup.provider = some provider → (provider a).GivesUp

namespace Outcome

/-- What a loss inside of a key agreement comes to: an error of secure messaging if the session
must not go on without a channel, and otherwise nothing. -/
def Swallowed {α : Type} (require : Bool) (o : Except Error α) : Prop :=
  if require then
    ∃ cause : Error, cause.lostCard = true ∧ o = .error (.secureMessaging .establish (.channel cause))
  else ∃ a, o = .ok a

/-- An answer that is turned into another one does not change what becomes of a loss. -/
theorem Swallowed.map {α β : Type} {require : Bool} {o : Except Error α} (h : Swallowed require o)
    (f : α → β) : Swallowed require (o.map f) := by
  unfold Swallowed at h ⊢
  cases require with
  | false =>
    obtain ⟨a, rfl⟩ := h
    exact ⟨f a, rfl⟩
  | true =>
    obtain ⟨cause, hcause, rfl⟩ := h
    exact ⟨cause, hcause, rfl⟩

end Outcome

namespace Bench

variable {τ κ : Type} {α : Type}

/-- What led from the one bench to the other with this outcome has told of the losses outside
of key agreements. One that it has met inside is swallowed. -/
def Told (o : Except Error α) (b b' : Bench (Tapped τ) κ) : Prop :=
  ∃ events exchanges, Traced events exchanges b b' ∧
    (Outcome.lost o = true ↔ ∃ e ∈ events, e.isLoss = true ∧ e.isAmong [.handshake] = false) ∧
    (events.any Event.isLoss = true → Outcome.lost o = false → b.session.GivesUp →
      Outcome.Swallowed b.session.setup.config.require o)

/-- Where every loss is reported, none is swallowed. -/
theorem Reported.told {o : Except Error α} {b b' : Bench (Tapped τ) κ}
    (h : Reported (Outcome.lost o) b b') : Told o b b' := by
  obtain ⟨events, exchanges, htraced, hlost, houtside⟩ := h
  refine ⟨events, exchanges, htraced, ?_, ?_⟩
  · rw [← hlost, List.any_eq_true]
    exact ⟨fun ⟨e, he, hloss⟩ => ⟨e, he, hloss, houtside e he hloss⟩,
      fun ⟨e, he, hloss, _⟩ => ⟨e, he, hloss⟩⟩
  · intro hloss hkept
    exact absurd (hlost.symm.trans hloss) (ne_true_of_eq_false hkept)

/-- Without a loss so far, what follows decides. -/
theorem Reported.trans_told {o : Except Error α} {b b' b'' : Bench (Tapped τ) κ}
    (h : Reported false b b') (h' : Told o b' b'') : Told o b b'' := by
  obtain ⟨events, exchanges, htraced, hlost, -⟩ := h
  obtain ⟨events', exchanges', htraced', htold, hswallowed⟩ := h'
  have hfirst : ∀ e ∈ events, e.isLoss ≠ true := List.any_eq_false.mp hlost
  refine ⟨_, _, htraced.trans htraced', htold.trans ?_, ?_⟩
  · constructor
    · rintro ⟨e, he, hloss⟩
      exact ⟨e, List.mem_append_left _ he, hloss⟩
    · rintro ⟨e, he, hloss, houtside⟩
      rcases List.mem_append.mp he with he | he
      · exact ⟨e, he, hloss, houtside⟩
      · exact absurd hloss (hfirst e he)
  · -- The setup is the one from before the first part.
    rw [List.any_append, hlost, Bool.or_false]
    unfold Session.GivesUp at hswallowed ⊢
    rw [htraced.setup] at hswallowed
    exact hswallowed

theorem Told.map {β : Type} {o : Except Error α} {b b' : Bench (Tapped τ) κ} (h : Told o b b')
    (f : α → β) : Told (o.map f) b b' := by
  have hlost : Outcome.lost (o.map f) = Outcome.lost o := by
    cases o <;> rfl
  obtain ⟨events, exchanges, htraced, htold, hswallowed⟩ := h
  refine ⟨events, exchanges, htraced, ?_, ?_⟩
  all_goals rw [hlost]
  · exact htold
  · exact fun hloss hkept hgivesUp => (hswallowed hloss hkept hgivesUp).map f

theorem Told.quiet {o : Except Error α} {b b' : Bench (Tapped τ) κ} (h : Told o b b')
    {f : Bench (Tapped τ) κ → Bench (Tapped τ) κ} (hf : Quiet f) : Told o b (f b') := by
  obtain ⟨events, exchanges, htraced, htold, hswallowed⟩ := h
  obtain ⟨later, htraced', hquiet⟩ := hf.traced b'
  have hlater : ∀ e ∈ later, e.isLoss ≠ true := List.any_eq_false.mp hquiet
  refine ⟨_, _, htraced.trans htraced', htold.trans ?_, ?_⟩
  · constructor
    · rintro ⟨e, he, hloss⟩
      exact ⟨e, List.mem_append_right _ he, hloss⟩
    · rintro ⟨e, he, hloss, houtside⟩
      rcases List.mem_append.mp he with he | he
      · exact absurd hloss (hlater e he)
      · exact ⟨e, he, hloss, houtside⟩
  · rw [List.any_append, hquiet]
    exact hswallowed

end Bench

namespace SessionM

variable {τ κ : Type} [Link τ] [Channel κ]

omit [Link τ] [Channel κ] in
/-- What comes first must report its losses, since what comes after has its own outcome. -/
theorem Reports.bind_told {α β : Type} {step : SessionM (Tapped τ) κ α}
    {next : α → SessionM (Tapped τ) κ β} (h : Reports step)
    (hnext : ∀ a (b : Bench (Tapped τ) κ), b.Told (run (next a) b).1 (run (next a) b).2) (b : Bench (Tapped τ) κ) :
    b.Told (run (step >>= next) b).1 (run (step >>= next) b).2 := by
  have hreported := h b
  rcases hrun : run step b with ⟨e | a, b'⟩
  · rw [run_bind_of_error hrun]
    rw [hrun] at hreported
    exact Bench.Reported.told hreported
  · rw [run_bind_of_ok hrun]
    rw [hrun] at hreported
    exact hreported.trans_told (hnext a b')

/-- The exchanges of an agreement pass, and the tap agrees about them. -/
theorem handshake_traced (handshake : Handshake κ) (b : Bench (Tapped τ) κ) :
    ∃ events exchanges,
      b.Passed [.handshake] events (run (handshake.run (communicate .handshake)) b).2 ∧
      Bench.Traced events exchanges b (run (handshake.run (communicate .handshake)) b).2 := by
  have hcommunicate : ∀ c, Keeps (fun b' => ∃ events exchanges, Bench.Traced events exchanges b b')
      (communicate (τ := Tapped τ) (κ := κ) .handshake c) := by
    rintro c b' ⟨events, exchanges, htraced⟩
    obtain ⟨events', exchanges', htraced', -⟩ := communicate_traced .handshake c b'
    exact ⟨_, _, htraced.trans htraced'⟩
  obtain ⟨events, hpassed⟩ := handshake_passed handshake b
  obtain ⟨events', exchanges, htraced⟩ :=
    keeps_handshake hcommunicate handshake b ⟨[], [], .refl b⟩
  -- The journal says which events they are.
  obtain rfl := List.append_cancel_right (hpassed.journal.symm.trans htraced.journal)
  exact ⟨events, exchanges, hpassed, htraced⟩

/-- An agreement that gives up has failed with a loss where one of its exchanges has met one. -/
theorem handshake_givesUp {handshake : Handshake κ} (h : handshake.GivesUp) {b : Bench τ κ}
    {events : List Event}
    (hpassed : b.Passed [.handshake] events (run (handshake.run (communicate .handshake)) b).2)
    (hloss : events.any Event.isLoss = true) :
    ∃ cause : Error, cause.lostCard = true ∧
      (run (handshake.run (communicate .handshake)) b).1 = .error (.channel cause) := by
  have hends : ∀ c next, (Handshake.send c next : Handshake κ).GivesUp →
      (∀ e, ∃ fault, fault = .channel e ∧ next (.error e) = .done (.error fault)) ∧
        ∀ o, (next o).GivesUp := by
    rintro c next ⟨hgivesUp, hnext⟩
    exact ⟨fun e => ⟨_, rfl, hgivesUp e⟩, hnext⟩
  obtain ⟨cause, fault, hcause, rfl, hfault⟩ :=
    handshake_fails_of_loss hends handshake h hpassed.journal hloss
  exact ⟨cause, hcause, hfault⟩

omit [Link τ] [Channel κ] in
/-- What becomes of an agreement that has failed, or of one that was not played. -/
theorem told_withoutChannel {fault : SecureMessagingFault} {events : List Event}
    {exchanges : List (Bytes × Except Fault Bytes)} {b b' : Bench (Tapped τ) κ}
    (htraced : Bench.Traced events exchanges b b')
    (hamong : ∀ e ∈ events, e.isLoss = true → e.isAmong [.handshake] = true)
    (hends : b.session.GivesUp → events.any Event.isLoss = true →
      ∃ cause : Error, cause.lostCard = true ∧ fault = .channel cause) :
    b.Told (run (withoutChannel fault) b').1 (run (withoutChannel fault) b').2 := by
  rw [run_withoutChannel, htraced.setup]
  refine ⟨events, exchanges, htraced, ?_, ?_⟩
  · -- Whether it is an error or not, it is no loss, and none was met outside.
    have hkept : ∀ require : Bool, Outcome.lost (if require then
        .error (.secureMessaging .establish fault) else .ok () : Except Error Unit) = false := by
      intro require
      cases require <;> rfl
    rw [hkept]
    refine ⟨nofun, ?_⟩
    rintro ⟨e, he, hloss, houtside⟩
    exact absurd (hamong e he hloss) (ne_true_of_eq_false houtside)
  · intro hloss _ hgivesUp
    obtain ⟨cause, hcause, rfl⟩ := hends hgivesUp hloss
    unfold Outcome.Swallowed
    cases b.session.setup.config.require with
    | false => exact ⟨(), rfl⟩
    | true => exact ⟨cause, hcause, rfl⟩

theorem agree_told (handshake : Handshake κ) (b : Bench (Tapped τ) κ)
    (hprovider : b.session.GivesUp → handshake.GivesUp) :
    b.Told (run (agree handshake) b).1 (run (agree handshake) b).2 := by
  obtain ⟨events, exchanges, hpassed, htraced⟩ := handshake_traced handshake b
  have hamong : ∀ e ∈ events, e.isLoss = true → e.isAmong [.handshake] = true :=
    fun e he _ => hpassed.among e he
  have hends := fun hgivesUp => handshake_givesUp (hprovider hgivesUp) hpassed
  rw [run_agree]
  rcases hrun : run (handshake.run (communicate .handshake)) b with ⟨fault | state, b'⟩
  all_goals rw [hrun] at htraced hends
  · obtain ⟨later, htraced', hquiet⟩ := Bench.quiet_clearChannel.traced b'
    refine told_withoutChannel (htraced.trans htraced') ?_ ?_
    · refine List.forall_mem_append.mpr ⟨fun e he hloss => ?_, hamong⟩
      exact absurd hloss (List.any_eq_false.mp hquiet e he)
    · intro hgivesUp hloss
      rw [List.any_append, hquiet] at hloss
      obtain ⟨cause, hcause, hfault⟩ := hends hgivesUp hloss
      exact ⟨cause, hcause, Except.error.inj hfault⟩
  · -- An agreement that gives up would not have come to a channel after a loss.
    have htold : b.Told (.ok () : Except Error Unit) b' := by
      refine ⟨events, exchanges, htraced, ⟨fun hlost => (nomatch hlost), ?_⟩, ?_⟩
      · rintro ⟨e, he, hloss, houtside⟩
        exact absurd (hamong e he hloss) (ne_true_of_eq_false houtside)
      · intro hloss _ hgivesUp
        obtain ⟨cause, -, hfault⟩ := hends hgivesUp hloss
        exact nomatch hfault
    exact htold.quiet (Bench.quiet_installChannel state)

theorem establish_told (b : Bench (Tapped τ) κ) :
    b.Told (run establish b).1 (run establish b).2 := by
  rcases establish_cases b with ⟨a, provider, -, hprovider, -, hrun⟩ | ⟨hrun, -⟩
  all_goals rw [hrun]
  · exact agree_told _ b fun h => h provider a hprovider
  · exact told_withoutChannel (.refl b) (by simp) fun _ h => nomatch h

/-- All stages before the key agreement report what they meet. -/
theorem bringUp_told (b : Bench (Tapped τ) κ) : b.Told (run bringUp b).1 (run bringUp b).2 :=
  reports_composable.bringUp (Q := fun step => ∀ b, Bench.Told (run step b).1 b (run step b).2)
    (fun h hnext => h.bind_told hnext) (fun purpose c h => reports_communicate purpose h c)
    (fun _ h => reports_change (Bench.quiet_update h)) establish_told b

/-! ### Whole operations -/

/-- The link did not open, which ends the bring-up with that error. -/
def Unopened {α : Type} (o : Except Error α) (b b' : Bench (Tapped τ) κ) : Prop :=
  ∃ e, (run openLink b).1 = .error e ∧ o = .error e ∧ Bench.Traced [] [] b b'

theorem connect_told (b : Bench (Tapped τ) κ) :
    b.Told (run connect b).1 (run connect b).2 ∨ Unopened (run connect b).1 b (run connect b).2 := by
  have hopened : Bench.Traced [] [] b (run openLink b).2 := by
    obtain ⟨hsession, hjournal⟩ := session_openLink b
    refine ⟨hjournal, ?_, rfl, congrArg Session.setup hsession⟩
    rw [exchanges_openLink, List.append_nil]
  rw [run_connect]
  rcases hrun : run openLink b with ⟨e | ⟨⟩, b₀⟩
  all_goals rw [hrun] at hopened
  · exact Or.inr ⟨e, congrArg Prod.fst hrun, rfl, hopened⟩
  · left
    -- What is done before and after the stages of a bring-up exchanges nothing.
    have hstart : b.Reported false (clean b₀) :=
      Bench.Reported.quiet ⟨[], [], hopened, rfl, by simp⟩ Bench.quiet_clean
    exact hstart.trans_told ((bringUp_told (clean b₀)).quiet (Bench.quiet_afterBringUp _))

theorem connectIfNecessary_told (b : Bench (Tapped τ) κ) :
    b.Told (run connectIfNecessary b).1 (run connectIfNecessary b).2 ∨
      Unopened (run connectIfNecessary b).1 b (run connectIfNecessary b).2 := by
  rw [connectIfNecessary, run_session_bind, run_link_bind]
  split
  · exact Or.inl (reports_composable.pure () b).told
  · exact connect_told b

/-- Every operation tells of the losses that it has met outside of key agreements. -/
theorem perform_told (op : Operation κ) (b : Bench (Tapped τ) κ) :
    b.Told (run op.perform b).1 (run op.perform b).2 ∨
      Unopened (run op.perform b).1 b (run op.perform b).2 := by
  have hbringUp : ∀ {step : SessionM (Tapped τ) κ Unit},
      b.Told (run step b).1 (run step b).2 ∨ Unopened (run step b).1 b (run step b).2 →
      let performed := run (step >>= fun _ => pure Answer.done) b
      b.Told performed.1 performed.2 ∨ Unopened performed.1 b performed.2 := by
    rintro step (htold | ⟨e, hopen, herror, htraced⟩) performed
    -- The answer that is given after a bring-up tells nothing of it.
    all_goals rw [show performed = _ from run_bind_pure step _ b]
    · exact Or.inl (htold.map _)
    · rw [herror]
      exact Or.inr ⟨e, hopen, rfl, htraced⟩
  have hchange : ∀ {f : Bench (Tapped τ) κ → Bench (Tapped τ) κ}, Bench.Quiet f →
      Reports (change f >>= fun _ => pure Answer.done) := fun hf =>
    reports_composable.bind (reports_change hf) fun _ => reports_composable.pure _
  cases op with
  | connect => exact hbringUp (connect_told b)
  | connectIfNecessary => exact hbringUp (connectIfNecessary_told b)
  | installChannel state => exact Or.inl (hchange (Bench.quiet_installChannel state) b).told
  | clearChannel => exact Or.inl (hchange Bench.quiet_clearChannel b).told
  | teardown => exact Or.inl (hchange Bench.quiet_teardown b).told
  | _ => exact Or.inl (reports_serves.perform rfl b).told

/-- Of every operation the tap and the journal tell the same losses. One that has met a loss
ends in a loss exactly when it has met one outside of a key agreement. If it has met losses in a
key agreement only, and the provider tells of failed exchanges, then the loss shows inside of an
error of secure messaging where a channel is required, and else the operation succeeds. Without
a loss on the way only the opening of the link can end in one. -/
theorem lost_iff_outside_agreement (op : Operation κ) (b : Bench (Tapped τ) κ) :
    let o := (Operation.step b op).1
    let b' := (Operation.step b op).2
    ∃ events exchanges, b'.journal = events ++ b.journal ∧
      b'.link.exchanges = b.link.exchanges ++ exchanges ∧
      exchanges.any Tapped.loses = events.any Event.isLoss ∧
      (exchanges.any Tapped.loses = true →
        (Outcome.lost o = true ↔ ∃ e ∈ events, e.isLoss = true ∧ e.isAmong [.handshake] = false) ∧
        (Outcome.lost o = false → b.session.GivesUp →
          Outcome.Swallowed b.session.setup.config.require o)) ∧
      (Outcome.lost o = true → exchanges.any Tapped.loses = true ∨
        Outcome.lost (openLink.start b).1 = true) := by
  intro o b'
  have hstep : Operation.step b op = run op.perform b := start_eq_run _ b
  have ho : o = (run op.perform b).1 := congrArg Prod.fst hstep
  have hb' : b' = (run op.perform b).2 := congrArg Prod.snd hstep
  rw [ho, hb', start_eq_run]
  rcases perform_told op b with htold | ⟨e, hopen, herror, htraced⟩
  · obtain ⟨events, exchanges, htraced, htold, hswallowed⟩ := htold
    refine ⟨events, exchanges, htraced.journal, htraced.tap, htraced.counted, ?_, ?_⟩
    · intro hloss
      exact ⟨htold, hswallowed (htraced.counted.symm.trans hloss)⟩
    · intro hlost
      obtain ⟨e, he, hloss, -⟩ := htold.mp hlost
      exact Or.inl (htraced.counted.trans (List.any_eq_true.mpr ⟨e, he, hloss⟩))
  · refine ⟨[], [], htraced.journal, htraced.tap, rfl, fun h => (nomatch h), fun hlost => Or.inr ?_⟩
    rw [herror] at hlost
    rw [hopen]
    exact hlost

section Reset

open Simulator

/-- The agreement of the toy suite gives up at the first exchange that fails. -/
theorem agreement_givesUp (result : Except SecureMessagingFault ToyChannel)
    (commands : List Command) : (ToyChannel.agreement result commands).GivesUp := by
  induction commands with
  | nil => exact trivial
  | cons c rest ih =>
    refine ⟨fun e => rfl, fun o => ?_⟩
    cases o with
    | error e => exact trivial
    | ok r =>
      show Handshake.GivesUp (if r.isSuccess then _ else _)
      split
      · exact ih
      · exact trivial

/-- The card is reset in the one exchange of a key agreement. -/
def resetInAgreement (require : Bool) : Bench (Tapped ScriptedLink) ToyChannel :=
  let b := agreementBench (.failure (.link .cardReset) false)
  { session := { b.session with setup := { b.session.setup with config := { require } } }
    link := ⟨b.link, []⟩ }

/-- That the card was reset does not show: a bring-up succeeds, or fails in secure messaging
where a channel is required, although the provider has told of the failed exchange. -/
theorem connect_hides_card_reset :
    let lenient := Operation.step (resetInAgreement false) .connect
    let strict := Operation.step (resetInAgreement true) .connect
    (∀ require, (resetInAgreement require).session.GivesUp) ∧
      lenient.2.link.exchanges.any Tapped.loses = true ∧ lenient.1.isOk = true ∧
      strict.2.link.exchanges.any Tapped.loses = true ∧ strict.1.isOk = false ∧
      Outcome.lost strict.1 = false := by
  refine ⟨?_, by decide +kernel⟩
  rintro require provider a ⟨⟩
  show Handshake.GivesUp (if a.offersScp11b then _ else _)
  split
  · exact agreement_givesUp _ _
  · exact trivial

end Reset

end SessionM

end PgpCard
