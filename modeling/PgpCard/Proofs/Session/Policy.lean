import PgpCard.Proofs.Session.Connected
import PgpCard.Proofs.Session.Protection

/-!
# `PgpCard.Proofs.Session.Policy`: a bring-up without secure messaging

When a bring-up has read the application data, only the key agreement is left, and there are
four reasons why the session may have no secure messaging in the end: the configuration does not
ask for it, the card does not offer it, there is no provider, or the agreement fails. `Lacks` has
one constructor for each of them, with the fault that it goes with. If there is none of them,
the provider has come up with a channel (`lacks_or_agreed`).

All four meet in `withoutChannel`, where the configuration decides. `secure_messaging_policy` says
what follows for a bring-up. Under a configuration that requires secure messaging each of the
reasons is an error and leaves nothing, also when the exchanges of the agreement have lost the
card before. Under any other configuration none of them is an error.
-/

set_option autoImplicit false

namespace PgpCard.SessionM

open Step

variable {τ κ : Type} [Link τ] [Channel κ]

/-! ### Up to the key agreement -/

/-- When the application data has been read, the session has its setup, and no channel. -/
theorem untilDescribed_eq_ok {b b₁ : Bench τ κ} {data : Bytes}
    (h : run untilDescribed b = (.ok data, b₁)) :
    b₁.session.channel = none ∧ b₁.session.setup = b.session.setup := by
  obtain ⟨⟨⟩, b₀, hopen, hrest⟩ := run_bind_eq_ok h
  have hreading : run reading (clean b₀) = (.ok data, b₁) := hrest
  have hsession := (session_openLink b).1
  rw [hopen] at hsession
  have hprogress : Keeps (InProgress (clean b₀)) reading :=
    (keeps_composable _).reading
      (fun purpose hpurpose c => communicate_inProgress (clean b₀)
        (by revert purpose; decide) c)
      fun t b hb => ⟨hb.journal, hb.channel, hb.pins⟩
  have hsetup : Keeps (fun b : Bench τ κ => b.session.setup = (clean b₀).session.setup) reading :=
    (keeps_composable _).reading (fun purpose _ c => keeps_setup _ purpose c) fun _ _ hb => hb
  have hprogress' := hprogress (clean b₀) (clean_inProgress b₀)
  have hsetup' := hsetup (clean b₀) rfl
  rw [hreading] at hprogress' hsetup'
  refine ⟨hprogress'.channel, hsetup'.trans ?_⟩
  rw [session_clean, ← hsession]

omit [Link τ] [Channel κ] in
/-- What a key agreement starts from: the session has both descriptors, and nothing is
verified. -/
def agreeing (a : ApplicationData) (b : Bench τ κ) : Bench τ κ :=
  b.update fun s => { s.describe a with pins := .fresh }

/-- What is left of a bring-up that has read application data is the key agreement. -/
theorem run_connect_of_decoded {b b₁ : Bench τ κ} {data : Bytes} {a : ApplicationData}
    (h : run untilDescribed b = (.ok data, b₁)) (ha : ApplicationData.decode data = .ok a) :
    run connect b =
      ((run establish (agreeing a b₁)).1,
        afterBringUp (run establish (agreeing a b₁)).1 (run establish (agreeing a b₁)).2) := by
  have hsettling : run (settling data) b₁ = run establish (agreeing a b₁) := by
    rw [settling, takeOver, ha]
    rfl
  rw [run_connect_of_described h, hsettling]

/-! ### The four reasons -/

/-- Why a session with this setup has no secure messaging with a card that has stated this
application data, when the key agreement starts from this bench. -/
inductive Lacks (setup : Setup κ) (a : ApplicationData) (b : Bench τ κ) :
    SecureMessagingFault → Prop where
  /-- The configuration does not ask for it. -/
  | disabled (h : setup.config.establish = false) : Lacks setup a b .unavailable
  /-- The card does not offer it. -/
  | notOffered (h : a.offersScp11b = false) : Lacks setup a b .unavailable
  | noProvider (h : setup.provider = none) : Lacks setup a b .unavailable
  /-- The agreement is played, and fails. -/
  | failed {provider : Provider κ} {fault : SecureMessagingFault} {b' : Bench τ κ}
      (hestablish : setup.config.establish = true) (hoffered : a.offersScp11b = true)
      (hprovider : setup.provider = some provider)
      (hrun : run ((provider a).run (communicate .handshake)) b = (.error fault, b')) :
      Lacks setup a b fault

/-- If there is none of the reasons, the agreement has come to a channel. -/
theorem lacks_or_agreed (setup : Setup κ) (a : ApplicationData) (b : Bench τ κ) :
    (∃ fault, Lacks setup a b fault) ∨
      ∃ provider state b', setup.config.establish = true ∧ a.offersScp11b = true ∧
        setup.provider = some provider ∧
        run ((provider a).run (communicate .handshake)) b = (.ok state, b') := by
  cases hestablish : setup.config.establish with
  | false => exact Or.inl ⟨_, .disabled hestablish⟩
  | true =>
    cases hoffered : a.offersScp11b with
    | false => exact Or.inl ⟨_, .notOffered hoffered⟩
    | true =>
      cases hprovider : setup.provider with
      | none => exact Or.inl ⟨_, .noProvider hprovider⟩
      | some provider =>
        rcases hrun : run ((provider a).run (communicate .handshake)) b with ⟨fault | state, b'⟩
        · exact Or.inl ⟨fault, .failed hestablish hoffered hprovider hrun⟩
        · exact Or.inr ⟨provider, state, b', rfl, rfl, rfl, hrun⟩

section Establish

variable {b : Bench τ κ} {a : ApplicationData}

/-- For each of the reasons the session ends without a channel, and the configuration decides
whether that is an error. -/
theorem run_establish_of_lacks {fault : SecureMessagingFault} (hchannel : b.session.channel = none)
    (happlication : b.session.application = some a) (h : Lacks b.session.setup a b fault) :
    ∃ b', b'.session.channel = none ∧ run establish b =
      (if b.session.setup.config.require then .error (.secureMessaging .establish fault) else .ok (),
        b') := by
  rcases establish_cases b with ⟨a', provider, ha, hprovider, hplayed, hplay⟩ | ⟨hplay, hnot⟩
  all_goals rw [hplay]
  · obtain rfl : a' = a := Option.some.inj (ha.symm.trans happlication)
    cases h with
    | disabled h => simp [h] at hplayed
    | notOffered h => simp [h] at hplayed
    | noProvider h => exact nomatch hprovider.symm.trans h
    | @failed provider' _ b' _ _ hprovider' hrun =>
      -- The exchanges may have lost the card, but they keep the setup and install no channel.
      obtain rfl : provider = provider' := Option.some.inj (hprovider.symm.trans hprovider')
      have hsetup := keeps_handshake (fun c => keeps_setup b.session.setup .handshake c)
        (provider a') b rfl
      obtain ⟨events, hpassed⟩ := handshake_passed (provider a') b
      rw [hrun] at hsetup hpassed
      have hnone : b'.session.channel = none := hpassed.channel hchannel
      rw [run_agree, hrun]
      dsimp only at hsetup ⊢
      rw [clearChannel_of_channel_eq_none hnone, run_withoutChannel, hsetup]
      exact ⟨b', hnone, rfl⟩
  · rw [run_withoutChannel]
    cases h with
    | disabled | notOffered | noProvider => exact ⟨b, hchannel, rfl⟩
    | failed hestablish hoffered hprovider _ =>
      have hplayed := hnot a _ happlication hprovider
      simp [hestablish, hoffered] at hplayed

/-- Without any of the reasons the agreement is played, and its channel is taken into use. -/
theorem run_establish_of_not_lacks (happlication : b.session.application = some a)
    (h : ∀ fault, ¬ Lacks b.session.setup a b fault) :
    ∃ provider state b', b.session.setup.provider = some provider ∧
      run ((provider a).run (communicate .handshake)) b = (.ok state, b') ∧
      run establish b = (.ok (), b'.installChannel state) := by
  rcases lacks_or_agreed b.session.setup a b with
    ⟨fault, hlacks⟩ | ⟨provider, state, b', hestablish, hoffered, hprovider, hrun⟩
  · exact absurd hlacks (h fault)
  refine ⟨provider, state, b', hprovider, hrun, ?_⟩
  rcases establish_cases b with ⟨a', provider', ha, hprovider', -, hplay⟩ | ⟨-, hnot⟩
  · obtain rfl : a' = a := Option.some.inj (ha.symm.trans happlication)
    obtain rfl : provider' = provider := Option.some.inj (hprovider'.symm.trans hprovider)
    rw [hplay, run_agree, hrun]
  · have hplayed := hnot a provider happlication hprovider
    simp [hestablish, hoffered] at hplayed

end Establish

omit [Link τ] in
/-- A session with a channel that has keys is protected. -/
theorem isProtected_of_channelled {b : Bench τ κ}
    (h : Channelled (fun state => Channel.isEstablished state = true) b) :
    b.session.isProtected = true := by
  obtain ⟨id, state, hchannel, hestablished⟩ := h
  have huse : b.session.channelInUse? = some ⟨id, state⟩ := by
    rw [Session.channelInUse?, hchannel]
    exact if_pos hestablished
  rw [Session.isProtected, huse]
  rfl

/-! ### The bring-up -/

section Connect

variable {b b₁ : Bench τ κ} {data : Bytes} {a : ApplicationData}

/-- For each of the reasons a bring-up ends without a channel. If secure messaging is required it
fails for that reason and leaves no descriptors, and otherwise it succeeds. -/
theorem connect_of_lacks (h : run untilDescribed b = (.ok data, b₁))
    (ha : ApplicationData.decode data = .ok a) {fault : SecureMessagingFault}
    (hlacks : Lacks b.session.setup a (agreeing a b₁) fault) :
    (run connect b).2.session.channel = none ∧
      if b.session.setup.config.require then
        (run connect b).1 = .error (.secureMessaging .establish fault) ∧
          (run connect b).2.session.card = none ∧ (run connect b).2.session.application = none
      else (run connect b).1 = .ok () := by
  obtain ⟨hchannel, hsetup⟩ := untilDescribed_eq_ok h
  have hsetup' : (agreeing a b₁).session.setup = b.session.setup := hsetup
  rw [← hsetup'] at hlacks
  obtain ⟨b₂, hnone, hrun⟩ := run_establish_of_lacks (by exact hchannel) (by rfl) hlacks
  rw [run_connect_of_decoded h ha]
  rw [hsetup'] at hrun
  cases hrequire : b.session.setup.config.require with
  | false =>
    rw [hrequire] at hrun
    rw [hrun]
    exact ⟨hnone, rfl⟩
  | true =>
    -- The failure drops the descriptors that the application data has given.
    rw [hrequire] at hrun
    rw [hrun]
    exact ⟨hnone, rfl, rfl, rfl⟩

/-- Without any of the reasons a bring-up succeeds, with the channel of the provider. -/
theorem connect_of_not_lacks {P : κ → Prop} (h : run untilDescribed b = (.ok data, b₁))
    (ha : ApplicationData.decode data = .ok a)
    (hnone : ∀ fault, ¬ Lacks b.session.setup a (agreeing a b₁) fault)
    (hyields : ∀ provider a, b.session.setup.provider = some provider → (provider a).Yields P) :
    (run connect b).1 = .ok () ∧ Channelled P (run connect b).2 := by
  have hsetup : (agreeing a b₁).session.setup = b.session.setup := (untilDescribed_eq_ok h).2
  rw [run_connect_of_decoded h ha]
  rw [← hsetup] at hnone hyields
  obtain ⟨provider, state, b₂, hprovider, hrun, hestablished⟩ :=
    run_establish_of_not_lacks (by rfl) hnone
  rw [hestablished]
  exact ⟨rfl, _, state, rfl, (hyields provider a hprovider).of_run hrun⟩

end Connect

/-- Let the provider, if there is one, come up with established channels only. When secure
messaging is required, a bring-up succeeds only with it. And when the application data has been
read, each of the four reasons to lack secure messaging makes the bring-up fail for that, with
nothing left, or not at all, just as the configuration says. Without any of the reasons it
succeeds, with secure messaging. -/
theorem secure_messaging_policy {b : Bench τ κ}
    (hyields : ∀ provider a, b.session.setup.provider = some provider →
      (provider a).Yields fun state => Channel.isEstablished state = true) :
    (b.session.setup.config.require = true → ∀ b', connect.start b = (.ok (), b') →
      b'.session.isProtected = true) ∧
    ∀ data b₁ a, untilDescribed.start b = (.ok data, b₁) → ApplicationData.decode data = .ok a →
      (∀ fault, Lacks b.session.setup a (agreeing a b₁) fault →
        (connect.start b).2.session.channel = none ∧
        if b.session.setup.config.require then
          (connect.start b).1 = .error (.secureMessaging .establish fault) ∧
            (connect.start b).2.session.card = none ∧
            (connect.start b).2.session.application = none
        else (connect.start b).1 = .ok ()) ∧
      ((∀ fault, ¬ Lacks b.session.setup a (agreeing a b₁) fault) →
        (connect.start b).1 = .ok () ∧ (connect.start b).2.session.isProtected = true) := by
  simp only [start_eq_run]
  refine ⟨fun hrequire b' h => ?_, fun data b₁ a h ha => ⟨fun fault => ?_, fun hnone => ?_⟩⟩
  · exact isProtected_of_channelled (channel_of_connect_ok h hrequire hyields)
  · exact connect_of_lacks h ha
  · obtain ⟨hok, hchannelled⟩ := connect_of_not_lacks h ha hnone hyields
    exact ⟨hok, isProtected_of_channelled hchannelled⟩

open Simulator in
/-- The session of `agreementBench`, with secure messaging required. -/
def requiredBench (reply : Turn) : Bench ScriptedLink ToyChannel :=
  (agreementBench reply).update fun s =>
    { s with setup := { s.setup with config := { require := true } } }

open Simulator in
/-- When secure messaging is required, a bring-up in which the card takes part in the key
agreement succeeds with it. One in which the card is reset on the way fails and leaves nothing. -/
theorem secure_messaging_policy_required :
    (∃ b', connect.start (requiredBench (.answer [0x90, 0x00])) = (.ok (), b') ∧
      b'.session.isProtected = true) ∧
    ∃ fault, let after := connect.start (requiredBench (.failure (.link .cardReset) false))
      after.1 = .error (.secureMessaging .establish fault) ∧ after.2.session.card = none ∧
        after.2.session.application = none ∧ after.2.session.channel = none := by
  have hyields : ∀ reply provider a, (requiredBench reply).session.setup.provider = some provider →
      (provider a).Yields fun state => Channel.isEstablished state = true := by
    rintro reply provider a ⟨⟩
    exact ToyChannel.provider_yields (by rfl) _ a
  refine ⟨?_, ?_⟩
  · rcases h : connect.start (requiredBench (.answer [0x90, 0x00])) with ⟨e | ⟨⟩, b'⟩
    · have hok : (connect.start (requiredBench (.answer [0x90, 0x00]))).1.isOk = true := by
        decide +kernel
      rw [h] at hok
      exact nomatch hok
    · exact ⟨b', rfl, (secure_messaging_policy (hyields _)).1 rfl b' h⟩
  · let b := requiredBench (.failure (.link .cardReset) false)
    have hread : ((untilDescribed.start b).1.toOption.bind
        fun data => (ApplicationData.decode data).toOption).isSome = true := by decide +kernel
    have hfails : (connect.start b).1.isOk = false := by decide +kernel
    rcases h : untilDescribed.start b with ⟨e | data, b₁⟩
    all_goals rw [h] at hread
    · exact nomatch hread
    cases ha : ApplicationData.decode data with
    | error fault => simp [Except.toOption, ha] at hread
    | ok a =>
      obtain ⟨hlacks, hagreed⟩ := (secure_messaging_policy (hyields _)).2 data b₁ a h ha
      -- Since the bring-up fails, there is one of the reasons for that.
      by_cases hreason : ∃ fault, Lacks b.session.setup a (agreeing a b₁) fault
      · obtain ⟨fault, hfault⟩ := hreason
        obtain ⟨hchannel, herror, hcard, happlication⟩ := hlacks fault hfault
        exact ⟨fault, herror, hcard, happlication, hchannel⟩
      · obtain ⟨hok, -⟩ := hagreed fun fault hfault => hreason ⟨fault, hfault⟩
        have hok : (connect.start b).1 = .ok () := hok
        rw [hok] at hfails
        exact nomatch hfails

end PgpCard.SessionM
