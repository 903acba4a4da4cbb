import PgpCard.Proofs.Session.BringUp

/-!
# `PgpCard.Proofs.Session.Connected`: what a successful bring-up has found

A bring-up that succeeds should leave a session that knows its token: both descriptors come
from the application data that this very bring-up has read, the family of the token is
known, and asking for a connection again does nothing. `Complete` says so.

`complete_of_connect_ok_iff` shows exactly when it is true. The exchanges before the key
agreement are sound, since a failure of any of them ends the bring-up. The exchanges of the
key agreement are not: a card that is lost in one of them is forgotten by that exchange, but
the failure goes to the provider, and the bring-up goes on without secure messaging or even
with the channel that the provider comes up with. Such a bring-up succeeds and leaves
nothing.

The proof takes a successful bring-up apart into its stages. Each stage tells which events
it has added to the journal, and what it has made of the session.
-/

set_option autoImplicit false

namespace PgpCard

open Step

namespace Event

/-- What came of a reading of the application data, if the entry tells that. -/
def applicationData? : Event → Option (Except Error Response)
  | .concluded p o => if p = .read .applicationData then some o else none
  | _ => none

/-- No reading is concluded inside of an exchange. -/
theorem applicationData?_of_isWork {e : Event} (h : e.isWork = true) :
    e.applicationData? = none := by
  cases e with
  | concluded p o => exact nomatch h
  | _ => rfl

/-- An exchange reads the application data once if that is its purpose, and else not. -/
theorem applicationData?_exchange (purpose : Purpose) (o : Except Error Response) (c : Command)
    (pins : PinStates) {work : List Event} (hwork : ∀ e ∈ work, e.isWork = true) :
    (concluded purpose o :: (work ++ [dispatched purpose c pins])).filterMap applicationData?
      = if purpose = .read .applicationData then [o] else [] := by
  have hnone : work.filterMap applicationData? = [] := by
    rw [List.filterMap_eq_nil_iff]
    intro e he
    exact applicationData?_of_isWork (hwork e he)
  rw [List.filterMap_cons, List.filterMap_append, hnone]
  by_cases hp : purpose = .read .applicationData
  · simp [applicationData?, hp]
  · simp [applicationData?, hp]

/-- Only a reading of the application data tells what came of one. -/
theorem applicationData?_of_isAmong {purposes : List Purpose}
    (h : Purpose.read .applicationData ∉ purposes) {e : Event}
    (he : e.isAmong purposes = true) : e.applicationData? = none := by
  cases e with
  | concluded p o =>
    have hp : p ≠ .read .applicationData := by
      rintro rfl
      exact h (of_decide_eq_true he)
    exact if_neg hp
  | _ => rfl

/-- The entries tell of one reading of the application data, and it has brought `a`. -/
def HasRead (events : List Event) (a : ApplicationData) : Prop :=
  ∃ r, events.filterMap applicationData? = [.ok r] ∧ r.isSuccess = true ∧
    ApplicationData.decode r.data = .ok a

/-- Entries without a reading may come after the one reading. -/
theorem HasRead.append_left {events : List Event} {a : ApplicationData} (h : HasRead events a)
    {later : List Event} (hlater : ∀ e ∈ later, e.applicationData? = none) :
    HasRead (later ++ events) a := by
  obtain ⟨r, hread, hsuccess, ha⟩ := h
  refine ⟨r, ?_, hsuccess, ha⟩
  rw [List.filterMap_append, hread, List.filterMap_eq_nil_iff.mpr hlater]
  rfl

/-- Entries without a reading may have come before the one reading. -/
theorem HasRead.append_right {events : List Event} {a : ApplicationData} (h : HasRead events a)
    {earlier : List Event} (hearlier : ∀ e ∈ earlier, e.applicationData? = none) :
    HasRead (events ++ earlier) a := by
  obtain ⟨r, hread, hsuccess, ha⟩ := h
  refine ⟨r, ?_, hsuccess, ha⟩
  rw [List.filterMap_append, hread, List.filterMap_eq_nil_iff.mpr hearlier]
  rfl

end Event

namespace SessionM

variable {τ κ : Type}

/-- The session and its journal say that a bring-up with these events has found a token. -/
structure Complete [Link τ] [Channel κ] (events : List Event) (b : Bench τ κ) : Prop where
  /-- Both descriptors come from the one reading of the application data. -/
  described : ∃ a, Event.HasRead events a ∧ b.session.application = some a ∧
    b.session.card = some a.card
  identified : b.session.tokenType.isSome = true
  /-- As long as the link is open, there is nothing to do. -/
  connected : ∀ link : τ, Link.isConnected link = true →
    connectIfNecessary.start { b with link } = (.ok (), { b with link })

/-! ### The stages of a bring-up that succeeds -/

/-- A key agreement took the one bench to the other. It had its exchanges, and then possibly
a channel was taken into use. -/
structure Agreed (events : List Event) (b b' : Bench τ κ) : Prop where
  journal : b'.journal = events ++ b.journal
  among : ∀ e ∈ events, e.isInstalled = true ∨ e.isAmong [.handshake] = true
  session : b'.session =
    { (if events.any Event.isLoss then b.session.forgetToken else b.session) with
      channel := b'.session.channel }

/-- An agreement that has come to nothing. -/
theorem Agreed.of_passed {events : List Event} {b b' : Bench τ κ}
    (h : b.Passed [.handshake] events b') : Agreed events b b' :=
  ⟨h.journal, fun e he => Or.inr (h.among e he), h.session⟩

/-- An agreement that has come to a channel. -/
theorem Agreed.installChannel {events : List Event} {b b' : Bench τ κ} (h : Agreed events b b')
    (hchannel : b'.session.channel = none) (state : κ) :
    Agreed (.installed b'.nextChannel :: events) b (b'.installChannel state) := by
  have hclear : b'.clearChannel = b' := clearChannel_of_channel_eq_none hchannel
  rw [Bench.installChannel, hclear]
  refine ⟨?_, List.forall_mem_cons.mpr ⟨Or.inl rfl, h.among⟩, ?_⟩
  · show _ :: b'.journal = _
    rw [h.journal]
    rfl
  · -- A channel taken into use is no loss, and only the channel has changed.
    show { b'.session with channel := some ⟨b'.nextChannel, state⟩ } = _
    rw [h.session]
    rfl

/-- A key agreement reads no application data. -/
theorem Agreed.applicationData? {events : List Event} {b b' : Bench τ κ} (h : Agreed events b b') :
    ∀ e ∈ events, e.applicationData? = none := by
  intro e he
  rcases h.among e he with hinstalled | hamong
  · cases e with
    | concluded p o => exact nomatch hinstalled
    | _ => rfl
  · exact Event.applicationData?_of_isAmong (by decide) hamong

/-- What loses the card in a key agreement is one of its exchanges. -/
theorem Agreed.isAmong_of_isLoss {events : List Event} {b b' : Bench τ κ}
    (h : Agreed events b b') {e : Event} (he : e ∈ events) (hloss : e.isLoss = true) :
    e.isAmong [.handshake] = true := by
  rcases h.among e he with hinstalled | hamong
  · cases e with
    | concluded p o => exact nomatch hinstalled
    | _ => exact nomatch hloss
  · exact hamong

/-- What is ensured has not failed, and nothing was changed. -/
theorem ensure_eq_ok {condition : Bool} {e : Error} {b b' : Bench τ κ}
    (h : run (ensure condition e) b = (.ok (), b')) : condition = true ∧ b' = b := by
  rw [ensure] at h
  split at h
  · next hcondition => exact ⟨hcondition, (congrArg Prod.snd h).symm⟩
  · cases h

/-- Doing without a channel changes nothing. -/
theorem withoutChannel_eq_ok {b b' : Bench τ κ} {fault : SecureMessagingFault}
    (h : run (withoutChannel fault) b = (.ok (), b')) : b' = b := by
  rw [run_withoutChannel] at h
  exact (congrArg Prod.snd h).symm

/-- The start of a bring-up reads nothing and loses nothing. -/
theorem journal_clean_quiet (b : Bench τ κ) :
    ∃ start, (clean b).journal = start ++ b.journal ∧
      (∀ e ∈ start, e.applicationData? = none) ∧ start.any Event.isLoss = false := by
  have hwork := Event.isWork_of_mem_cleared b.channelIds
  refine ⟨b.channelIds.map .cleared ++ [.linkOpened], ?_, ?_, ?_⟩
  · rw [journal_clean, List.append_assoc]
    rfl
  · refine List.forall_mem_append.mpr
      ⟨fun e he => Event.applicationData?_of_isWork (hwork e he), ?_⟩
    intro e he
    obtain rfl := List.mem_singleton.mp he
    rfl
  · rw [List.any_append, Event.any_isLoss_of_isWork hwork]
    rfl

section Stages

variable [Link τ] [Channel κ] {b b' : Bench τ κ}

/-- An exchange that succeeds passes without a loss, and is noted with its answer. -/
theorem communicate_eq_ok {purpose : Purpose} {c : Command} {r : Response}
    (h : run (communicate purpose c) b = (.ok r, b')) :
    ∃ events, b.Passed [purpose] events b' ∧ events.any Event.isLoss = false ∧
      events.filterMap Event.applicationData? =
        if purpose = .read .applicationData then [.ok r] else [] := by
  obtain ⟨work, hwork, hpassed⟩ := communicate_passed purpose c b
  rw [h] at hpassed
  refine ⟨_, hpassed, ?_, ?_⟩
  · exact Event.any_isLoss_exchange purpose (.ok r) c b.session.pins hwork
  · exact Event.applicationData?_exchange purpose (.ok r) c b.session.pins hwork

/-- A family is found without a loss of the card. -/
theorem identify_eq_ok {t : TokenType} (h : run identify b = (.ok t, b')) :
    ∃ events, b.Passed [.probe] events b' ∧ events.any Event.isLoss = false := by
  rw [identify, run_link_bind] at h
  split at h
  · -- The link knows the family.
    obtain rfl : b = b' := congrArg Prod.snd h
    exact ⟨[], .refl _ b, rfl⟩
  · rw [run_session_bind] at h
    split at h
    · rw [probe, run_session_bind] at h
      obtain ⟨r, b₁, hprobe, hrest⟩ := run_bind_eq_ok h
      obtain rfl : b₁ = b' := congrArg Prod.snd hrest
      obtain ⟨events, hpassed, hloss, -⟩ := communicate_eq_ok hprobe
      exact ⟨events, hpassed, hloss⟩
    · -- Nobody asks for the family.
      obtain rfl : b = b' := congrArg Prod.snd h
      exact ⟨[], .refl _ b, rfl⟩

/-- The reading of a data object is one exchange, and it is a loss of the card if that is one. What
is read is the data of the answer. -/
theorem readObject_passed (tag : ObjectTag) (b : Bench τ κ) :
    ∃ events, b.Passed [.read tag] events (run (readObject tag) b).2 ∧
      events.any Event.isLoss = Outcome.lost (run (readObject tag) b).1 ∧
      ∀ data, (run (readObject tag) b).1 = .ok data → ∃ r : Response, r.isSuccess = true ∧
        r.data = data ∧ events.filterMap Event.applicationData? =
          if Purpose.read tag = .read .applicationData then [.ok r] else [] := by
  let c := b.session.setup.commands.getData tag
  obtain ⟨work, hwork, hpassed⟩ := communicate_passed (.read tag) c b
  have hloss := Event.any_isLoss_exchange (.read tag) (run (communicate (.read tag) c) b).1 c
    b.session.pins hwork
  have hread := Event.applicationData?_exchange (.read tag) (run (communicate (.read tag) c) b).1 c
    b.session.pins hwork
  rw [readObject, run_session_bind]
  rcases hrun : run (communicate (.read tag) c) b with ⟨e | r, b₁⟩
  all_goals rw [hrun] at hpassed hloss hread
  · rw [run_bind_of_error hrun]
    refine ⟨_, hpassed, hloss, ?_⟩
    rintro data ⟨⟩
  · rw [run_bind_of_ok hrun, ensure]
    split
    · next hsuccess =>
      refine ⟨_, hpassed, hloss, ?_⟩
      rintro data ⟨⟩
      exact ⟨r, hsuccess, rfl, hread⟩
    · -- A card that refuses has answered, so it is not lost.
      refine ⟨_, hpassed, hloss, ?_⟩
      rintro data ⟨⟩

/-- What was read as application data becomes both descriptors. -/
theorem refresh_eq_ok (h : run refresh b = (.ok (), b')) :
    ∃ events a b₁, b.Passed [.read .applicationData] events b₁ ∧
      events.any Event.isLoss = false ∧ Event.HasRead events a ∧
      b' = b₁.update (.describe a) := by
  obtain ⟨data, b₁, hread, hdecode⟩ := run_bind_eq_ok h
  obtain ⟨events, hpassed, hloss, hdata⟩ := readObject_passed .applicationData b
  rw [hread] at hpassed hloss hdata
  obtain ⟨r, hsuccess, rfl, hone⟩ := hdata data rfl
  cases ha : ApplicationData.decode r.data with
  | error fault =>
    rw [ha] at hdecode
    cases hdecode
  | ok a =>
    rw [ha] at hdecode
    cases hdecode
    exact ⟨events, a, b₁, hpassed, hloss, ⟨r, hone, hsuccess, ha⟩, rfl⟩

/-- An agreement is played where that is asked for, offered and possible, and otherwise
there is nothing to agree on. -/
theorem establish_eq_ok (hchannel : b.session.channel = none)
    (h : run establish b = (.ok (), b')) : ∃ events, Agreed events b b' := by
  rcases establish_cases b with ⟨a, provider, -, -, -, hplay⟩ | ⟨hplay, -⟩
  all_goals rw [hplay] at h
  · obtain ⟨events, hpassed⟩ := handshake_passed (provider a) b
    have hnone := hpassed.channel hchannel
    rw [run_agree] at h
    rcases hrun : run ((provider a).run (communicate .handshake)) b with ⟨fault | state, b₁⟩
    · -- The agreement has failed, and the session goes on without a channel.
      rw [hrun] at h hpassed hnone
      dsimp only at h
      rw [clearChannel_of_channel_eq_none hnone] at h
      obtain rfl := withoutChannel_eq_ok h
      exact ⟨events, .of_passed hpassed⟩
    · rw [hrun] at h hpassed hnone
      obtain rfl : b₁.installChannel state = b' := congrArg Prod.snd h
      exact ⟨_, (Agreed.of_passed hpassed).installChannel hnone state⟩
  · obtain rfl := withoutChannel_eq_ok h
    exact ⟨[], .of_passed (.refl _ b')⟩

/-- The family is found out, the application is selected, and its data is read, all without
a loss of the card. Then there may be a key agreement. -/
theorem bringUp_eq_ok (hchannel : b.session.channel = none)
    (h : run bringUp b = (.ok (), b')) :
    ∃ (events agreement : List Event) (a : ApplicationData) (t : TokenType) (b₁ : Bench τ κ),
      b₁.journal = events ++ b.journal ∧ events.any Event.isLoss = false ∧
      Event.HasRead events a ∧
      b₁.session = { b.session.describe a with
        tokenType := some t, pins := .fresh, channel := none } ∧
      Agreed agreement b₁ b' := by
  rw [bringUp] at h
  obtain ⟨t, b₁, hidentify, h⟩ := run_bind_eq_ok h
  rw [run_change_bind, run_session_bind] at h
  obtain ⟨r, b₂, hselect, h⟩ := run_bind_eq_ok h
  obtain ⟨u, b₃, hstatus, h⟩ := run_bind_eq_ok h
  obtain ⟨u', b₄, hrefresh, h⟩ := run_bind_eq_ok h
  rw [run_change_bind] at h
  obtain ⟨-, rfl⟩ := ensure_eq_ok hstatus
  -- From here on: what each stage has noted, and what it has made of the session.
  obtain ⟨events₁, hpassed₁, hloss₁⟩ := identify_eq_ok hidentify
  obtain ⟨events₂, hpassed₂, hloss₂, -⟩ := communicate_eq_ok hselect
  obtain ⟨events₃, a, b₅, hpassed₃, hloss₃, hread, rfl⟩ := refresh_eq_ok hrefresh
  have hnone : b₅.session.channel = none :=
    hpassed₃.channel (hpassed₂.channel (hpassed₁.channel hchannel))
  obtain ⟨agreement, hagreed⟩ := establish_eq_ok (by exact hnone) h
  -- Neither the probe nor the selection reads application data.
  have hbefore : ∀ e ∈ events₂ ++ events₁, e.applicationData? = none :=
    List.forall_mem_append.mpr
      ⟨fun e he => Event.applicationData?_of_isAmong (by decide) (hpassed₂.among e he),
        fun e he => Event.applicationData?_of_isAmong (by decide) (hpassed₁.among e he)⟩
  refine ⟨events₃ ++ (events₂ ++ events₁), agreement, a, t, _, ?_, ?_,
    hread.append_right hbefore, ?_, hagreed⟩
  · show b₅.journal = _
    rw [hpassed₃.journal, hpassed₂.journal]
    show events₃ ++ (events₂ ++ b₁.journal) = _
    rw [hpassed₁.journal, List.append_assoc, List.append_assoc]
  · rw [List.any_append, List.any_append, hloss₁, hloss₂, hloss₃]
    rfl
  · -- Without a loss the exchanges have left the session alone, up to the channel.
    show { b₅.session.describe a with pins := PinStates.fresh } = _
    rw [hpassed₃.session_of_no_loss hloss₃, hpassed₂.session_of_no_loss hloss₂]
    show { ({ ({ b₁.session with tokenType := some t } : Session κ).describe a with
      channel := b₅.session.channel } : Session κ) with pins := PinStates.fresh } = _
    rw [hpassed₁.session_of_no_loss hloss₁, hnone]
    rfl

/-- A bring-up that succeeds has found a token, and then had a key agreement. -/
theorem connect_eq_ok (h : run connect b = (.ok (), b')) :
    ∃ (events agreement : List Event) (a : ApplicationData) (b₁ : Bench τ κ),
      b₁.journal = events ++ b.journal ∧ events.any Event.isLoss = false ∧
      Event.HasRead events a ∧
      (b₁.session.application = some a ∧ b₁.session.card = some a.card ∧
        b₁.session.tokenType.isSome = true ∧ b₁.session.pins = .fresh) ∧
      Agreed agreement b₁ b' := by
  rw [run_connect] at h
  have hopened := (session_openLink b).2
  rcases hopen : run openLink b with ⟨fault | ⟨⟩, b₀⟩
  · rw [hopen] at h
    exact nomatch h
  -- After a success the bench is not touched any more.
  rw [hopen] at h hopened
  have hbringUp : (run bringUp (clean b₀)).1 = .ok () := congrArg Prod.fst h
  have hafter : afterBringUp (.ok ()) (run bringUp (clean b₀)).2 = b' := by
    rw [← hbringUp]
    exact congrArg Prod.snd h
  obtain ⟨start, hclean, hstart, hquiet⟩ := journal_clean_quiet b₀
  obtain ⟨events, agreement, a, t, b₁, hjournal, hloss, hread, hfound, hagreed⟩ :=
    bringUp_eq_ok (clean_inProgress b₀).channel (Prod.ext hbringUp hafter)
  refine ⟨events ++ start, agreement, a, b₁, ?_, ?_, hread.append_right hstart, ?_, hagreed⟩
  · rw [hjournal, hclean, ← hopened, List.append_assoc]
  · rw [List.any_append, hloss, hquiet]
    rfl
  · rw [hfound]
    exact ⟨rfl, rfl, rfl, rfl⟩

/-- A session that is up stays as it is when it is asked to connect. -/
theorem connectIfNecessary_of_isConnected (h : b.session.isConnected b.link = true) :
    connectIfNecessary.start b = (.ok (), b) := by
  rw [start_eq_run, connectIfNecessary, run_session_bind, run_link_bind, if_pos h]
  rfl

/-- A session with descriptors from the application data is complete. -/
theorem complete_of_described {events : List Event} {a : ApplicationData}
    (hread : Event.HasRead events a) (happlication : b.session.application = some a)
    (hcard : b.session.card = some a.card) (htokenType : b.session.tokenType.isSome = true) :
    Complete events b := by
  refine ⟨⟨a, hread, happlication, hcard⟩, htokenType, ?_⟩
  intro link hlink
  apply connectIfNecessary_of_isConnected
  show (b.session.application.isSome && Link.isConnected link) = true
  rw [happlication, hlink]
  rfl

/-- A bring-up that succeeds leaves no verification, and otherwise what it has found, unless
the card was lost on the way. Then it leaves nothing. The card can have been lost in the key
agreement only. -/
theorem complete_of_connect_ok_iff (h : connect.start b = (.ok (), b')) :
    ∃ events, b'.journal = events ++ b.journal ∧
      (∀ cls, b'.session.pins.get cls = .unverified) ∧
      (Complete events b' ↔ events.any Event.isLoss = false) ∧
      (events.any Event.isLoss = true → b'.session.application = none ∧
        b'.session.card = none ∧ b'.session.tokenType = none) ∧
      ∀ e ∈ events, e.isLoss = true → e.isAmong [.handshake] = true := by
  rw [start_eq_run] at h
  obtain ⟨events, agreement, a, b₁, hjournal, hloss, hread,
    ⟨happlication, hcard, htokenType, hpins⟩, hagreed⟩ := connect_eq_ok h
  have hsession := hagreed.session
  have hany : (agreement ++ events).any Event.isLoss = agreement.any Event.isLoss := by
    rw [List.any_append, hloss, Bool.or_false]
  have hread' : Event.HasRead (agreement ++ events) a := hread.append_left hagreed.applicationData?
  refine ⟨agreement ++ events, ?_, ?_, ?_, ?_, ?_⟩
  · rw [hagreed.journal, hjournal, List.append_assoc]
  · intro cls
    -- A loss resets the PIN states, and without one they are those before the agreement.
    have hfresh : b'.session.pins = .fresh := by
      rw [hsession]
      cases agreement.any Event.isLoss with
      | false => exact hpins
      | true => rfl
    rw [hfresh]
    cases cls <;> rfl
  · rw [hany]
    cases hlost : agreement.any Event.isLoss with
    | false =>
      -- Nothing is forgotten, so what was found before the agreement is still there.
      rw [hlost] at hsession
      refine ⟨fun _ => rfl, fun _ => complete_of_described hread' ?_ ?_ ?_⟩
      · rw [hsession]
        exact happlication
      · rw [hsession]
        exact hcard
      · rw [hsession]
        exact htokenType
    | true =>
      -- The descriptors are gone, so the bring-up is not complete.
      rw [hlost] at hsession
      refine ⟨?_, nofun⟩
      rintro ⟨⟨a', -, hsome, -⟩, -, -⟩
      rw [hsession] at hsome
      exact nomatch hsome
  · rw [hany]
    intro hlost
    rw [hlost] at hsession
    rw [hsession]
    exact ⟨rfl, rfl, rfl⟩
  · intro e he hlost
    rcases List.mem_append.mp he with he | he
    · exact hagreed.isAmong_of_isLoss he hlost
    · exact absurd hlost (List.any_eq_false.mp hloss e he)

end Stages

open Simulator in
/-- A new session with a provider that sends one command, on a link to a card that offers
SCP11b and replies to that command as given. -/
def agreementBench (reply : Turn) : Bench ScriptedLink ToyChannel :=
  let link : ScriptedLink :=
    { tokenType := some .unknown,
      turns := [.answer [0x90, 0x00],
        .answer [0x5F, 0x52, 0x04, 0x00, 0x05, 0x90, 0x00, 0xC0, 0x02, 0x80, 0x03, 0x90, 0x00],
        reply] }
  let handshake : Command := { cla := 0x00, ins := 0x88, p1 := 0x01, p2 := 0x01 }
  { session := .new { provider := some (ToyChannel.provider [handshake] (.ok { key := 0x33 })) } none
    link }

/-- A bring-up whose key agreement the card takes part in is complete. -/
theorem complete_of_connect_ok_agreed :
    ∃ events b', connect.start (agreementBench (.answer [0x90, 0x00])) = (.ok (), b') ∧
      Complete events b' := by
  rcases h : connect.start (agreementBench (.answer [0x90, 0x00])) with ⟨e | u, b'⟩
  · have hok : (connect.start (agreementBench (.answer [0x90, 0x00]))).1.isOk = true := by
      decide +kernel
    rw [h] at hok
    exact nomatch hok
  · obtain ⟨events, hjournal, -, hcomplete, -, -⟩ := complete_of_connect_ok_iff h
    have hloss : b'.journal.any Event.isLoss = false := by
      have hrun : (connect.start (agreementBench (.answer [0x90, 0x00]))).2.journal.any
          Event.isLoss = false := by decide +kernel
      rw [h] at hrun
      exact hrun
    have hempty : (agreementBench (.answer [0x90, 0x00])).journal = [] := rfl
    rw [hjournal, hempty, List.append_nil] at hloss
    exact ⟨events, b', rfl, hcomplete.mpr hloss⟩

/-- When the card is reset in the key agreement, the bring-up succeeds and has found
nothing. -/
theorem connect_ok_of_card_reset_is_blank :
    let after := connect.start (agreementBench (.failure (.link .cardReset) false))
    after.1.isOk = true ∧ after.2.session.application.isNone = true ∧
      after.2.session.card.isNone = true ∧ after.2.session.tokenType.isNone = true ∧
      after.2.session.isConnected after.2.link = false := by
  decide +kernel

end SessionM

end PgpCard
