import PgpCard.Proofs.Link.Tap
import PgpCard.Proofs.Session.Connected
import PgpCard.Proofs.Session.Pairs

/-!
# `PgpCard.Proofs.Session.FreshStart`: a bring-up does not depend on the past

Two sessions with the same setup meet links in the same state. Whatever each of them knew before,
about another card, a channel or PINs that were verified, a bring-up takes the same course in both
and leaves them with the same knowledge. `connect_forgets` says so, for a link that opens.

The two runs are compared step by step (`Couples`). `Alike` is what the sessions have in common
from the opening of the link on. It leaves out the cached PIN, which no bring-up looks at, and the
numbers of the channels. The families of the token agree only once the family has been found out,
so a failure before that leaves two different ones.

As long as no channel is in use an exchange depends only on what is alike (`couples_communicate`),
so `Plain` is the relation for all steps but the last one, which may take a channel into use.
-/

set_option autoImplicit false

namespace PgpCard

open Step

namespace Session

variable {κ : Type}

/-- The sessions know the same, with the same family of the token if it is `known`. -/
structure Alike (known : Prop) (s s' : Session κ) : Prop where
  setup : s.setup = s'.setup
  card : s.card = s'.card
  application : s.application = s'.application
  pins : s.pins = s'.pins
  channel : s.channel.map Installed.state = s'.channel.map Installed.state
  tokenType : known → s.tokenType = s'.tokenType

variable {known known' : Prop} {s s' : Session κ}

theorem Alike.mono (h : Alike known s s') (hknown : known' → known) : Alike known' s s' :=
  { h with tokenType := fun hk => h.tokenType (hknown hk) }

/-- Nothing is left of different cards. -/
theorem alike_forgetToken (h : s.setup = s'.setup) :
    Alike known { s.forgetToken with channel := none } { s'.forgetToken with channel := none } :=
  ⟨h, rfl, rfl, rfl, rfl, fun _ => rfl⟩

end Session

namespace SessionM

variable {τ κ : Type}

/-- Sessions that know the same, on links in the same state. -/
structure Level (known : Prop) (b b' : Bench τ κ) : Prop where
  link : b.link = b'.link
  session : b.session.Alike known b'.session

/-- They are level, and have no channel. -/
structure Plain (known : Prop) (b b' : Bench τ κ) : Prop extends Level known b b' where
  plain : b.session.channel = none

variable {known known' : Prop} {b b' : Bench τ κ}

theorem Level.mono (h : Level known b b') (hknown : known' → known) : Level known' b b' :=
  ⟨h.link, h.session.mono hknown⟩

theorem Plain.mono (h : Plain known b b') (hknown : known' → known) : Plain known' b b' :=
  ⟨h.toLevel.mono hknown, h.plain⟩

/-- The other one has no channel either. -/
theorem Plain.plain' (h : Plain known b b') : b'.session.channel = none := by
  have hchannel := h.session.channel
  rw [h.plain] at hchannel
  exact Option.map_eq_none_iff.mp hchannel.symm

/-- They take the same channel into use, maybe under different numbers. -/
theorem Plain.installChannel (h : Plain known b b') (state : κ) :
    Level known (b.installChannel state) (b'.installChannel state) := by
  unfold Bench.installChannel
  rw [clearChannel_of_channel_eq_none h.plain, clearChannel_of_channel_eq_none h.plain']
  exact ⟨h.link, { h.session with channel := rfl }⟩

/-- Clean benches have nothing of before but the link and the setup. -/
theorem plain_clean (hlink : b.link = b'.link) (hsetup : b.session.setup = b'.session.setup) :
    Plain False (clean b) (clean b') := by
  refine ⟨⟨?_, ?_⟩, ?_⟩
  · rw [link_clean, link_clean, hlink]
  · rw [session_clean, session_clean]
    exact ⟨hsetup, rfl, rfl, rfl, rfl, nofun⟩
  · rw [session_clean]

variable [Link τ] [Channel κ]

/-! ### The steps of a bring-up -/

/-- An exchange without a channel comes to the same, and leaves the benches level: what is alike
goes to the link, and where the card is lost both forget it. -/
theorem couples_communicate (purpose : Purpose) (c : Command) :
    Couples (Plain (τ := τ) (κ := κ) known) (communicate purpose c) (communicate purpose c)
      fun _ => Plain known := by
  intro b b' hb
  obtain ⟨o, b₁, hcourse, hrun⟩ := run_communicate_eq purpose c b
  obtain ⟨o', b₁', hcourse', hrun'⟩ := run_communicate_eq purpose c b'
  obtain ⟨link, hwire, rfl⟩ := hcourse.eq_of_plain (channelInUse?_of_channel_eq_none hb.plain)
  obtain ⟨link', hwire', rfl⟩ := hcourse'.eq_of_plain (channelInUse?_of_channel_eq_none hb.plain')
  -- The exchange on the link is the same one.
  have hsame : b.onWire c = b'.onWire c := by
    unfold Bench.onWire Session.cardOrBaseline
    rw [hb.session.setup, hb.session.card, hb.link]
  obtain ⟨rfl, rfl⟩ : o = o' ∧ link = link' :=
    Prod.mk.inj (hwire.symm.trans (hsame.trans hwire'))
  rw [hrun, hrun']
  refine ⟨rfl, ⟨?link, ?session⟩, ?plain⟩
  case link =>
    show (afterExchange o _).link = (afterExchange o _).link
    rw [link_afterExchange, link_afterExchange]
    rfl
  case session =>
    show (afterExchange o _).session.Alike known (afterExchange o _).session
    rw [session_afterExchange, session_afterExchange]
    cases Outcome.lost o with
    | false => exact hb.session
    | true => exact Session.alike_forgetToken hb.session.setup
  case plain =>
    show (afterExchange o _).session.channel = none
    rw [session_afterExchange]
    cases Outcome.lost o with
    | false => exact hb.plain
    | true => rfl

theorem pairs_plain : Pairs (Plain (τ := τ) (κ := κ) known) where
  setup _ _ hb := hb.session.setup
  tokenType? _ _ hb := congrArg Link.tokenType? hb.link
  communicate := couples_communicate

/-- From the moment when the family of the token is found out, they agree on it. -/
theorem couples_reading : Couples (Plain (τ := τ) (κ := κ) False) reading reading
    fun o => Plain (o.isOk = true) := by
  have hstop : ∀ (e : Error) (b b' : Bench τ κ), Plain True b b' →
      Plain ((Except.error e : Except Error Bytes).isOk = true) b b' := fun _ _ _ h => h.mono nofun
  refine pairs_plain.identify.bind (fun t => ?_) fun _ _ _ h => h.mono nofun
  refine Couples.bind (S := fun _ => Plain True) (.change fun b b' h => ?_) (fun u => ?_) hstop
  · exact ⟨⟨h.link, { h.session with tokenType := fun _ => rfl }⟩, h.plain⟩
  refine .session_bind fun b b' hb => ?_
  rw [hb.session.setup]
  refine (couples_communicate _ _).bind (fun r => ?_) hstop
  refine (Couples.ensure _ _).bind (fun u => ?_) hstop
  exact (pairs_plain.readObject _).mono (fun _ _ h => h) fun o b b' h => h.mono fun _ => trivial

theorem couples_withoutChannel (fault : SecureMessagingFault) :
    Couples (Plain (τ := τ) (κ := κ) known) (withoutChannel fault) (withoutChannel fault)
      fun _ => Level known :=
  (pairs_plain.withoutChannel fault).mono (fun _ _ hb => hb) fun _ _ _ hb => hb.toLevel

theorem couples_agree (handshake : Handshake κ) :
    Couples (Plain (τ := τ) known) (agree handshake) (agree handshake) fun _ => Level known :=
  pairs_plain.agree (fun _ _ hb => ⟨hb.plain, hb.plain'⟩) (fun _ _ hb => hb.toLevel)
    fun _ _ _ hb => hb.installChannel _

theorem couples_establish :
    Couples (Plain (τ := τ) (κ := κ) known) establish establish fun _ => Level known := by
  refine .session_bind fun b b' hb => ?_
  rw [hb.session.setup, hb.session.application]
  split
  · split
    · exact couples_agree _
    · exact couples_withoutChannel _
  · exact couples_withoutChannel _

theorem couples_settling (data : Bytes) :
    Couples (Plain (τ := τ) (κ := κ) known) (settling data) (settling data)
      fun _ => Level known := by
  have htake : Couples (Plain (τ := τ) (κ := κ) known) (takeOver data) (takeOver data)
      fun _ => Plain known := by
    unfold takeOver
    cases ApplicationData.decode data with
    | error fault => exact .throw _
    | ok a =>
      exact .change fun b b' h => ⟨⟨h.link, { h.session with card := rfl, application := rfl }⟩, h.plain⟩
  refine htake.bind (fun u => ?_) fun _ _ _ h => h.toLevel
  refine Couples.bind (S := fun _ => Plain known) (.change fun b b' h => ?_) (fun u => couples_establish)
    fun _ _ _ h => h.toLevel
  exact ⟨⟨h.link, { h.session with pins := rfl }⟩, h.plain⟩

theorem couples_bringUp : Couples (Plain (τ := τ) (κ := κ) False) bringUp bringUp
    fun o => Level (o.isOk = true) := by
  rw [bringUp_eq]
  refine couples_reading.bind (fun data => ?_) fun _ _ _ h => h.toLevel
  refine (couples_settling data).mono (fun _ _ h => h) fun o b b' h => h.mono fun _ => rfl

/-! ### The whole of it -/

/-- What two benches have in common before a bring-up: their sessions have the same setup, and
their links are in the same state. -/
structure Matched (b b' : Bench τ κ) : Prop where
  link : b.link = b'.link
  setup : b.session.setup = b'.session.setup

omit [Channel κ] in
/-- What comes of opening the link depends on the link alone. -/
theorem couples_openLink :
    Couples (Matched (τ := τ) (κ := κ)) openLink openLink fun _ => Matched := by
  refine .link_bind fun b b' hb => ?_
  rw [hb.link]
  split
  · exact .pure ()
  · intro b b' hb
    rw [run_onLink, run_onLink, hb.link]
    exact ⟨rfl, rfl, hb.setup⟩

/-- A bring-up that gets past the opening of the link. -/
theorem level_connect (hb : Matched b b') (hopen : (run openLink b).1 = .ok ()) :
    (run connect b).1 = (run connect b').1 ∧
      Level ((run connect b).1.isOk = true) (run connect b).2 (run connect b').2 := by
  obtain ⟨hout, hmatched⟩ := couples_openLink b b' hb
  rw [run_connect, run_connect]
  rcases hrun : run openLink b with ⟨e | ⟨⟩, b₀⟩
  · rw [hrun] at hopen
    exact nomatch hopen
  rcases hrun' : run openLink b' with ⟨e | ⟨⟩, b₀'⟩
  · rw [hrun, hrun'] at hout
    exact nomatch hout
  rw [hrun, hrun'] at hmatched
  obtain ⟨hsame, hlevel⟩ := couples_bringUp _ _ (plain_clean hmatched.link hmatched.setup)
  have hsame : (run bringUp (clean b₀)).1 = (run bringUp (clean b₀')).1 := hsame
  have hlevel : Level ((run bringUp (clean b₀)).1.isOk = true) (run bringUp (clean b₀)).2
    (run bringUp (clean b₀')).2 := hlevel
  refine ⟨hsame, ?_⟩
  dsimp only
  rw [← hsame]
  cases hend : (run bringUp (clean b₀)).1 with
  | ok u =>
    rw [hend] at hlevel
    exact hlevel
  | error e =>
    -- Both lose their descriptors.
    rw [hend] at hlevel
    exact ⟨hlevel.link, { hlevel.session with card := rfl, application := rfl }⟩

/-- A bring-up forgets the past. Two sessions with the same setup may know what they like of
earlier cards: their descriptors, the family of the token, the verified PINs, the channel and the
cached PIN may all be different. If their links are in the same state, and open, a bring-up has
the same result in both. The links have taken the same frames and end in the same state, and the
sessions end with the same descriptors, the same PIN states and the same state of secure
messaging. If the bring-up succeeds they also agree on the family of the token. -/
theorem connect_forgets {b b' : Bench (Tapped τ) κ} (hlink : b.link = b'.link)
    (hsetup : b.session.setup = b'.session.setup) (hopen : (openLink.start b).1 = .ok ()) :
    let r := connect.start b
    let r' := connect.start b'
    r.1 = r'.1 ∧
    r.2.link.frames = r'.2.link.frames ∧ r.2.link = r'.2.link ∧
    r.2.session.card = r'.2.session.card ∧
    r.2.session.application = r'.2.session.application ∧
    r.2.session.pins = r'.2.session.pins ∧
    r.2.session.channel.map Installed.state = r'.2.session.channel.map Installed.state ∧
    (r.1 = .ok () → r.2.session.tokenType = r'.2.session.tokenType) := by
  simp only [start_eq_run] at hopen ⊢
  obtain ⟨hsame, hlevel⟩ := level_connect ⟨hlink, hsetup⟩ hopen
  refine ⟨hsame, congrArg Tapped.frames hlevel.link, hlevel.link, hlevel.session.card,
    hlevel.session.application, hlevel.session.pins, hlevel.session.channel, fun hok => ?_⟩
  exact hlevel.session.tokenType (by rw [hok]; rfl)

open Simulator in
/-- A session that has used another card, with extended lengths, a channel and a verified PIN, and
a new one: both agree on the same channel in the same three frames, and find the same family. -/
theorem connect_forgets_another_card :
    let b := agreementBench (.answer [0x90, 0x00])
    let fresh : Bench (Tapped ScriptedLink) ToyChannel :=
      { session := b.session, link := ⟨b.link, []⟩ }
    let extended : CardCapabilities := { extendedLength := true }
    let used := fresh.update fun s => { s with
      pin := some (.ofText "123456"), tokenType := some .fidesmo, card := some extended,
      application := some ⟨[], [], extended, none, none, none⟩,
      channel := some ⟨7, { key := 0x55 }⟩, pins := { other := .verified } }
    let r := connect.start used
    r.1.isOk = true ∧ r.2.link.frames.length = 3 ∧
    r.2.link.frames = (connect.start fresh).2.link.frames ∧
    r.2.session.channel.map (·.state.key) = some 0x33 ∧
    r.2.session.tokenType = (connect.start fresh).2.session.tokenType := by
  intro b fresh extended used r
  have hlink : used.link = fresh.link := rfl
  obtain ⟨-, hframes, -, -, -, -, -, htype⟩ := connect_forgets hlink rfl rfl
  have hok : r.1.isOk = true := by decide +kernel
  refine ⟨hok, by decide +kernel, hframes, by decide +kernel, htype ?_⟩
  have hr : ∀ o : Except Error Unit, o.isOk = true → o = .ok () := by
    rintro (e | ⟨⟩) h
    · exact nomatch h
    · rfl
  exact hr r.1 hok

end SessionM

end PgpCard
