import PgpCard.Proofs.Link.Framing
import PgpCard.Proofs.Link.Mirror
import PgpCard.Proofs.Session.Pairs
import PgpCard.Proofs.Session.Protection

/-!
# `PgpCard.Proofs.Session.PinConfinement`: the PIN goes into VERIFY and nowhere else

The PIN of a session is a secret. Without secure messaging it has to go over the link in the
clear, but only as the data of a VERIFY command. Nothing else that a session sends, answers or
remembers may tell anything about it but its length.

`pin_confined` says so by a comparison. Two sessions that differ in the PIN only, with two PINs of
the same length, are asked for the same on links that give the same answers. They give the same
answers, end with the same knowledge, and have sent the same frames, up to the data of VERIFY
commands (`SameButPin`). The links may look at that data, as far as their answers do not depend
on it.

`Twins` is what such sessions have in common all along. It is kept by every step, because no step
but VERIFY reads the PIN. How long the PIN is decides on the framing of VERIFY, so its frames pair
up (`paired_framing`).
-/

set_option autoImplicit false

namespace PgpCard

open Step Command

/-- The same frame, or two frames of one VERIFY command that differ in the bytes of its data. -/
def SameButPin (frame frame' : Bytes) : Prop :=
  frame = frame' ∨ ∃ (c : Command) (data data' : Bytes),
    c.ins = Ins.verify ∧ data.length = data'.length ∧
    frame = ({ c with data := some data } : Command).encode ∧
    frame' = ({ c with data := some data' } : Command).encode

theorem SameButPin.refl (frame : Bytes) : SameButPin frame frame := Or.inl rfl

namespace Link

variable {c : Command} {data data' : Bytes}

/-- Only the length of the data decides whether a command is refused. -/
theorem paired_verify (hins : c.ins = Ins.verify) (hlength : data.length = data'.length) :
    Paired SameButPin { c with data := some data } { c with data := some data' } := by
  refine ⟨?_, Or.inr ⟨c, data, data', hins, hlength, rfl, rfl⟩⟩
  have hnc : ({ c with data := some data } : Command).nc =
      ({ c with data := some data' } : Command).nc := hlength
  unfold check
  rw [hnc]

/-- The segments of a VERIFY command pair up, since they are cut by length. What data the command
itself has does not matter for them. -/
theorem paired_segments (short : Command) (hins : short.ins = Ins.verify)
    (own own' : Option Bytes) (data : Bytes) : ∀ data' : Bytes, data.length = data'.length →
      List.Forall₂ (Paired SameButPin) (segments { short with data := own } data)
        (segments { short with data := own' } data') := by
  induction data using segments_induction with
  | last data hshort =>
    intro data' hlength
    have hshort' : data'.length ≤ maxShortNc := hlength ▸ hshort
    rw [segments_of_length_le _ hshort, segments_of_length_le _ hshort']
    exact .cons (paired_verify (c := short) hins hlength) .nil
  | further data hlong ih =>
    intro data' hlength
    have hlong' : maxShortNc < data'.length := Nat.lt_of_lt_of_eq hlong hlength
    rw [segments_of_lt_length _ hlong, segments_of_lt_length _ hlong']
    refine .cons ?_ (ih _ (by rw [List.length_drop, List.length_drop, hlength]))
    refine paired_verify (c := short.segment []) hins ?_
    rw [List.length_take, List.length_take, hlength]

/-- The frames of a VERIFY command pair up, whatever its framing. -/
theorem paired_framing (card : CardCapabilities) (hins : c.ins = Ins.verify)
    (hlength : data.length = data'.length) :
    List.Forall₂ (Paired SameButPin) (framing .standard card { c with data := some data })
      (framing .standard card { c with data := some data' }) := by
  have hfits : CommandSet.standard.fitsShort { c with data := some data } =
      CommandSet.standard.fitsShort { c with data := some data' } :=
    congrArg (fun n => decide (n ≤ maxShortNc)) hlength
  have hshort : Paired SameButPin ({ c with data := some data } : Command).toShort
      ({ c with data := some data' } : Command).toShort :=
    paired_verify (c := c.toShort) hins hlength
  unfold framing
  rw [← hfits]
  by_cases hext : card.extendedLength = true
  · simp only [if_pos hext]
    exact .cons (paired_verify hins hlength) .nil
  simp only [if_neg hext]
  by_cases hone : CommandSet.standard.fitsShort { c with data := some data } = true
  · simp only [if_pos hone]
    exact .cons hshort .nil
  simp only [if_neg hone]
  by_cases hchaining : card.chaining = true
  · simp only [if_pos hchaining]
    have hlong : ¬data.length ≤ maxShortNc := fun h => hone (decide_eq_true h)
    have hlong' : ¬data'.length ≤ maxShortNc := hlength ▸ hlong
    have hchain : CommandSet.standard.chain { c with data := some data } =
        segments { c.toShort with data := some data } data := if_neg hlong
    have hchain' : CommandSet.standard.chain { c with data := some data' } =
        segments { c.toShort with data := some data' } data' := if_neg hlong'
    rw [hchain, hchain']
    exact paired_segments c.toShort hins _ _ data data' hlength
  · simp only [if_neg hchaining]
    exact .nil

end Link

namespace SessionM

variable {τ τ' κ : Type} {T : τ → τ' → Prop}

/-- The sessions know the same without secure messaging, up to two PINs of one length, and their
links are related. -/
structure Twins (T : τ → τ' → Prop) (b : Bench τ κ) (b' : Bench τ' κ) : Prop where
  link : T b.link b'.link
  session : b'.session = { b.session with pin := b'.session.pin }
  pin : b.session.pin.map (·.bytes.length) = b'.session.pin.map (·.bytes.length)
  standard : b.session.setup.commands = .standard
  keyless : ∀ provider a, b.session.setup.provider = some provider →
    (provider a).Yields fun _ => False
  plain : b.session.channel = none

variable {b d : Bench τ κ} {b' d' : Bench τ' κ}

theorem Twins.setup (h : Twins T b b') : b.session.setup = b'.session.setup := by
  rw [h.session]

theorem Twins.plain' (h : Twins T b b') : b'.session.channel = none := by
  rw [h.session]
  exact h.plain

/-- Twins stay twins when the same is done to both sessions, if that neither depends on the PIN nor
touches what makes them twins. -/
theorem Twins.change (h : Twins T b b') {g : Session κ → Session κ}
    (hpin : ∀ s pin, g { s with pin } = { g s with pin }) (hsetup : ∀ s, (g s).setup = s.setup)
    (hchannel : ∀ s, s.channel = none → (g s).channel = none) (hlink : T d.link d'.link)
    (hd : d.session = g b.session) (hd' : d'.session = g b'.session) : Twins T d d' := by
  have hkept : ∀ s, (g s).pin = s.pin := by
    intro s
    have h := congrArg Session.pin (hpin s s.pin)
    exact h
  refine ⟨hlink, ?_, ?_, ?_, ?_, ?_⟩
  · rw [hd', hkept, hd, ← hpin, ← h.session]
  · rw [hd, hd', hkept, hkept]
    exact h.pin
  · rw [hd, hsetup]
    exact h.standard
  · rw [hd, hsetup]
    exact h.keyless
  · rw [hd]
    exact hchannel _ h.plain

theorem Twins.update (h : Twins T b b') {g : Session κ → Session κ}
    (hpin : ∀ s pin, g { s with pin } = { g s with pin }) (hsetup : ∀ s, (g s).setup = s.setup)
    (hchannel : ∀ s, s.channel = none → (g s).channel = none) :
    Twins T (b.update g) (b'.update g) :=
  h.change hpin hsetup hchannel h.link rfl rfl

/-- Nothing is left of either PIN after a teardown. -/
theorem Twins.teardown (h : Twins T b b') : Twins T b.teardown b'.teardown := by
  have hsession : ∀ {σ : Type} (b : Bench σ κ), b.teardown.session =
      { b.session.forgetToken with channel := none, pin := none } := by
    intro σ b
    show { (b.record .tornDown).forgetCard.session with pin := none } = _
    rw [Bench.session_forgetCard]
    rfl
  have hlink : ∀ {σ : Type} (b : Bench σ κ), b.teardown.link = b.link := fun b =>
    (b.record .tornDown).link_clearChannel
  refine ⟨?_, ?_, ?_, ?_, ?_, ?_⟩
  · rw [hlink, hlink]
    exact h.link
  · rw [hsession, hsession, h.session]
    rfl
  · rw [hsession, hsession]
  · rw [hsession]
    exact h.standard
  · rw [hsession]
    exact h.keyless
  · rw [hsession]

variable [Link τ] [Link τ'] [Channel κ]

/-- Exchanges of commands whose framings pair up come to the same, and leave twins. -/
theorem couples_of_paired (hmirrors : Link.Mirrors SameButPin T) (purpose : Purpose)
    {c c' : Command} (hnc : c.nc = c'.nc)
    (hcs : ∀ card, List.Forall₂ (Link.Paired SameButPin) (Link.framing .standard card c)
      (Link.framing .standard card c')) :
    Couples (Twins (κ := κ) T) (communicate purpose c) (communicate purpose c')
      fun _ => Twins T := by
  intro b b' hb
  obtain ⟨o, b₁, hcourse, hrun⟩ := run_communicate_eq purpose c b
  obtain ⟨o', b₁', hcourse', hrun'⟩ := run_communicate_eq purpose c' b'
  obtain ⟨link, hwire, rfl⟩ := hcourse.eq_of_plain (channelInUse?_of_channel_eq_none hb.plain)
  obtain ⟨link', hwire', rfl⟩ := hcourse'.eq_of_plain (channelInUse?_of_channel_eq_none hb.plain')
  -- What the exchange on the link depends on is the same.
  have hcard : b'.session.cardOrBaseline = b.session.cardOrBaseline := by
    rw [hb.session]
    rfl
  have hfits : CommandSet.standard.fitsShort c = CommandSet.standard.fitsShort c' :=
    congrArg (fun n => decide (n ≤ maxShortNc)) hnc
  obtain ⟨hout, hstill⟩ := Link.couples_exchangePlain hmirrors .refl
    b.session.setup.config.maxRounds hfits (hcs b.session.cardOrBaseline) b.link b'.link hb.link
  have hwire : run (Link.exchangePlain .standard b.session.setup.config.maxRounds
      b.session.cardOrBaseline c) b.link = (o, link) := by
    rw [← hb.standard]
    exact hwire
  have hwire' : run (Link.exchangePlain .standard b.session.setup.config.maxRounds
      b.session.cardOrBaseline c') b'.link = (o', link') := by
    rw [← hcard, ← hb.standard, hb.setup]
    exact hwire'
  rw [hwire, hwire'] at hout hstill
  obtain rfl : o = o' := hout
  rw [hrun, hrun']
  refine ⟨rfl, ?_⟩
  -- Where the card is lost both forget it.
  refine hb.change (g := fun s => if Outcome.lost o then
      { s.forgetToken with channel := none } else s) ?_ ?_ ?_ ?_
    (session_afterExchange o _) (session_afterExchange o _)
  · intro s pin
    cases Outcome.lost o <;> rfl
  · intro s
    cases Outcome.lost o <;> rfl
  · intro s hs
    cases Outcome.lost o
    · exact hs
    · rfl
  · show T (afterExchange o _).link (afterExchange o _).link
    rw [link_afterExchange, link_afterExchange]
    exact hstill

theorem couples_communicate_twins (hmirrors : Link.Mirrors SameButPin T) (purpose : Purpose)
    (c : Command) :
    Couples (Twins (κ := κ) T) (communicate purpose c) (communicate purpose c)
      fun _ => Twins T :=
  couples_of_paired hmirrors purpose rfl fun _ => List.forall₂_same.mpr fun s _ => .refl .refl s

theorem pairs_twins (hmirrors : Link.Mirrors SameButPin T) : Pairs (Twins (κ := κ) T) where
  setup _ _ hb := hb.setup
  tokenType? _ _ hb := hmirrors.tokenType? _ _ hb.link
  communicate := couples_communicate_twins hmirrors

/-! ### A bring-up -/

omit [Link τ] [Link τ'] [Channel κ] in
theorem twins_takeOver (data : Bytes) :
    Couples (Twins (κ := κ) T) (takeOver data) (takeOver data) fun _ => Twins T := by
  unfold takeOver
  cases ApplicationData.decode data with
  | error fault => exact .throw _
  | ok a => exact .change fun b b' hb => hb.update (fun _ _ => rfl) (fun _ => rfl) fun _ hs => hs

theorem twins_reading (hmirrors : Link.Mirrors SameButPin T) :
    Couples (Twins (κ := κ) T) reading reading fun _ => Twins T := by
  have hpairs := pairs_twins (κ := κ) hmirrors
  refine hpairs.identify.seq fun t => ?_
  refine Couples.seq (.change fun b b' hb => ?_) fun u => ?_
  · exact hb.update (fun _ _ => rfl) (fun _ => rfl) fun _ hs => hs
  refine .session_bind fun b b' hb => ?_
  rw [hb.setup]
  refine (hpairs.communicate _ _).seq fun r => ?_
  exact (Couples.ensure _ _).seq fun u => hpairs.readObject _

/-- A key agreement that yields no channel fails in both, after the same exchanges. -/
theorem twins_agree (hmirrors : Link.Mirrors SameButPin T) {handshake : Handshake κ}
    (hkeyless : handshake.Yields fun _ => False) :
    Couples (Twins T) (agree handshake) (agree handshake) fun _ => Twins T :=
  (pairs_twins hmirrors).agree (fun _ _ hb => ⟨hb.plain, hb.plain'⟩) (fun _ _ hb => hb)
    fun hrun _ _ _ => (hkeyless.of_run hrun).elim

theorem twins_establish (hmirrors : Link.Mirrors SameButPin T) :
    Couples (Twins (κ := κ) T) establish establish fun _ => Twins T := by
  refine .session_bind fun b b' hb => ?_
  have happlication : b'.session.application = b.session.application := by rw [hb.session]
  rw [happlication, ← hb.setup]
  split
  · next a provider _ hprovider =>
    split
    · exact twins_agree hmirrors (hb.keyless provider a hprovider)
    · exact (pairs_twins hmirrors).withoutChannel _
  · exact (pairs_twins hmirrors).withoutChannel _

theorem twins_bringUp (hmirrors : Link.Mirrors SameButPin T) :
    Couples (Twins (κ := κ) T) bringUp bringUp fun _ => Twins T := by
  rw [bringUp_eq, bringUp_eq]
  refine (twins_reading hmirrors).seq fun data => ?_
  refine (twins_takeOver data).seq fun u => ?_
  refine Couples.seq (.change fun b b' hb => ?_) fun u => twins_establish hmirrors
  exact hb.update (fun _ _ => rfl) (fun _ => rfl) fun _ hs => hs

omit [Channel κ] in
theorem twins_openLink (hmirrors : Link.Mirrors SameButPin T) :
    Couples (Twins (κ := κ) T) openLink openLink fun _ => Twins T := by
  refine .link_bind fun b b' hb => ?_
  rw [hmirrors.isConnected _ _ hb.link]
  split
  · exact .pure ()
  · intro b b' hb
    obtain ⟨hout, hstill⟩ := hmirrors.connect _ _ hb.link
    rw [run_onLink, run_onLink, hout]
    exact ⟨rfl, { hb with link := hstill }⟩

omit [Link τ] [Link τ'] [Channel κ] in
theorem Twins.clean (hb : Twins T b b') : Twins T (clean b) (clean b') := by
  refine hb.change (g := fun s => { s with
    pins := .fresh, card := some .baseline, application := none, channel := none })
    (fun _ _ => rfl) (fun _ => rfl) (fun _ _ => rfl) ?_ (session_clean b) (session_clean b')
  rw [link_clean, link_clean]
  exact hb.link

theorem twins_connect (hmirrors : Link.Mirrors SameButPin T) :
    Couples (Twins (κ := κ) T) connect connect fun _ => Twins T := by
  refine (twins_openLink hmirrors).seq fun u => ?_
  refine Couples.seq (.change fun b b' hb => hb.clean) fun u => ?_
  refine (twins_bringUp hmirrors).andThen fun o b b' hb => ?_
  cases o with
  | ok u => exact hb
  | error e => exact hb.update (fun _ _ => rfl) (fun _ => rfl) fun _ hs => hs

/-! ### PINs -/

/-- The two PINs go out in VERIFY commands of the same length. -/
theorem twins_verify (hmirrors : Link.Mirrors SameButPin T) (cls : PinClass) {pin pin' : Pin}
    (hlength : pin.bytes.length = pin'.bytes.length) :
    Couples (Twins (κ := κ) T) (verify cls pin) (verify cls pin') fun _ => Twins T := by
  refine .session_bind fun b b' hb => ?_
  rw [← hb.setup, hb.standard]
  have hverify : Couples (Twins (κ := κ) T)
      (communicate (.verify cls) (.verify cls pin.bytes))
      (communicate (.verify cls) (.verify cls pin'.bytes)) fun _ => Twins T :=
    couples_of_paired hmirrors (.verify cls) hlength
      fun card => Link.paired_framing (c := .verify cls []) card rfl hlength
  refine hverify.seq fun r => ?_
  refine (Couples.ensure _ _).seq fun u => ?_
  exact .change fun b b' hb => hb.update (fun _ _ => rfl) (fun _ => rfl) fun _ hs => hs

theorem twins_verifyOwnPin (hmirrors : Link.Mirrors SameButPin T) (cls : PinClass) :
    Couples (Twins (κ := κ) T) (verifyOwnPin cls) (verifyOwnPin cls) fun _ => Twins T := by
  refine .session_bind fun b b' hb => ?_
  have hpins : b'.session.pins = b.session.pins := by rw [hb.session]
  rw [hpins]
  split
  · exact .pure ()
  · have hpin := hb.pin
    -- Both have a PIN or neither has.
    cases hown : b.session.pin with
    | none =>
      cases hown' : b'.session.pin with
      | none => exact .throw _
      | some pin' => rw [hown, hown'] at hpin; exact nomatch hpin
    | some pin =>
      cases hown' : b'.session.pin with
      | none => rw [hown, hown'] at hpin; exact nomatch hpin
      | some pin' =>
        rw [hown, hown'] at hpin
        exact twins_verify hmirrors cls (Option.some.inj hpin)

theorem twins_verifyAdmin (hmirrors : Link.Mirrors SameButPin T) (pin : Pin) :
    Couples (Twins (κ := κ) T) (verifyAdmin pin) (verifyAdmin pin) fun _ => Twins T := by
  refine .session_bind fun b b' hb => ?_
  have hpins : b'.session.pins = b.session.pins := by rw [hb.session]
  rw [hpins]
  split
  · exact .pure ()
  · exact twins_verify hmirrors .admin rfl

omit [Link τ] [Link τ'] [Channel κ] in
theorem Twins.useSignature (hb : Twins T b b') : Twins T b.useSignature b'.useSignature :=
  hb.change (g := fun s => s.noteEvent .signature (.signatureUsed s.multipleSignatures))
    (fun _ _ => rfl) (fun _ => rfl) (fun _ hs => hs) hb.link rfl rfl

theorem twins_sign (hmirrors : Link.Mirrors SameButPin T) (digestInfo : Bytes) :
    Couples (Twins (κ := κ) T) (sign digestInfo) (sign digestInfo) fun _ => Twins T := by
  refine (twins_verifyOwnPin hmirrors .signature).seq fun u => ?_
  have hrequest : Couples (Twins (κ := κ) T) (requestSignature digestInfo)
      (requestSignature digestInfo) fun _ => Twins T := by
    refine .session_bind fun b b' hb => ?_
    rw [hb.setup]
    exact (couples_communicate_twins hmirrors _ _).andThen fun o b b' hb => hb.useSignature
  refine hrequest.seq fun r => ?_
  exact (Couples.ensure _ _).seq fun u => .pure _

theorem twins_decipher (hmirrors : Link.Mirrors SameButPin T) (encrypted : Bytes) :
    Couples (Twins (κ := κ) T) (decipher encrypted) (decipher encrypted) fun _ => Twins T := by
  refine (twins_verifyOwnPin hmirrors .other).seq fun u => ?_
  refine .session_bind fun b b' hb => ?_
  rw [hb.setup]
  refine (couples_communicate_twins hmirrors _ _).seq fun r => ?_
  exact (Couples.ensure _ _).seq fun u => .pure _

/-! ### What the token reports -/

theorem twins_url (hmirrors : Link.Mirrors SameButPin T) :
    Couples (Twins (κ := κ) T) url url fun _ => Twins T :=
  ((pairs_twins hmirrors).readObject _).seq fun _ => .pure _

theorem twins_holder (hmirrors : Link.Mirrors SameButPin T) :
    Couples (Twins (κ := κ) T) holder holder fun _ => Twins T :=
  ((pairs_twins hmirrors).readObject _).seq fun _ => .pure _

omit [Link τ] [Link τ'] [Channel κ] in
/-- A snapshot has nothing of the PIN. -/
theorem snapshot_twins (hbefore : Twins T b b') (hafter : Twins T d d') (kind : LinkKind)
    (holder url : String) :
    snapshot b'.session d'.session kind holder url = snapshot b.session d.session kind holder url := by
  rw [hbefore.session, hafter.session]
  rfl

theorem twins_tokenInfo (hmirrors : Link.Mirrors SameButPin T) :
    Couples (Twins (κ := κ) T) tokenInfo tokenInfo fun _ => Twins T := by
  refine .session_bind fun before before' hbefore => ?_
  have happlication : before'.session.application = before.session.application := by
    rw [hbefore.session]
  rw [happlication]
  refine (Couples.ensure _ _).seq fun u => ?_
  refine (twins_holder hmirrors).seq fun holder => ?_
  refine (twins_url hmirrors).seq fun url => ?_
  refine .session_bind fun after after' hafter => .link_bind fun b b' hb => ?_
  rw [snapshot_twins hbefore hafter, hmirrors.kind _ _ hb.link]
  cases snapshot before.session after.session (Link.kind b'.link) holder url with
  | error fault => exact .throw _
  | ok info => exact .pure _

/-! ### Whole operations -/

theorem twins_connectIfNecessary (hmirrors : Link.Mirrors SameButPin T) :
    Couples (Twins (κ := κ) T) connectIfNecessary connectIfNecessary fun _ => Twins T := by
  refine .session_bind fun b b' hb => .link_bind fun d d' hd => ?_
  have hconnected : b'.session.isConnected d'.link = b.session.isConnected d.link := by
    unfold Session.isConnected
    rw [hb.session, hmirrors.isConnected _ _ hd.link]
  rw [hconnected]
  split
  · exact .pure ()
  · exact twins_connect hmirrors

/-- Every operation but the one that takes a channel into use keeps twins, and comes to the same. -/
theorem twins_perform (hmirrors : Link.Mirrors SameButPin T) {op : Operation κ}
    (hop : ∀ state, op ≠ .installChannel state) :
    Couples (Twins T) op.perform op.perform fun _ => Twins T := by
  have hanswer : ∀ {α : Type} {step : SessionM τ κ α} {step' : SessionM τ' κ α} (f : α → Answer),
      Couples (Twins T) step step' (fun _ => Twins T) →
      Couples (Twins T) (step >>= fun a => pure (f a)) (step' >>= fun a => pure (f a))
        fun _ => Twins T :=
    fun f hstep => hstep.seq fun a => .pure _
  cases op with
  | connectIfNecessary => exact hanswer _ (twins_connectIfNecessary hmirrors)
  | connect => exact hanswer _ (twins_connect hmirrors)
  | identify => exact hanswer _ (pairs_twins hmirrors).identify
  | refresh =>
    exact hanswer _ (((pairs_twins hmirrors).readObject _).seq twins_takeOver)
  | communicate c => exact hanswer _ (couples_communicate_twins hmirrors _ c)
  | verifyOwnPin cls => exact hanswer _ (twins_verifyOwnPin hmirrors cls)
  | verifyAdmin pin => exact hanswer _ (twins_verifyAdmin hmirrors pin)
  | useSignature => exact hanswer _ (.change fun b b' hb => hb.useSignature)
  | dropAdmin =>
    exact hanswer _ (.change fun b b' hb =>
      hb.change (g := Session.noteEvent .admin .invalidated) (fun _ _ => rfl) (fun _ => rfl)
        (fun _ hs => hs) hb.link rfl rfl)
  | sign digestInfo => exact hanswer _ (twins_sign hmirrors digestInfo)
  | decipher encrypted => exact hanswer _ (twins_decipher hmirrors encrypted)
  | url => exact hanswer _ (twins_url hmirrors)
  | holder => exact hanswer _ (twins_holder hmirrors)
  | tokenInfo => exact hanswer _ (twins_tokenInfo hmirrors)
  | describe data =>
    exact hanswer _ (.change fun b b' hb =>
      hb.update (fun _ _ => rfl) (fun _ => rfl) fun _ hs => hs)
  | installChannel state => exact absurd rfl (hop state)
  | clearChannel =>
    refine hanswer _ (.change fun b b' hb => ?_)
    rw [clearChannel_of_channel_eq_none hb.plain, clearChannel_of_channel_eq_none hb.plain']
    exact hb
  | teardown => exact hanswer _ (.change fun b b' hb => hb.teardown)

end SessionM

/-- What comes of a list of requests, one after another. -/
def Operation.outcomes {τ κ : Type} [Link τ] [Channel κ] (b : Bench τ κ) :
    List (Operation κ) → List (Except Error Answer)
  | [] => []
  | op :: ops => (step b op).1 :: outcomes (step b op).2 ops

namespace SessionM

variable {τ τ' κ : Type} {T : τ → τ' → Prop} [Link τ] [Link τ'] [Channel κ]

/-- Twins that are asked for the same come to the same. The induction is on the requests. -/
theorem twins_runAll (hmirrors : Link.Mirrors SameButPin T) {ops : List (Operation κ)} :
    ∀ {b : Bench τ κ} {b' : Bench τ' κ}, Twins T b b' →
      (∀ op ∈ ops, ∀ state, op ≠ .installChannel state) →
      Operation.outcomes b ops = Operation.outcomes b' ops ∧
        Twins T (Operation.runAll b ops) (Operation.runAll b' ops) := by
  induction ops with
  | nil => exact fun hb _ => ⟨rfl, hb⟩
  | cons op ops ih =>
    intro b b' hb hops
    obtain ⟨hop, hrest⟩ := List.forall_mem_cons.mp hops
    obtain ⟨hout, hstill⟩ := twins_perform hmirrors hop b b' hb
    rw [← start_eq_run, ← start_eq_run] at hout hstill
    obtain ⟨houtcomes, hend⟩ := ih hstill hrest
    exact ⟨List.cons_eq_cons.mpr ⟨hout, houtcomes⟩, hend⟩

/-- The PIN is confined to VERIFY. Take two sessions that differ in their PINs only, with PINs of
the same length, the standard commands and no secure messaging, on links that answer alike. Asked
for the same, they give the same answers. They have sent the same frames, one after another, up to
the data of VERIFY commands. In the end they know the same: the PIN states, both descriptors and
the family of the token. -/
theorem pin_confined (hmirrors : Link.Mirrors SameButPin T) {link : τ} {link' : τ'}
    (hlink : T link link') {s : Session κ} {pin pin' : Pin}
    (hlength : pin.bytes.length = pin'.bytes.length) (hstock : s.setup.commands = .standard)
    (hkeyless : ∀ provider a, s.setup.provider = some provider →
      (provider a).Yields fun _ => False)
    (hplain : s.channel = none) {ops : List (Operation κ)}
    (hops : ∀ op ∈ ops, ∀ state, op ≠ .installChannel state) :
    let b : Bench (Tapped τ) κ := { session := { s with pin := some pin }, link := ⟨link, []⟩ }
    let b' : Bench (Tapped τ') κ := { session := { s with pin := some pin' }, link := ⟨link', []⟩ }
    let after := Operation.runAll b ops
    let after' := Operation.runAll b' ops
    List.Forall₂ SameButPin after.link.frames after'.link.frames ∧
    Operation.outcomes b ops = Operation.outcomes b' ops ∧
    after.session.pins = after'.session.pins ∧
    after.session.card = after'.session.card ∧
    after.session.application = after'.session.application ∧
    after.session.tokenType = after'.session.tokenType := by
  intro b b' after after'
  have hb : Twins (Link.Tapping SameButPin T) b b' :=
    ⟨⟨hlink, .nil⟩, rfl, congrArg some hlength, hstock, hkeyless, hplain⟩
  obtain ⟨houtcomes, hend⟩ := twins_runAll hmirrors.tapped hb hops
  have hsession : after'.session = { after.session with pin := after'.session.pin } := hend.session
  refine ⟨hend.link.2, houtcomes, ?_, ?_, ?_, ?_⟩ <;> rw [hsession]

section Trial

open Simulator

/-- Scripted links that have the same script left, whatever they have taken. -/
def SameScript (link link' : ScriptedLink) : Prop :=
  { link with frames := [] } = { link' with frames := [] }

/-- A scripted link does not look at the frames that it takes. -/
theorem mirrors_scripted : Link.Mirrors SameButPin SameScript where
  isConnected l l' hl := by
    have h := congrArg ScriptedLink.connected hl
    exact h
  kind l l' hl := by
    have h := congrArg ScriptedLink.kind hl
    exact h
  tokenType? l l' hl := by
    have h := congrArg ScriptedLink.tokenType hl
    exact h
  connect l l' hl := by
    obtain ⟨connected, persistent, kind, tokenType, openings, turns, frames, attempts⟩ := l
    obtain ⟨connected', persistent', kind', tokenType', openings', turns', frames', attempts'⟩ := l'
    obtain ⟨⟩ := hl
    rcases openings with _ | ⟨_ | fault, openings⟩ <;> exact ⟨rfl, rfl⟩
  exchange f f' _ l l' hl := by
    obtain ⟨connected, persistent, kind, tokenType, openings, turns, frames, attempts⟩ := l
    obtain ⟨connected', persistent', kind', tokenType', openings', turns', frames', attempts'⟩ := l'
    obtain ⟨⟩ := hl
    cases connected with
    | false => exact ⟨rfl, rfl⟩
    | true => rcases turns with _ | ⟨_ | ⟨fault, disconnects⟩, turns⟩ <;> exact ⟨rfl, rfl⟩

/-- A session for a card that takes chains and no extended lengths, with a PIN of 300 times the same
byte. -/
def pinTrial (byte : UInt8) : Bench (Tapped ScriptedLink) ToyChannel :=
  let answers : List Bytes := [[0x90, 0x00],
    [0x5F, 0x52, 0x08, 0x00, 0x73, 0x00, 0x00, 0x80, 0x00, 0x90, 0x00, 0x90, 0x00],
    [0x90, 0x00], [0x90, 0x00], [0xAA, 0x90, 0x00], [0x90, 0x00], [0x69, 0x82]]
  { session := { Session.new {} none with pin := some ⟨List.replicate 300 byte⟩ }
    link := ⟨{ connected := true, tokenType := some .unknown, turns := answers.map .answer }, []⟩ }

/-- A bring-up, a signature, and a request to decipher that the card refuses. Each of the PINs goes
out twice, as a chain that the card takes the first time, and refuses the second time. -/
theorem pin_confined_in_chains :
    let ops : List (Operation ToyChannel) := [.connect, .sign [0x01], .decipher [0x02]]
    let after := Operation.runAll (pinTrial 0x31) ops
    let after' := Operation.runAll (pinTrial 0x32) ops
    List.Forall₂ SameButPin after.link.frames after'.link.frames ∧
    after.link.frames ≠ after'.link.frames ∧ after.link.frames.length = 7 ∧
    after.session.pins = after'.session.pins := by
  intro ops after after'
  have hops : ∀ op ∈ ops, ∀ state, op ≠ .installChannel state := by simp [ops]
  have hlength : (⟨List.replicate 300 0x31⟩ : Pin).bytes.length =
      (⟨List.replicate 300 0x32⟩ : Pin).bytes.length := by
    rw [List.length_replicate, List.length_replicate]
  obtain ⟨hframes, -, hpins, -⟩ := pin_confined (s := .new {} none) mirrors_scripted
    (show SameScript (pinTrial 0x31).link.link (pinTrial 0x32).link.link from rfl) hlength rfl nofun
    rfl hops
  refine ⟨hframes, ?_, ?_, hpins⟩
  · decide +kernel
  · decide +kernel

end Trial

end SessionM

end PgpCard
