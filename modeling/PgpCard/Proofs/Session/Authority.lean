import PgpCard.Proofs.Session.Handover
import PgpCard.Simulator.ScriptedLink
import PgpCard.Simulator.ToyChannel

/-!
# `PgpCard.Proofs.Session.Authority`: what stands behind a command that needs a PIN

A signature or a decipherment goes out only under a verified PIN, and under the policy of one
signature per verification each signature needs a verification of its own. The module says so for
whole runs, with the standard commands and whatever the card answers.

`Obeys` is a law for the entries of a journal, each in the light of what came before it. The law
here is `Authorised`: a command is handed over only under the PIN states that it needs, these are
the states that the journal tells of, and the end of an exchange has its beginning before it.
`Lawful` is the invariant, from some point of the journal on. Not every step keeps it: a
verification may only be asked for where the class is not verified, which is what an operation
makes sure of (`lawful_of_demanded`).

`signing_discipline` draws the conclusions. That a verification lies between two signatures comes
from the point after the first one: there the class is not verified, so what has made it verified
for the second one is found later.
-/

set_option autoImplicit false

namespace PgpCard

open Step SessionM

/-! ### Laws for a journal -/

/-- Every entry obeys the law, given what came before it. -/
def Obeys (law : Event → List Event → Prop) : List Event → Prop
  | [] => True
  | e :: earlier => law e earlier ∧ Obeys law earlier

section Obeys

variable {law : Event → List Event → Prop} {later earlier : List Event}

/-- What came first has obeyed the law by itself. -/
theorem Obeys.suffix (h : Obeys law (later ++ earlier)) : Obeys law earlier := by
  induction later with
  | nil => exact h
  | cons e later ih => exact ih h.2

/-- Entries to which the law does not apply. -/
theorem Obeys.append (h : Obeys law earlier) (hlater : ∀ e ∈ later, ∀ earlier, law e earlier) :
    Obeys law (later ++ earlier) := by
  induction later with
  | nil => exact h
  | cons e later ih =>
    obtain ⟨he, hlater⟩ := List.forall_mem_cons.mp hlater
    exact ⟨he _, ih hlater⟩

end Obeys

/-- What a command for this purpose has to be, and which class has to be verified for it, or has
to be not. -/
def Purpose.Permits (c : Command) (pins : PinStates) : Purpose → Prop
  | .sign => (∃ digestInfo, c = .sign digestInfo) ∧ pins.get .signature = .verified
  | .decipher => (∃ encrypted, c = .decipher encrypted) ∧ pins.get .other = .verified
  | .verify cls => (∃ pin, c = .verify cls pin) ∧ pins.get cls = .unverified
  | _ => True

namespace Purpose

/-- Commands for this purpose neither need a PIN nor verify one. -/
def isFree : Purpose → Bool
  | .verify _ | .sign | .decipher => false
  | _ => true

variable {purpose : Purpose}

theorem permits_of_isFree (h : purpose.isFree = true) (c : Command) (pins : PinStates) :
    purpose.Permits c pins := by
  cases purpose with
  | verify | sign | decipher => exact nomatch h
  | _ => trivial

theorem ne_verify_of_isFree (h : purpose.isFree = true) (cls : PinClass) :
    purpose ≠ .verify cls := by
  rintro rfl
  exact nomatch h

end Purpose

/-- The law for a journal that goes on from `base`. A command is handed over under the PIN states
that the journal tells of, and these permit it. An exchange has ended that was begun before, with
no more than its own work in between. -/
def Authorised (base : List Event) : Event → List Event → Prop
  | .dispatched purpose c pins, earlier =>
    (∀ cls, pins.get cls = told cls (earlier ++ base)) ∧ purpose.Permits c pins
  | .concluded purpose _, earlier =>
    ∃ work c pins rest, earlier = work ++ .dispatched purpose c pins :: rest ∧
      ∀ e ∈ work, e.isWork = true
  | _, _ => True

namespace Event

/-- The entry tells neither of the beginning of an exchange nor of its end. -/
def isIdle : Event → Bool
  | .dispatched _ _ _ | .concluded _ _ => false
  | _ => true

theorem isIdle_of_isWork {e : Event} (h : e.isWork = true) : e.isIdle = true := by
  cases e with
  | dispatched | concluded => exact nomatch h
  | _ => rfl

theorem authorised_of_isIdle {e : Event} (h : e.isIdle = true) (base earlier : List Event) :
    Authorised base e earlier := by
  cases e with
  | dispatched | concluded => exact nomatch h
  | _ => trivial

end Event

namespace Bench

variable {τ κ : Type} (b : Bench τ κ)

theorem idle_record {e : Event} (h : e.isIdle = true) : b.Wrote Event.isIdle (b.record e) :=
  ⟨[e], rfl, List.forall_mem_singleton.mpr h⟩

theorem idle_clearChannel : b.Wrote Event.isIdle b.clearChannel := by
  obtain ⟨work, hjournal, hwork⟩ := (worked_clearChannel b).journal
  exact ⟨work, hjournal, fun e he => Event.isIdle_of_isWork (hwork e he)⟩

theorem idle_installChannel (state : κ) : b.Wrote Event.isIdle (b.installChannel state) :=
  b.idle_clearChannel.trans ⟨[_], rfl, List.forall_mem_singleton.mpr rfl⟩

theorem idle_teardown : b.Wrote Event.isIdle b.teardown := by
  have htorn : (b.record .tornDown).Wrote Event.isIdle b.teardown :=
    (b.record .tornDown).idle_clearChannel
  exact (b.idle_record rfl).trans htorn

theorem idle_clean : b.Wrote Event.isIdle (clean b) := by
  have hopened : (b.record .linkOpened).Wrote Event.isIdle (clean b) :=
    (b.record .linkOpened).idle_clearChannel
  exact (b.idle_record rfl).trans hopened

end Bench

/-! ### The invariant -/

/-- The session speaks the standard commands, it remembers what the journal tells, and the journal
has obeyed the law since `base`. -/
structure Lawful {τ κ : Type} (base : List Event) (b : Bench τ κ) : Prop where
  stock : b.session.setup.commands = .standard
  synced : Synced b
  journal : ∃ events, b.journal = events ++ base ∧ Obeys (Authorised base) events

section Lawful

variable {τ κ : Type} {base : List Event} {b b' : Bench τ κ}

/-- A change outside of exchanges, which may be noted. -/
theorem Lawful.idle (h : Lawful base b) (hsetup : b'.session.setup = b.session.setup)
    (hsynced : Synced b') (hwrote : b.Wrote Event.isIdle b') : Lawful base b' := by
  obtain ⟨events, hjournal, hobeys⟩ := h.journal
  obtain ⟨later, hlater, hidle⟩ := hwrote
  refine ⟨?_, hsynced, later ++ events, ?_, ?_⟩
  · rw [hsetup]
    exact h.stock
  · rw [hlater, hjournal, List.append_assoc]
  · exact hobeys.append fun e he => Event.authorised_of_isIdle (hidle e he) base

theorem lawful_clearChannel (h : Lawful base b) : Lawful base b.clearChannel := by
  refine h.idle ?_ (synced_clearChannel h.synced) b.idle_clearChannel
  rw [Bench.session_clearChannel]

theorem lawful_installChannel (h : Lawful base b) (state : κ) :
    Lawful base (b.installChannel state) := by
  refine h.idle ?_ (synced_installChannel state h.synced) (b.idle_installChannel state)
  show b.clearChannel.session.setup = _
  rw [Bench.session_clearChannel]

theorem lawful_teardown (h : Lawful base b) : Lawful base b.teardown := by
  refine h.idle ?_ (synced_teardown b) b.idle_teardown
  show (b.record .tornDown).forgetCard.session.setup = _
  rw [Bench.session_forgetCard]
  rfl

theorem lawful_clean (h : Lawful base b) : Lawful base (clean b) := by
  refine h.idle ?_ (synced_of_inProgress (clean_inProgress b)) b.idle_clean
  rw [session_clean]

theorem lawful_useSignature (h : Lawful base b) : Lawful base b.useSignature :=
  h.idle rfl (synced_useSignature h.synced) (b.idle_record rfl)

theorem lawful_dropAdmin (h : Lawful base b) : Lawful base b.dropAdmin :=
  h.idle rfl (synced_dropAdmin h.synced) (b.idle_record rfl)

theorem lawful_describe (h : Lawful base b) (a : ApplicationData) :
    Lawful base (b.update (.describe a)) :=
  ⟨h.stock, h.synced, h.journal⟩

variable [Link τ] [Channel κ]

/-! ### The steps -/

/-- An exchange that is permitted obeys the law, with all that is noted of it. -/
theorem obeys_communicate (h : Lawful base b) {purpose : Purpose} {c : Command}
    (hpermits : purpose.Permits c b.session.pins) :
    ∃ events, (run (communicate purpose c) b).2.journal = events ++ base ∧
      Obeys (Authorised base) events := by
  obtain ⟨events, hjournal, hobeys⟩ := h.journal
  obtain ⟨work, hwork, hexchange⟩ := journal_communicate purpose c b
  have hsynced : ∀ cls, b.session.pins.get cls = told cls (events ++ base) := by
    intro cls
    rw [← hjournal]
    exact h.synced cls
  have hbegun : Obeys (Authorised base) (.dispatched purpose c b.session.pins :: events) :=
    ⟨⟨hsynced, hpermits⟩, hobeys⟩
  have hworked : Obeys (Authorised base) (work ++ .dispatched purpose c b.session.pins :: events) :=
    hbegun.append fun e he => Event.authorised_of_isIdle (Event.isIdle_of_isWork (hwork e he)) base
  refine ⟨.concluded purpose (run (communicate purpose c) b).1 ::
    (work ++ .dispatched purpose c b.session.pins :: events), ?_, ?_⟩
  · rw [hexchange, hjournal]
    simp
  · exact ⟨⟨work, c, b.session.pins, events, rfl, hwork⟩, hworked⟩

/-- A permitted exchange keeps to the law. A verification is left out, since the session has not
drawn its conclusion right after the exchange. -/
theorem lawful_communicate (h : Lawful base b) {purpose : Purpose} {c : Command}
    (hverify : ∀ cls, purpose ≠ .verify cls) (hpermits : purpose.Permits c b.session.pins) :
    Lawful base (run (communicate purpose c) b).2 := by
  refine ⟨?_, synced_communicate hverify c b h.synced, obeys_communicate h hpermits⟩
  rw [setup_communicate]
  exact h.stock

/-- The demand for a class asks the card for a verification only where the class is not
verified. -/
theorem lawful_of_demanded {cls : PinClass} {o : Except Error Unit} (hdemanded : Demanded cls b o b')
    (h : Lawful base b) : Lawful base b' := by
  have hsetup := hdemanded.setup
  cases hdemanded with
  | known | missing => exact h
  | @asked o b' pin hunknown hrun =>
    have hsynced := synced_verify cls pin b h.synced
    rw [hrun] at hsynced
    have hpermits : (Purpose.verify cls).Permits (b.session.setup.commands.verify cls pin.bytes)
        b.session.pins := by
      refine ⟨⟨pin.bytes, ?_⟩, hunknown⟩
      rw [h.stock]
      rfl
    have hobeys := obeys_communicate h hpermits
    refine ⟨hsetup ▸ h.stock, hsynced, ?_⟩
    -- What the session concludes from the exchange is not noted again.
    rcases verify_cases hrun with ⟨-, -, rfl⟩ | ⟨e, -, rfl⟩
    · exact hobeys
    · exact hobeys

theorem lawful_sign (h : Lawful base b) (digestInfo : Bytes) :
    Lawful base (run (sign digestInfo) b).2 := by
  obtain ⟨o, b₁, -, hdemanded, ⟨e, rfl, hb'⟩ | ⟨rfl, hb'⟩⟩ := sign_cases digestInfo b
  all_goals
    rw [hb']
    have hlawful := lawful_of_demanded hdemanded h
  · exact hlawful
  · have hpermits : Purpose.sign.Permits (b₁.session.setup.commands.sign digestInfo)
        b₁.session.pins := by
      refine ⟨⟨digestInfo, ?_⟩, hdemanded.pins⟩
      rw [hlawful.stock]
      rfl
    exact lawful_useSignature (lawful_communicate hlawful nofun hpermits)

theorem lawful_decipher (h : Lawful base b) (encrypted : Bytes) :
    Lawful base (run (decipher encrypted) b).2 := by
  obtain ⟨o, b₁, hdemanded, ⟨e, rfl, hb'⟩ | ⟨rfl, hb'⟩⟩ := decipher_cases encrypted b
  all_goals
    rw [hb']
    have hlawful := lawful_of_demanded hdemanded h
  · exact hlawful
  · have hpermits : Purpose.decipher.Permits (b₁.session.setup.commands.decipher encrypted)
        b₁.session.pins := by
      refine ⟨⟨encrypted, ?_⟩, hdemanded.pins⟩
      rw [hlawful.stock]
      rfl
    exact lawful_communicate hlawful nofun hpermits

/-- Commands that need no PIN are permitted at any time. -/
theorem keeps_lawful {purpose : Purpose} (hfree : purpose.isFree = true) (c : Command) :
    Keeps (Lawful (τ := τ) (κ := κ) base) (communicate purpose c) := by
  intro b hb
  exact lawful_communicate hb (Purpose.ne_verify_of_isFree hfree)
    (Purpose.permits_of_isFree hfree c _)

/-! ### A bring-up -/

/-- In the course of a bring-up nothing is verified, so that the PIN states can be reset once more
at its end. -/
structure Underway (base : List Event) (b : Bench τ κ) : Prop where
  lawful : Lawful base b
  pins : b.session.pins = .fresh

/-- No command of a bring-up needs a PIN. -/
theorem underway_communicate {purpose : Purpose} (hpurpose : purpose ∈ bringUpPurposes)
    (c : Command) : Keeps (Underway (τ := τ) (κ := κ) base) (communicate purpose c) := by
  have hfree : ∀ purpose ∈ bringUpPurposes, purpose.isFree = true := by decide
  intro b hb
  obtain ⟨work, -, hpassed⟩ := communicate_passed purpose c b
  exact ⟨keeps_lawful (hfree purpose hpurpose) c b hb.lawful, hpassed.pins hb.pins⟩

theorem underway_reading : Keeps (Underway (τ := τ) (κ := κ) base) reading := by
  have hsub : ∀ purpose ∈ readingPurposes, purpose ∈ bringUpPurposes := by decide
  refine (keeps_composable _).reading (fun purpose hpurpose c => ?_) fun t b hb => ?_
  · exact underway_communicate (hsub purpose hpurpose) c
  · exact ⟨⟨hb.lawful.stock, hb.lawful.synced, hb.lawful.journal⟩, hb.pins⟩

theorem underway_settling (data : Bytes) :
    Keeps (Underway (τ := τ) (κ := κ) base) (settling data) := by
  refine keeps_settling (underway_communicate (by decide)) ?describe ?pins ?clear ?install data
  case describe => exact fun b a hb => ⟨lawful_describe hb.lawful a, hb.pins⟩
  case pins =>
    intro b hb
    have hsame : b.update (fun s => { s with pins := .fresh }) = b := by
      rw [Bench.update, ← hb.pins]
    rw [hsame]
    exact hb
  case clear =>
    intro b hb
    refine ⟨lawful_clearChannel hb.lawful, ?_⟩
    rw [Bench.session_clearChannel]
    exact hb.pins
  case install =>
    intro b state hb
    refine ⟨lawful_installChannel hb.lawful state, ?_⟩
    show b.clearChannel.session.pins = _
    rw [Bench.session_clearChannel]
    exact hb.pins

theorem lawful_connect : Keeps (Lawful (τ := τ) (κ := κ) base) connect := by
  have hbringUp : Keeps (Underway (τ := τ) (κ := κ) base) bringUp := by
    rw [bringUp_eq]
    exact Keeps.bind underway_reading underway_settling
  refine keeps_connect (fun b b' h hsession hjournal => ?_) (fun b h => ?_) fun b h => ?_
  · refine ⟨hsession ▸ h.stock, fun cls => ?_, hjournal ▸ h.journal⟩
    rw [hsession, hjournal]
    exact h.synced cls
  · exact (hbringUp (clean b) ⟨lawful_clean h, rfl⟩).lawful
  · -- The descriptors, which a failure drops, do not matter here.
    exact ⟨h.stock, h.synced, h.journal⟩

/-! ### Operations and runs -/

/-- Every operation keeps to the law. -/
theorem lawful_perform (op : Operation κ) :
    Keeps (Lawful (τ := τ) base) (op.perform (τ := τ)) := by
  have hread : ∀ tag c, Keeps (Lawful (τ := τ) (κ := κ) base) (communicate (.read tag) c) :=
    fun tag c => keeps_lawful rfl c
  have hcomposable := keeps_composable (Lawful (τ := τ) (κ := κ) base)
  cases op with
  | connectIfNecessary =>
    refine Keeps.bind (fun b hb => ?_) fun u => .pure _
    rw [connectIfNecessary, run_session_bind, run_link_bind]
    split
    · exact hb
    · exact lawful_connect b hb
  | connect => exact lawful_connect.bind fun u => .pure _
  | identify =>
    exact (hcomposable.identify fun c => keeps_lawful rfl c).bind fun t => .pure _
  | refresh =>
    refine (hcomposable.refresh (hread _) fun a b hb => ?_).bind fun u => .pure _
    exact lawful_describe hb a
  | communicate c => exact (keeps_lawful rfl c).bind fun r => .pure _
  | verifyOwnPin cls =>
    refine Keeps.bind (fun b hb => ?_) fun u => .pure _
    exact lawful_of_demanded (verifyOwnPin_demanded cls b) hb
  | verifyAdmin pin =>
    refine Keeps.bind (fun b hb => ?_) fun u => .pure _
    exact lawful_of_demanded (verifyAdmin_demanded pin b) hb
  | useSignature => exact fun b hb => lawful_useSignature hb
  | dropAdmin => exact fun b hb => lawful_dropAdmin hb
  | sign digestInfo => exact Keeps.bind (fun b hb => lawful_sign hb digestInfo) fun bytes => .pure _
  | decipher encrypted =>
    exact Keeps.bind (fun b hb => lawful_decipher hb encrypted) fun bytes => .pure _
  | url => exact (hcomposable.url (hread _)).bind fun s => .pure _
  | holder => exact (hcomposable.holder (hread _)).bind fun s => .pure _
  | tokenInfo => exact (hcomposable.tokenInfo hread).bind fun i => .pure _
  | describe a => exact fun b hb => lawful_describe hb a
  | installChannel state => exact fun b hb => lawful_installChannel hb state
  | clearChannel => exact fun b hb => lawful_clearChannel hb
  | teardown => exact fun b hb => lawful_teardown hb

/-- The move leaves the session its standard commands. -/
def Move.Stock : Move τ κ → Prop
  | .setupChanged setup => setup.commands = .standard
  | _ => True

/-- The law is kept all along a run. -/
theorem lawful_run (moves : List (Move τ κ)) (hmoves : ∀ m ∈ moves, m.Stock) :
    ∀ b, Lawful base b → Lawful base (Move.run b moves) := by
  induction moves with
  | nil => exact fun b hb => hb
  | cons m moves ih =>
    obtain ⟨hm, hmoves⟩ := List.forall_mem_cons.mp hmoves
    intro b hb
    apply ih hmoves
    cases m with
    | asked op =>
      show Lawful base (op.perform.start b).2
      rw [start_eq_run]
      exact lawful_perform op b hb
    | linkChanged link => exact ⟨hb.stock, hb.synced, hb.journal⟩
    | setupChanged setup => exact ⟨hm, hb.synced, hb.journal⟩

end Lawful

/-! ### The discipline -/

/-- Among the entries is the whole exchange of a VERIFY for the class that the card has answered
by `90 00`. -/
def HasVerified (cls : PinClass) (events : List Event) : Prop :=
  ∃ later r work pin pins earlier, events = later ++ .concluded (.verify cls) (.ok r) ::
      (work ++ .dispatched (.verify cls) (.verify cls pin) pins :: earlier) ∧
    r.isSuccess = true ∧ ∀ e ∈ work, e.isWork = true

/-- A command that needs a class which was not verified at `base` goes out after a VERIFY that the
card has accepted since. -/
theorem hasVerified_of_obeys {base later mid : List Event} {purpose : Purpose} {c : Command}
    {pins : PinStates} {cls : PinClass}
    (h : Obeys (Authorised base) (later ++ .dispatched purpose c pins :: mid))
    (hbase : told cls base = .unverified) (hpins : pins.get cls = .verified) :
    HasVerified cls mid := by
  obtain ⟨⟨hsynced, -⟩, hmid⟩ := h.suffix
  have htold : told cls (mid ++ base) = .verified := by rw [← hsynced cls, hpins]
  obtain ⟨r, hmem, hsuccess⟩ := accepted_of_told hbase htold
  obtain ⟨after, before, rfl⟩ := List.append_of_mem hmem
  -- The exchange has a beginning, which the law knows as well.
  obtain ⟨⟨work, c', pins', earlier, rfl, hwork⟩, hbefore⟩ := hmid.suffix
  obtain ⟨⟨-, ⟨pin, rfl⟩, -⟩, -⟩ := hbefore.suffix
  exact ⟨after, r, work, pin, pins', earlier, rfl, hsuccess, hwork⟩

section Discipline

variable {τ κ : Type} [Link τ] [Channel κ]

/-- In every run with the standard commands, whatever the card answers:

- A signature or a decipherment is handed over only under a verified PIN of its class, and a
  VERIFY only for a class that is not verified.
- A call that needs a class hands over one VERIFY for it at most, and none if it is verified. What
  it hands over besides comes after the class was verified, by that VERIFY if not before.
- After a call to sign, whatever came of it, the signature class is not verified, but for a card
  known to allow several signatures, by a first PW status byte of `01`.
- If the card known after such a call allows one signature per verification, then the card has
  accepted a VERIFY for signatures between the call and any signature that is handed over later. -/
theorem signing_discipline (setup : Setup κ) (pin : Option Pin) (link : τ)
    (hstock : setup.commands = .standard) (moves : List (Move τ κ))
    (hmoves : ∀ m ∈ moves, m.Stock) :
    let b := Move.run { session := .new setup pin, link } moves
    (∀ later purpose c pins earlier,
      b.journal = later ++ .dispatched purpose c pins :: earlier → purpose.Permits c pins) ∧
    (∀ op cls, op.pinClass? = some cls →
      HandsOver cls op.securityCommand? b (Operation.step b op).2) ∧
    ∀ digestInfo,
      let b₁ := (Operation.step b (.sign digestInfo)).2
      (b₁.session.pins.get .signature = .unverified ∨
        ∃ a rest, b₁.session.application = some a ∧ a.pinStatus = some (0x01 :: rest)) ∧
      (b₁.session.multipleSignatures = false → ∀ moves', (∀ m ∈ moves', m.Stock) →
        ∀ later c pins mid, (Move.run b₁ moves').journal =
          later ++ .dispatched .sign c pins :: (mid ++ b₁.journal) → HasVerified .signature mid) := by
  intro b
  have hnew : Lawful [] ({ session := .new setup pin, link } : Bench τ κ) :=
    ⟨hstock, synced_of_fresh rfl fun _ => rfl, [], rfl, trivial⟩
  have hlawful : Lawful [] b := lawful_run moves hmoves _ hnew
  refine ⟨?permits, fun op cls hop => handsOver_of_pinClass? hop hlawful.stock, ?signed⟩
  case permits =>
    intro later purpose c pins earlier hjournal
    obtain ⟨events, hevents, hobeys⟩ := hlawful.journal
    rw [List.append_nil] at hevents
    rw [← hevents, hjournal] at hobeys
    exact hobeys.suffix.1.2
  case signed =>
    intro digestInfo b₁
    have hb₁ : b₁ = (run (sign digestInfo) b).2 := by
      show ((Operation.sign digestInfo).perform.start b).2 = _
      rw [start_eq_run]
      exact congrArg Prod.snd (run_bind_pure (sign digestInfo) Answer.bytes b)
    have hspent := unverified_sign digestInfo b
    rw [← hb₁] at hspent
    refine ⟨?spent, ?between⟩
    case spent =>
      refine hspent.imp_right fun hmultiple => ?_
      obtain ⟨a, happlication, ha⟩ := (Option.any_eq_true _ _).mp hmultiple
      obtain ⟨rest, hstatus⟩ := a.pinStatus_of_multipleSignatures ha
      exact ⟨a, rest, happlication, hstatus⟩
    case between =>
      intro hsingle moves' hmoves' later c pins mid hjournal
      have hunverified : b₁.session.pins.get .signature = .unverified :=
        hspent.resolve_right (ne_true_of_eq_false hsingle)
      have hsigned : Lawful [] b₁ := hb₁ ▸ lawful_sign hlawful digestInfo
      -- The law is looked at from the call on.
      have hsince : Lawful b₁.journal b₁ := ⟨hsigned.stock, hsigned.synced, [], rfl, trivial⟩
      obtain ⟨events, hevents, hobeys⟩ := (lawful_run moves' hmoves' b₁ hsince).journal
      have hsplit : events = later ++ .dispatched .sign c pins :: mid := by
        rw [hjournal, ← List.cons_append, ← List.append_assoc] at hevents
        exact (List.append_cancel_right hevents).symm
      rw [hsplit] at hobeys
      have hpermits := hobeys.suffix.1.2
      refine hasVerified_of_obeys hobeys ?_ hpermits.2
      rw [← hsigned.synced .signature, hunverified]

end Discipline

open Simulator in
/-- A card that allows one signature per verification is asked for two signatures, and has to
accept a VERIFY for each. -/
theorem signing_discipline_two_signatures :
    let link : ScriptedLink :=
      { tokenType := some .unknown,
        turns := [.answer [0x90, 0x00],
          .answer [0x5F, 0x52, 0x04, 0x00, 0x05, 0x90, 0x00, 0xC4, 0x01, 0x00, 0x90, 0x00],
          .answer [0x90, 0x00], .answer [0xAA, 0x90, 0x00],
          .answer [0x90, 0x00], .answer [0xBB, 0x90, 0x00]] }
    let pin := Pin.ofText "123456"
    let b : Bench ScriptedLink ToyChannel :=
      Move.run { session := .new {} (some pin), link } [.asked .connect]
    let b₁ := (Operation.step b (.sign [0x31])).2
    let b₂ := Move.run b₁ [.asked (.sign [0x32])]
    b₁.session.multipleSignatures = false ∧
    (b₂.journal.filterMap Event.handed?).take 4 =
      [.sign [0x32], .verify .signature pin.bytes, .sign [0x31], .verify .signature pin.bytes] ∧
    ∀ later c pins mid, b₂.journal = later ++ .dispatched .sign c pins :: (mid ++ b₁.journal) →
      HasVerified .signature mid := by
  have hmoves : ∀ op : Operation ToyChannel,
      ∀ m ∈ ([.asked op] : List (Move ScriptedLink ToyChannel)), m.Stock := by
    intro op m hm
    obtain rfl := List.mem_singleton.mp hm
    trivial
  intro link pin
  obtain ⟨-, -, hsigned⟩ := signing_discipline (κ := ToyChannel) {} (some pin) link rfl
    [.asked .connect] (hmoves _)
  obtain ⟨-, hbetween⟩ := hsigned [0x31]
  refine ⟨by decide +kernel, by decide +kernel, ?_⟩
  exact hbetween (by decide +kernel) [.asked (.sign [0x32])] (hmoves _)

end PgpCard
