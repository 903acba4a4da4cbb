import PgpCard.Proofs.Reader.Carriage
import PgpCard.Proofs.Session.Loss
import PgpCard.Proofs.Session.PinHistory
import PgpCard.Simulator.ScriptedService

/-!
# `PgpCard.Proofs.Reader.Holding`: a session knows the card that its slot holds

A session and its slot each have a memory of the card. The session remembers descriptors, a
channel and verifications, and the slot a connection. Each of them changes its memory on its
own. `held_connection` says that the two never come apart as long as nobody else uses the slot:
whatever the session knows was learned over the connection that the slot holds now.

The two sides meet in the journal. What an operation has sent went over the connection that the
slot still holds, unless the journal tells of a loss (`Bench.Carried`). And where it does, the
session knows nothing any more (`Bench.Forgot`). For the channel this takes a provider that gives
up at the first exchange that fails.
-/

set_option autoImplicit false

namespace PgpCard

open Step SessionM Docked

/-- The session is the only one to use its link, and no setup has a provider that goes on after
a failed exchange. -/
def Move.Sole {τ κ : Type} : Move τ κ → Prop
  | .asked _ => True
  | .linkChanged _ => False
  | .setupChanged setup => ∀ provider a, setup.provider = some provider → (provider a).Stops

/-- All that was sent from the one bench to the other went over the connection that the slot
holds now, and the card has answered some of it. -/
def SameConnection {σ κ : Type} (b b' : Bench (Docked (Watched σ)) κ) : Prop :=
  ∃ n ts, b'.link.slot.card = some n ∧
    b'.link.service.transmissions = b.link.service.transmissions ++ ts ∧
    (∀ t ∈ ts, t.connection = some n) ∧ ts.any Transmission.answered = true

/-- What is answered over a connection that stays is answered over the connection held. -/
theorem sameConnection_of_stayed {σ κ : Type} {b b' : Bench (Docked (Watched σ)) κ}
    {ts : List Transmission} (hwent : Went ts b.link b'.link) (hstayed : Stayed ts b.link b'.link)
    (hanswered : ts.any Transmission.answered = true) : SameConnection b b' := by
  obtain ⟨t, ht, -⟩ := List.any_eq_true.mp hanswered
  obtain ⟨n, hn, -⟩ := hwent.offered t ht
  have hcard : b'.link.slot.card = some n := (hstayed.used t ht).symm.trans hn
  refine ⟨n, ts, hcard, hwent.transmissions, fun t' ht' => ?_, hanswered⟩
  exact (hstayed.used t' ht').trans hcard

namespace Event

/-- What was read was answered. -/
theorem any_isAnswered_of_hasRead {events : List Event} {a : ApplicationData}
    (h : HasRead events a) : events.any isAnswered = true := by
  obtain ⟨r, hread, -, -⟩ := h
  have hmem : (.ok r : Except Error Response) ∈ events.filterMap applicationData? := by
    rw [hread]
    exact List.mem_singleton_self _
  obtain ⟨e, he, hsome⟩ := List.mem_filterMap.mp hmem
  refine List.any_eq_true.mpr ⟨e, he, ?_⟩
  cases e with
  | concluded p o =>
    obtain ⟨-, ho⟩ := Option.ite_none_right_eq_some.mp hsome
    obtain rfl := Option.some.inj ho
    rfl
  | _ => exact nomatch hsome

end Event

variable {σ κ : Type} [Service σ] [Channel κ]

/-! ### One move -/

/-- A move by the session is carried. The slot keeps its connection, or nothing is known of a
card afterwards. -/
theorem apply_carried {b : Bench (Docked (Watched σ)) κ} (hagrees : b.link.Agrees)
    (hstops : b.session.Stops) {m : Move (Docked (Watched σ)) κ} (hm : m.Sole) :
    ∃ events ts, b.Carried events ts (m.apply b) ∧ (m.apply b).session.Stops ∧
      (¬ (m.apply b).session.Blank → Stayed ts b.link (m.apply b).link) := by
  cases m with
  | asked op =>
    have happly : Move.apply b (.asked op) = (run op.perform b).2 :=
      congrArg Prod.snd (start_eq_run op.perform b)
    obtain ⟨events, ts, hcarried⟩ := perform_carried op b hagrees
    obtain ⟨events', hforgot⟩ := perform_forgets op b
    obtain rfl : events' = events :=
      List.append_cancel_right (hforgot.journal.symm.trans hcarried.journal)
    rw [happly]
    refine ⟨events', ts, hcarried, ?_, fun hknown => ?_⟩
    · unfold Session.Stops
      rw [hforgot.setup]
      exact hstops
    · cases hloss : events'.any Event.isLoss with
      | false => exact hcarried.stayed hloss
      | true =>
        obtain ⟨happlication, hcard, hpins⟩ := hforgot.session hloss
        exact absurd ⟨hcard, happlication, hforgot.channel hloss hstops, hpins⟩ hknown
  | linkChanged link => exact hm.elim
  | setupChanged setup =>
    exact ⟨[], [], ⟨rfl, .refl hagrees, fun _ => .refl _, nofun⟩, hm, fun _ => .refl _⟩

/-! ### A run -/

theorem run_agrees (moves : List (Move (Docked (Watched σ)) κ)) (hsole : ∀ m ∈ moves, m.Sole) :
    ∀ {b : Bench (Docked (Watched σ)) κ}, b.link.Agrees → b.session.Stops →
      (Move.run b moves).link.Agrees ∧ (Move.run b moves).session.Stops := by
  induction moves with
  | nil =>
    intro b hagrees hstops
    exact ⟨hagrees, hstops⟩
  | cons m moves ih =>
    intro b hagrees hstops
    obtain ⟨hm, hsole⟩ := List.forall_mem_cons.mp hsole
    obtain ⟨events, ts, hcarried, hstops', -⟩ := apply_carried hagrees hstops hm
    exact ih hsole hcarried.went.agrees hstops'

/-- As long as something is known of a card, the slot keeps its connection. -/
theorem run_stayed (moves : List (Move (Docked (Watched σ)) κ)) (hsole : ∀ m ∈ moves, m.Sole) :
    ∀ {b : Bench (Docked (Watched σ)) κ}, b.link.Agrees → b.session.Stops →
      (∀ mid, mid <+: moves → ¬ (Move.run b mid).session.Blank) →
      ∃ ts, Went ts b.link (Move.run b moves).link ∧ Stayed ts b.link (Move.run b moves).link := by
  induction moves with
  | nil =>
    intro b hagrees hstops hknown
    exact ⟨[], .refl hagrees, .refl _⟩
  | cons m moves ih =>
    intro b hagrees hstops hknown
    obtain ⟨hm, hsole⟩ := List.forall_mem_cons.mp hsole
    obtain ⟨events, ts, hcarried, hstops', hkept⟩ := apply_carried hagrees hstops hm
    have hstayed := hkept (hknown [m] (List.prefix_append [m] moves))
    obtain ⟨ts', hwent', hstayed'⟩ := ih hsole hcarried.went.agrees hstops'
      fun mid hmid => hknown (m :: mid) (List.cons_prefix_cons.mpr ⟨rfl, hmid⟩)
    exact ⟨ts ++ ts', hcarried.went.trans hwent', hstayed.trans hcarried.went hstayed'⟩

/-- The operation had a verification of the class that the card accepted. -/
def Accepted (cls : PinClass) (b b' : Bench (Docked (Watched σ)) κ) : Prop :=
  ∃ events r, b'.journal = events ++ b.journal ∧ .concluded (.verify cls) (.ok r) ∈ events ∧
    r.isSuccess = true

omit [Service σ] [Channel κ] in
/-- Where a class has become verified, a verification was accepted. -/
theorem accepted_of_verified {cls : PinClass} {events : List Event}
    {b b' : Bench (Docked (Watched σ)) κ} (hjournal : b'.journal = events ++ b.journal)
    (hsynced : Synced b) (hsynced' : Synced b') (hbefore : b.session.pins.get cls ≠ .verified)
    (hafter : b'.session.pins.get cls = .verified) :
    Accepted cls b b' ∧ events.any Event.isAnswered = true := by
  have htold : told cls b.journal = .unverified := by
    cases hstate : told cls b.journal with
    | unverified => rfl
    | verified => exact absurd ((hsynced cls).trans hstate) hbefore
  have htold' : told cls (events ++ b.journal) = .verified := by
    rw [← hjournal, ← hsynced' cls, hafter]
  obtain ⟨r, hmem, hsuccess⟩ := accepted_of_told htold htold'
  exact ⟨⟨events, r, hjournal, hmem, hsuccess⟩, List.any_eq_true.mpr ⟨_, hmem, rfl⟩⟩

/-- A class that is verified at the end of a run was verified at its start, and the slot has kept
its connection, or an operation of the run has verified it over the connection held. -/
theorem verified_cases {cls : PinClass} (moves : List (Move (Docked (Watched σ)) κ))
    (hsole : ∀ m ∈ moves, m.Sole) : ∀ {b : Bench (Docked (Watched σ)) κ}, b.link.Agrees →
      b.session.Stops → Synced b → (Move.run b moves).session.pins.get cls = .verified →
      (b.session.pins.get cls = .verified ∧ ∃ ts, Went ts b.link (Move.run b moves).link ∧
        Stayed ts b.link (Move.run b moves).link) ∨
      ∃ before op after, moves = before ++ .asked op :: after ∧
        Accepted cls (Move.run b before) (Move.run b (before ++ [.asked op])) ∧
        SameConnection (Move.run b before) (Move.run b moves) := by
  induction moves with
  | nil =>
    intro b hagrees hstops hsynced hverified
    exact Or.inl ⟨hverified, [], .refl hagrees, .refl _⟩
  | cons m moves ih =>
    intro b hagrees hstops hsynced hverified
    obtain ⟨hm, hsole⟩ := List.forall_mem_cons.mp hsole
    obtain ⟨events, ts, hcarried, hstops', hkept⟩ := apply_carried hagrees hstops hm
    have hsynced' : Synced (m.apply b) := synced_steady.run [m] b hsynced
    rcases ih hsole hcarried.went.agrees hstops' hsynced' hverified with
      ⟨hfirst, ts', hwent', hstayed'⟩ | ⟨before, op, after, rfl, haccepted, hsame⟩
    · -- Verified after the first move, so the first move has met no loss.
      have hknown : ¬ (m.apply b).session.Blank := by
        intro hblank
        rw [hblank.pins] at hfirst
        cases cls <;> exact nomatch hfirst
      have hstayed := hkept hknown
      by_cases hbefore : b.session.pins.get cls = .verified
      · left
        exact ⟨hbefore, ts ++ ts', hcarried.went.trans hwent', hstayed.trans hcarried.went hstayed'⟩
      · right
        obtain ⟨haccepted, hanswered⟩ :=
          accepted_of_verified hcarried.journal hsynced hsynced' hbefore hfirst
        cases m with
        | asked op =>
          refine ⟨[], op, moves, rfl, haccepted, ?_⟩
          refine sameConnection_of_stayed (hcarried.went.trans hwent')
            (hstayed.trans hcarried.went hstayed') ?_
          rw [List.any_append, hcarried.answered hanswered, Bool.true_or]
        | linkChanged link => exact hm.elim
        | setupChanged setup => exact absurd hfirst hbefore
    · exact Or.inr ⟨m :: before, op, after, rfl, haccepted, hsame⟩

/-- A bring-up that succeeds was answered. -/
theorem answered_of_bringsUp {op : Operation κ} {b : Bench (Docked (Watched σ)) κ}
    (hop : op.BringsUp b) (hok : (Operation.step b op).1.isOk = true) {events : List Event}
    (hjournal : (Operation.step b op).2.journal = events ++ b.journal) :
    events.any Event.isAnswered = true := by
  have hconnect : ∀ o b', run (connect >>= fun _ => pure Answer.done) b = (o, b') → o.isOk = true →
      ∃ events, b'.journal = events ++ b.journal ∧ events.any Event.isAnswered = true := by
    intro o b' hrun hok
    cases o with
    | error e => exact nomatch hok
    | ok answer =>
      obtain ⟨⟨⟩, b₁, hconnect, hdone⟩ := run_bind_eq_ok hrun
      obtain rfl : b₁ = b' := congrArg Prod.snd hdone
      obtain ⟨found, agreement, a, b₂, hfound, -, hread, -, hagreed⟩ := connect_eq_ok hconnect
      refine ⟨agreement ++ found, ?_, ?_⟩
      · rw [hagreed.journal, hfound, List.append_assoc]
      · rw [List.any_append, Event.any_isAnswered_of_hasRead hread, Bool.or_true]
  have hstep : Operation.step b op = run (connect >>= fun _ => pure Answer.done) b := by
    cases op with
    | connect => exact start_eq_run _ b
    | connectIfNecessary =>
      have hclosed : b.session.isConnected b.link = false := hop
      have hrun : run connectIfNecessary b = run connect b := by
        rw [connectIfNecessary, run_session_bind, run_link_bind, hclosed]
        rfl
      rw [Operation.step, start_eq_run, Operation.perform, run_bind, run_bind, hrun]
    | _ => exact hop.elim
  obtain ⟨events', hjournal', hanswered⟩ := hconnect _ _ hstep.symm hok
  obtain rfl : events' = events := List.append_cancel_right (hjournal'.symm.trans hjournal)
  exact hanswered

/-- A new session is the only user of a slot, and its providers give up at the first exchange
that fails. Then in every run, whatever the service does:

* If a PIN class is verified then an operation had a verification of it that the card accepted,
  and all that was sent from the beginning of that operation on went over the connection that
  the slot holds.
* If a bring-up has succeeded and something has been known of a card ever since, be it a
  descriptor or a channel, then all that was sent from the beginning of that bring-up on went
  over the connection that the slot holds.
* The slot goes on in agreement with the service, and in that case any one exchange goes over
  one connection, however it ends. -/
theorem held_connection (setup : Setup κ) (pin : Option Pin) {d : Docked (Watched σ)}
    (hagrees : d.Agrees) (hstops : (Session.new setup pin).Stops)
    (moves : List (Move (Docked (Watched σ)) κ)) (hsole : ∀ m ∈ moves, m.Sole) :
    let run := Move.run { session := .new setup pin, link := d }
    (∀ cls, (run moves).session.pins.get cls = .verified →
      ∃ before op after, moves = before ++ .asked op :: after ∧
        Accepted cls (run before) (run (before ++ [.asked op])) ∧
        SameConnection (run before) (run moves)) ∧
    (∀ before op after, moves = before ++ .asked op :: after →
      op.BringsUp (run before) → (Operation.step (run before) op).1.isOk = true →
      (∀ mid, mid <+: after → ¬ (run (before ++ .asked op :: mid)).session.Blank) →
      SameConnection (run before) (run moves)) ∧
    (run moves).link.Agrees ∧ ∀ b : Bench (Docked (Watched σ)) κ, b.link.Agrees →
      ∀ purpose c, ∃ n ts, ((communicate purpose c).start b).2.link.service.transmissions =
        b.link.service.transmissions ++ ts ∧ ∀ t ∈ ts, t.connection = some n := by
  intro run
  refine ⟨?verified, ?known, (run_agrees moves hsole hagrees hstops).1, ?exchange⟩
  case verified =>
    intro cls hverified
    have hsynced : Synced ({ session := .new setup pin, link := d } : Bench _ κ) :=
      synced_of_fresh rfl fun _ => rfl
    rcases verified_cases moves hsole hagrees hstops hsynced hverified with ⟨hnew, -⟩ | hsplit
    · cases cls <;> exact nomatch hnew
    · exact hsplit
  case known =>
    rintro before op after rfl hop hok hknown
    obtain ⟨hbefore, hafter⟩ := List.forall_mem_append.mp hsole
    -- The run splits into what came before, and the bring-up with what came after.
    have hrun : ∀ rest, run (before ++ rest) = Move.run (run before) rest :=
      fun rest => List.foldl_append
    simp only [hrun] at hknown ⊢
    have hstart : (run before).link.Agrees ∧ (run before).session.Stops :=
      run_agrees before hbefore hagrees hstops
    obtain ⟨events, ts, hcarried, hstops', hkept⟩ :=
      apply_carried hstart.1 hstart.2 (m := .asked op) trivial
    have hstayed := hkept (hknown [] List.nil_prefix)
    have hanswered := hcarried.answered (answered_of_bringsUp hop hok hcarried.journal)
    obtain ⟨ts', hwent', hstayed'⟩ :=
      run_stayed after (List.forall_mem_cons.mp hafter).2 hcarried.went.agrees hstops' hknown
    refine sameConnection_of_stayed (hcarried.went.trans hwent')
      (hstayed.trans hcarried.went hstayed') ?_
    rw [List.any_append, hanswered, Bool.true_or]
  case exchange =>
    intro b hb purpose c
    obtain ⟨events, ts, hcarried, n, hone⟩ := communicate_carried purpose c hb
    rw [start_eq_run]
    exact ⟨n, ts, hcarried.went.transmissions, hone⟩

section Reader

open Simulator

/-- The provider of the toy suite gives up at the first exchange that fails. -/
theorem provider_stops (commands : List Command) (result : Except SecureMessagingFault ToyChannel)
    (a : ApplicationData) : (ToyChannel.provider commands result a).Stops := by
  unfold ToyChannel.provider
  split
  · exact (agreement_givesUp result commands).stops
  · exact trivial

/-- A new slot whose card is reset by the first frame. Then it answers the exchanges of a
bring-up with a key agreement, and a verification over the channel. -/
def resettingSlot : Docked (Watched ScriptedService) :=
  let described : Bytes :=
    [0x5F, 0x52, 0x04, 0x00, 0x05, 0x90, 0x00, 0xC0, 0x02, 0x80, 0x03, 0x90, 0x00]
  let service : ScriptedService := { readers := [{
    name := "Reader"
    transmits := [.error .resetCard, .ok [0x90, 0x00], .ok [0x90, 0x00], .ok described,
      .ok [0x90, 0x00], .ok [0x33, 0x90, 0x00]] }] }
  { slot := { reader := "Reader" }, service := { service } }

/-- A setup with a key agreement of one command. -/
def agreeingSetup : Setup ToyChannel :=
  let handshake : Command := { cla := 0x00, ins := 0x88, p1 := 0x01, p2 := 0x01 }
  { provider := some (ToyChannel.provider [handshake] (.ok { key := 0x33 })) }

/-- The first bring-up fails with the card reset, the second one succeeds, and then the PIN is
verified: all over the second connection, which is the one that the slot holds. -/
theorem held_connection_after_reset :
    let moves : List (Move (Docked (Watched ScriptedService)) ToyChannel) :=
      [.asked .connect, .asked .connect, .asked (.verifyOwnPin .other)]
    let run := Move.run
      { session := .new agreeingSetup (some (.ofText "123456")), link := resettingSlot }
    (run moves).session.pins.get .other = .verified ∧ (run moves).session.channel.isSome = true ∧
      (run moves).link.slot.card = some 1 ∧
      (∃ before op after, moves = before ++ .asked op :: after ∧
        Accepted .other (run before) (run (before ++ [.asked op])) ∧
        SameConnection (run before) (run moves)) ∧
      SameConnection (run [.asked .connect]) (run moves) := by
  intro moves run
  have hnew : Slot.new "Reader" {} = .ok { reader := "Reader" } := rfl
  have hstops : (Session.new agreeingSetup (some (.ofText "123456"))).Stops := by
    rintro provider a ⟨⟩
    exact provider_stops _ _ a
  have hverified : (run moves).session.pins.get .other = .verified := by decide +kernel
  obtain ⟨hheld, hbroughtUp, -⟩ := held_connection agreeingSetup (some (.ofText "123456"))
    (Slot.agrees_of_new hnew _) hstops moves (by simp [moves, Move.Sole])
  refine ⟨hverified, by decide +kernel, by decide +kernel, hheld .other hverified, ?_⟩
  -- The descriptors are there after the bring-up, and after the verification.
  have hdescribed : ∀ mid ∈ [[], [.asked (.verifyOwnPin .other)]],
      (run ([.asked .connect] ++ .asked .connect :: mid)).session.application.isSome = true := by
    decide +kernel
  refine hbroughtUp [.asked .connect] .connect [.asked (.verifyOwnPin .other)] rfl trivial
    (by decide +kernel) fun mid hmid hblank => ?_
  refine Option.isSome_iff_ne_none.mp (hdescribed mid ?_) hblank.application
  rcases List.prefix_cons_iff.mp hmid with rfl | ⟨rest, rfl, hrest⟩
  · simp
  · simp [List.prefix_nil.mp hrest]

end Reader

end PgpCard
