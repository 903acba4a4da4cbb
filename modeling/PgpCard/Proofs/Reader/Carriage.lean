import PgpCard.Proofs.Reader.Watch
import PgpCard.Proofs.Session.Forgetting

/-!
# `PgpCard.Proofs.Reader.Carriage`: how a slot carries what a session asks for

A slot may change its connection inside of any exchange of a session. The session is not told
about connections. All it sees of them is how its exchanges end, and what the journal has of
that is whether the card was lost.

That is enough. As long as no exchange of an operation has met a loss, the slot keeps the
connection that it had, and everything was sent over the connection that it has afterwards
(`Stayed`). `Carried` says so of operations, and `perform_carried` proves it for each of them. A
single exchange goes over one connection even when it ends in a loss (`Conveyed`), since a
failed frame is the last one of its exchange.
-/

set_option autoImplicit false

namespace PgpCard

open Step

/-- The card has answered the frame. -/
def Transmission.answered (t : Transmission) : Bool := t.outcome.isOk

namespace Docked

variable {σ : Type}

/-- The slot has kept its connection, and has sent `ts` over the one that it has now. -/
structure Stayed (ts : List Transmission) (d d' : Docked (Watched σ)) : Prop where
  kept : ∀ n, d.slot.card = some n → d'.slot.card = some n
  used : ∀ t ∈ ts, t.connection = d'.slot.card

theorem Stayed.refl (d : Docked (Watched σ)) : Stayed [] d d := ⟨fun _ => id, by simp⟩

/-- A connection over which something was sent has a number, so that it is kept as well. -/
theorem Stayed.trans {ts ts' : List Transmission} {d d' d'' : Docked (Watched σ)}
    (hwent : Went ts d d') (h : Stayed ts d d') (h' : Stayed ts' d' d'') :
    Stayed (ts ++ ts') d d'' := by
  refine ⟨fun n hn => h'.kept n (h.kept n hn), List.forall_mem_append.mpr ⟨fun t ht => ?_, h'.used⟩⟩
  obtain ⟨n, hn, -⟩ := hwent.offered t ht
  have hcard : d'.slot.card = some n := (h.used t ht).symm.trans hn
  exact hn.trans (h'.kept n hcard).symm

/-- What was sent for one exchange: it went over one connection, the one of the slot if it had
one. Unless the card was lost the slot still has it. -/
structure Conveyed (lost : Bool) (ts : List Transmission) (d d' : Docked (Watched σ)) : Prop where
  went : Went ts d d'
  one : ∃ n, (∀ m, d.slot.card = some m → m = n) ∧ ∀ t ∈ ts, t.connection = some n
  stayed : lost = false → Stayed ts d d'

theorem Conveyed.refl (lost : Bool) {d : Docked (Watched σ)} (h : d.Agrees) :
    Conveyed lost [] d d := by
  refine ⟨.refl h, ⟨d.slot.card.getD 0, fun m hm => ?_, by simp⟩, fun _ => .refl d⟩
  rw [hm]
  rfl

/-- Without a loss so far, the exchange goes on over the same connection. -/
theorem Conveyed.trans {lost : Bool} {ts ts' : List Transmission} {d d' d'' : Docked (Watched σ)}
    (h : Conveyed false ts d d') (h' : Conveyed lost ts' d' d'') :
    Conveyed lost (ts ++ ts') d d'' := by
  have hstayed := h.stayed rfl
  refine ⟨h.went.trans h'.went, ?_, fun hlost => hstayed.trans h.went (h'.stayed hlost)⟩
  obtain ⟨n, hsame, hone⟩ := h'.one
  refine ⟨n, fun m hm => hsame m (hstayed.kept m hm), ?_⟩
  refine List.forall_mem_append.mpr ⟨fun t ht => ?_, hone⟩
  obtain ⟨m, hm, -⟩ := h.went.offered t ht
  rw [hm, hsame m ((hstayed.used t ht).symm.trans hm)]

end Docked

/-! ### The exchange on the link -/

namespace Link

open Docked

variable {σ : Type}

/-- The step conveys what it sends. -/
def Conveys {α : Type} (step : EStateM Error (Docked (Watched σ)) α) : Prop :=
  ∀ d, d.Agrees → ∃ ts, Conveyed (Outcome.lost (run step d).1) ts d (run step d).2

/-- If the step succeeds then the card has answered something that it sent. -/
def Reaches {α : Type} (step : EStateM Error (Docked (Watched σ)) α) : Prop :=
  ∀ d, d.Agrees → ∀ a d', run step d = (.ok a, d') → ∀ ts, Went ts d d' →
    ts.any Transmission.answered = true

theorem conveys_composable : Composable (τ := Docked (Watched σ)) fun _ step => Conveys step where
  pure _ d h := ⟨[], .refl _ h⟩
  giveUp _ d h := ⟨[], .refl _ h⟩
  bind {α β step next} hstep hnext d h := by
    obtain ⟨ts, hconveyed⟩ := hstep d h
    rcases hrun : run step d with ⟨e | a, d'⟩
    · rw [run_bind_of_error hrun]
      rw [hrun] at hconveyed
      exact ⟨ts, hconveyed⟩
    · -- The first step went on, so it has met no loss.
      rw [run_bind_of_ok hrun]
      rw [hrun] at hconveyed
      obtain ⟨ts', hconveyed'⟩ := hnext a d' hconveyed.went.agrees
      exact ⟨ts ++ ts', hconveyed.trans hconveyed'⟩

/-- An answer to the first step is one to the whole. -/
theorem Reaches.bind {α β : Type} {step : EStateM Error (Docked (Watched σ)) α}
    {next : α → EStateM Error (Docked (Watched σ)) β} (h : Reaches step) (hstep : Conveys step)
    (hnext : ∀ a, Conveys (next a)) : Reaches (step >>= next) := by
  intro d hagrees b d'' hrun ts hwent
  obtain ⟨a, d', hfirst, hrest⟩ := run_bind_eq_ok hrun
  obtain ⟨ts₁, hconveyed⟩ := hstep d hagrees
  rw [hfirst] at hconveyed
  obtain ⟨ts₂, hconveyed'⟩ := hnext a d' hconveyed.went.agrees
  rw [hrest] at hconveyed'
  have hts : ts = ts₁ ++ ts₂ := List.append_cancel_left
    (hwent.transmissions.symm.trans (hconveyed.went.trans hconveyed'.went).transmissions)
  rw [hts, List.any_append, h d hagrees a d' hfirst ts₁ hconveyed.went, Bool.true_or]

/-- A step that fails has nothing to show for it. -/
theorem reaches_throw {α : Type} (e : Error) :
    Reaches (σ := σ) (throw e : EStateM Error (Docked (Watched σ)) α) := by
  intro d hagrees a d' hrun
  exact nomatch hrun

/-- A slot hands a step on, with its faults as faults of the link. -/
theorem run_asLink {α : Type} (step : SlotM (Watched σ) α) (d : Docked (Watched σ)) :
    run (Slot.asLink step) d = ((run step d).1.mapError ReaderFault.toFault, (run step d).2) := by
  unfold run Slot.asLink
  cases step d <;> rfl

variable [Service σ]

/-- A frame goes over one connection, which is kept unless the card is lost. -/
theorem exchange_conveyed (frame : Bytes) {d : Docked (Watched σ)} (h : d.Agrees) :
    (∃ fault d', run (Link.exchange frame) d = (.error fault, d') ∧
      ∃ ts, Conveyed fault.lostCard ts d d') ∨
    ∃ answer d' n, run (Link.exchange frame) d = (.ok answer, d') ∧
      Conveyed false [⟨n, frame, .ok answer⟩] d d' := by
  have hlink : run (Link.exchange frame) d = ((run (Slot.exchange frame) d).1.mapError
      ReaderFault.toFault, (run (Slot.exchange frame) d).2) := run_asLink _ d
  rw [hlink]
  rcases Slot.exchange_cases frame h with ⟨fault, d', hrun, hwent, hnone⟩ | ⟨n, outcome, d', hrun,
    hwent, hsame, -, hkept⟩
  · -- Without a connection before there is none to keep, and nothing was sent.
    rw [hrun]
    refine Or.inl ⟨fault.toFault, d', rfl, [], hwent, ⟨0, ?_, by simp⟩, fun _ => ⟨?_, by simp⟩⟩
    · intro m hm
      exact nomatch hnone.symm.trans hm
    · intro m hm
      exact nomatch hnone.symm.trans hm
  · rw [hrun]
    have hone : ∃ k, (∀ m, d.slot.card = some m → m = k) ∧
        ∀ t ∈ [(⟨some n, frame, outcome⟩ : Transmission)], t.connection = some k :=
      ⟨n, hsame, List.forall_mem_singleton.mpr rfl⟩
    have hstayed : Slot.isOver outcome = false → Stayed [⟨some n, frame, outcome⟩] d d' := by
      intro hover
      have hcard := hkept.mpr hover
      refine ⟨fun m hm => ?_, List.forall_mem_singleton.mpr hcard.symm⟩
      rw [hsame m hm]
      exact hcard
    cases outcome with
    | ok answer => exact Or.inr ⟨answer, d', some n, rfl, hwent, hone, fun _ => hstayed rfl⟩
    | error fault =>
      refine Or.inl ⟨(ReaderFault.service fault).toFault, d', rfl, _, hwent, hone, fun hlost => ?_⟩
      -- The connections that a slot gives up are those of lost cards.
      apply hstayed
      cases hends : Slot.endsConnection fault with
      | false => exact hends
      | true =>
        have hgiven := (Slot.lostCard_iff fault).mpr (Or.inl hends)
        exact absurd hgiven (ne_true_of_eq_false hlost)

theorem transmitPlain_conveyed (c : Command) {d : Docked (Watched σ)} (h : d.Agrees) :
    ∃ ts, Conveyed (Outcome.lost (run (transmitPlain c) d).1) ts d (run (transmitPlain c) d).2 ∧
      (∀ r, (run (transmitPlain c) d).1 = .ok r → ts.any Transmission.answered = true) := by
  cases hcheck : c.check with
  | error fault =>
    rw [run_transmitPlain_of_check_error hcheck]
    exact ⟨[], .refl _ h, nofun⟩
  | ok u =>
    rw [run_transmitPlain_of_check_ok hcheck]
    rcases exchange_conveyed c.encode h with ⟨fault, d', hrun, ts, hconveyed⟩ | ⟨answer, d', n, hrun,
      hconveyed⟩
    · rw [hrun]
      exact ⟨ts, hconveyed, nofun⟩
    · -- The card has answered, so whatever is wrong with the answer is no loss.
      rw [hrun]
      refine ⟨[⟨n, c.encode, .ok answer⟩], ?_, fun _ _ => rfl⟩
      have hlost : Outcome.lost ((Response.decode answer).mapError
          fun fault => Error.apdu (.response fault)) = false := by
        cases Response.decode answer <;> rfl
      rw [hlost]
      exact hconveyed

theorem conveys_transmitPlain (c : Command) : Conveys (σ := σ) (transmitPlain c) := by
  intro d h
  obtain ⟨ts, hconveyed, -⟩ := transmitPlain_conveyed c h
  exact ⟨ts, hconveyed⟩

theorem reaches_transmitPlain (c : Command) : Reaches (σ := σ) (transmitPlain c) := by
  intro d h r d' hrun ts hwent
  obtain ⟨ts', hconveyed, hanswered⟩ := transmitPlain_conveyed c h
  rw [hrun] at hconveyed hanswered
  obtain rfl : ts = ts' :=
    List.append_cancel_left (hwent.transmissions.symm.trans hconveyed.went.transmissions)
  exact hanswered r rfl

/-- The first segment decides, and an empty chain does not succeed. -/
theorem reaches_transmitSegments (total sent : Nat) (segments : List Command) :
    Reaches (σ := σ) (transmitSegments total sent segments) := by
  cases segments with
  | nil => exact reaches_throw _
  | cons c rest =>
    have hrest : ∀ sent, Conveys (σ := σ) (transmitSegments total sent rest) := fun sent =>
      conveys_composable.transmitSegments total rest (fun s _ => conveys_transmitPlain s) sent
    -- The last segment is sent differently.
    cases rest with
    | nil =>
      refine (reaches_transmitPlain c).bind (conveys_transmitPlain c) fun r => ?_
      exact conveys_composable.pure _
    | cons c' rest =>
      refine (reaches_transmitPlain c).bind (conveys_transmitPlain c) fun r => ?_
      split
      · exact hrest (sent + 1)
      · exact conveys_composable.pure _

theorem reaches_transmitFramed (commands : CommandSet) (card : CardCapabilities) (c : Command) :
    Reaches (σ := σ) (transmitFramed commands card c) := by
  unfold transmitFramed
  split
  · exact reaches_transmitPlain c
  · split
    · exact reaches_transmitPlain _
    · split
      · refine (reaches_transmitSegments _ 0 _).bind
          (conveys_composable.transmitSegments _ _ (fun s _ => conveys_transmitPlain s) 0) ?_
        intro outcome
        cases outcome with
        | completed r => exact conveys_composable.pure r
        | aborted step total status => exact conveys_composable.giveUp rfl
      · exact reaches_throw _

/-- What one exchange sends goes over one connection. If it succeeds the card has answered. -/
theorem exchangePlain_conveyed (commands : CommandSet) (maxRounds : Nat) (card : CardCapabilities)
    (c : Command) :
    Conveys (σ := σ) (exchangePlain commands maxRounds card c) ∧
      Reaches (σ := σ) (exchangePlain commands maxRounds card c) := by
  have hframed : Conveys (σ := σ) (transmitFramed commands card c) :=
    conveys_composable.transmitFramed fun s _ => conveys_transmitPlain s
  have hcollect : ∀ r, Conveys (σ := σ) (collect commands.getResponse maxRounds maxRounds r) :=
    conveys_composable.collect (fun _ => conveys_transmitPlain _) maxRounds maxRounds
  exact ⟨conveys_composable.bind hframed hcollect,
    (reaches_transmitFramed commands card c).bind hframed hcollect⟩

end Link

/-! ### The steps of a session -/

/-- The entry tells that an exchange was answered. -/
def Event.isAnswered : Event → Bool
  | .concluded _ o => o.isOk
  | _ => false

namespace Bench

variable {σ κ : Type}

/-- From the one bench to the other `events` were noted and `ts` was sent. If the events tell of
no loss, the slot has kept its connection, and if they tell of an answer, the card has given
one. -/
structure Carried (events : List Event) (ts : List Transmission)
    (b b' : Bench (Docked (Watched σ)) κ) : Prop where
  journal : b'.journal = events ++ b.journal
  went : Docked.Went ts b.link b'.link
  stayed : events.any Event.isLoss = false → Docked.Stayed ts b.link b'.link
  answered : events.any Event.isAnswered = true → ts.any Transmission.answered = true

theorem Carried.refl {b : Bench (Docked (Watched σ)) κ} (h : b.link.Agrees) : Carried [] [] b b :=
  ⟨rfl, .refl h, fun _ => .refl _, nofun⟩

theorem Carried.trans {events events' : List Event} {ts ts' : List Transmission}
    {b b' b'' : Bench (Docked (Watched σ)) κ} (h : Carried events ts b b')
    (h' : Carried events' ts' b' b'') : Carried (events' ++ events) (ts ++ ts') b b'' := by
  refine ⟨?_, h.went.trans h'.went, fun hloss => ?_, fun hanswered => ?_⟩
  · rw [h'.journal, h.journal, List.append_assoc]
  · obtain ⟨hlater, hearlier⟩ := Bool.or_eq_false_iff.mp (List.any_append.symm.trans hloss)
    exact (h.stayed hearlier).trans h.went (h'.stayed hlater)
  · rw [List.any_append, Bool.or_eq_true] at hanswered ⊢
    exact hanswered.symm.imp h.answered h'.answered

/-- Without an exchange nothing is sent. -/
theorem Quiet.carried {f : Bench (Docked (Watched σ)) κ → Bench (Docked (Watched σ)) κ}
    (h : Quiet f) {b : Bench (Docked (Watched σ)) κ} (hagrees : b.link.Agrees) :
    ∃ events, Carried events [] b (f b) := by
  obtain ⟨hlink, -, events, hjournal, hquiet⟩ := h b
  refine ⟨events, hjournal, ?_, fun _ => ?_, fun hanswered => ?_⟩
  · rw [hlink]
    exact .refl hagrees
  · rw [hlink]
    exact .refl _
  · obtain ⟨e, he, hanswered⟩ := List.any_eq_true.mp hanswered
    have hnone := hquiet e he
    cases e with
    | concluded p o => exact nomatch hnone
    | _ => exact nomatch hanswered

end Bench

namespace SessionM

open Docked

variable {σ κ : Type}

/-- Whatever the step sends is carried. -/
def Carries {α : Type} (step : SessionM (Docked (Watched σ)) κ α) : Prop :=
  ∀ b : Bench (Docked (Watched σ)) κ, b.link.Agrees →
    ∃ events ts, b.Carried events ts (run step b).2

theorem carries_composable :
    Composable (τ := Docked (Watched σ)) (κ := κ) fun _ step => Carries step where
  pure _ b h := ⟨[], [], .refl h⟩
  refuse _ b h := ⟨[], [], .refl h⟩
  session b h := ⟨[], [], .refl h⟩
  link b h := ⟨[], [], .refl h⟩
  bind {α β step next} hstep hnext b h := by
    obtain ⟨events, ts, hcarried⟩ := hstep b h
    rcases hrun : run step b with ⟨e | a, b'⟩
    · rw [run_bind_of_error hrun]
      rw [hrun] at hcarried
      exact ⟨events, ts, hcarried⟩
    · rw [run_bind_of_ok hrun]
      rw [hrun] at hcarried
      obtain ⟨events', ts', hcarried'⟩ := hnext a b' hcarried.went.agrees
      exact ⟨_, _, hcarried.trans hcarried'⟩

theorem carries_change {f : Bench (Docked (Watched σ)) κ → Bench (Docked (Watched σ)) κ}
    (h : Bench.Quiet f) : Carries (change f) := by
  intro b hagrees
  obtain ⟨events, hcarried⟩ := h.carried hagrees
  exact ⟨events, [], hcarried⟩

theorem carries_andThen {α : Type} {step : SessionM (Docked (Watched σ)) κ α}
    {f : Except Error α → Bench (Docked (Watched σ)) κ → Bench (Docked (Watched σ)) κ}
    (hstep : Carries step) (h : ∀ o, Bench.Quiet (f o)) : Carries (step.andThen f) := by
  intro b hagrees
  obtain ⟨events, ts, hcarried⟩ := hstep b hagrees
  obtain ⟨events', hcarried'⟩ := (h (run step b).1).carried hcarried.went.agrees
  rw [run_andThen]
  exact ⟨_, _, hcarried.trans hcarried'⟩

variable [Service σ] [Channel κ]

/-- An exchange conveys what it sends, and if it succeeds the card has answered. -/
theorem Course.conveyed {c : Command} {o : Except Error Response}
    {b b' : Bench (Docked (Watched σ)) κ} (h : Course c b o b') (hagrees : b.link.Agrees) :
    ∃ ts, Conveyed (Outcome.lost o) ts b.link b'.link ∧
      (o.isOk = true → ts.any Transmission.answered = true) := by
  rcases h.onLink with ⟨hlink, fault, rfl⟩ | ⟨framed, wired, hwire, hlost, hok⟩
  · rw [hlink]
    exact ⟨[], .refl _ hagrees, nofun⟩
  · obtain ⟨hconveys, hreaches⟩ := Link.exchangePlain_conveyed (σ := σ) b.session.setup.commands
      b.session.setup.config.maxRounds b.session.cardOrBaseline framed
    obtain ⟨ts, hconveyed⟩ := hconveys b.link hagrees
    rw [show run (Link.exchangePlain _ _ _ framed) b.link = b.onWire framed from rfl, hwire]
      at hconveyed
    refine ⟨ts, hlost ▸ hconveyed, fun hanswered => ?_⟩
    cases o with
    | error e => exact nomatch hanswered
    | ok r =>
      obtain ⟨r', rfl⟩ := hok r rfl
      exact hreaches b.link hagrees r' b'.link hwire ts hconveyed.went

/-- An exchange for whatever purpose goes over one connection. -/
theorem communicate_carried (purpose : Purpose) (c : Command)
    {b : Bench (Docked (Watched σ)) κ} (hagrees : b.link.Agrees) :
    ∃ events ts, b.Carried events ts (run (communicate purpose c) b).2 ∧
      ∃ n, ∀ t ∈ ts, t.connection = some n := by
  obtain ⟨o, b', hcourse, hrun⟩ := run_communicate_eq purpose c b
  obtain ⟨work, hjournal, hwork, -⟩ := hcourse.work
  obtain ⟨ts, hconveyed, hanswered⟩ := hcourse.conveyed hagrees
  obtain ⟨n, -, hone⟩ := hconveyed.one
  rw [hrun]
  refine ⟨.concluded purpose o :: (work ++ [.dispatched purpose c b.session.pins]), ts,
    ⟨?_, hconveyed.went, fun hloss => ?_, fun h => hanswered ?_⟩, n, hone⟩
  · show _ :: b'.journal = _
    rw [hjournal]
    exact congrArg _ (List.append_assoc work [_] _).symm
  · exact hconveyed.stayed ((Event.any_isLoss_exchange purpose o c _ hwork).symm.trans hloss)
  · -- Only the end of the exchange can tell of an answer.
    obtain ⟨e, he, hanswered⟩ := List.any_eq_true.mp h
    rcases List.mem_cons.mp he with rfl | he
    · exact hanswered
    · rcases List.mem_append.mp he with he | he
      · have hnone := Event.isConclusion_of_isWork (hwork e he)
        cases e with
        | concluded p o => exact nomatch hnone
        | _ => exact nomatch hanswered
      · obtain rfl := List.mem_singleton.mp he
        exact nomatch hanswered

theorem carries_communicate (purpose : Purpose) (c : Command) :
    Carries (σ := σ) (κ := κ) (communicate purpose c) := by
  intro b hagrees
  obtain ⟨events, ts, hcarried, -⟩ := communicate_carried purpose c hagrees
  exact ⟨events, ts, hcarried⟩

theorem carries_verify (cls : PinClass) (pin : Pin) :
    Carries (σ := σ) (κ := κ) (verify cls pin) := by
  refine carries_composable.bind carries_composable.session fun s => ?_
  refine carries_composable.bind (carries_communicate (.verify cls) _) fun r => ?_
  refine carries_composable.bind (carries_composable.ensure _ rfl) fun _ => ?_
  exact carries_change (Bench.quiet_update fun _ => rfl)

theorem carries_serves :
    Serves (τ := Docked (Watched σ)) (κ := κ) fun _ step => Carries step :=
  { carries_composable with
    communicate := fun purpose c _ _ _ => carries_communicate purpose c
    verify := carries_verify
    requestSignature := fun _ => carries_composable.bind carries_composable.session
      fun _ => carries_andThen (carries_communicate .sign _) fun _ => Bench.quiet_useSignature
    describe := fun _ => carries_change (Bench.quiet_update fun _ => rfl)
    useSignature := carries_change Bench.quiet_useSignature
    dropAdmin := carries_change Bench.quiet_dropAdmin }

/-! ### A bring-up -/

theorem handshake_carried (handshake : Handshake κ) {b : Bench (Docked (Watched σ)) κ}
    (hagrees : b.link.Agrees) :
    ∃ events ts, b.Carried events ts (run (handshake.run (communicate .handshake)) b).2 := by
  have hcommunicate : ∀ c, Keeps (fun b' => ∃ events ts, b.Carried events ts b')
      (communicate (κ := κ) .handshake c) := by
    rintro c b' ⟨events, ts, hcarried⟩
    obtain ⟨events', ts', hnext⟩ := carries_communicate .handshake c b' hcarried.went.agrees
    exact ⟨_, _, hcarried.trans hnext⟩
  exact keeps_handshake hcommunicate handshake b ⟨[], [], .refl hagrees⟩

omit [Service σ] [Channel κ] in
theorem carries_withoutChannel (fault : SecureMessagingFault) :
    Carries (σ := σ) (κ := κ) (withoutChannel fault) :=
  carries_composable.bind carries_composable.session fun _ => carries_composable.ensure _ rfl

theorem carries_establish : Carries (σ := σ) (κ := κ) establish := by
  refine carries_composable.bind carries_composable.session fun s => ?_
  split
  · next a provider _ _ =>
    split
    · intro b hagrees
      obtain ⟨events, ts, hcarried⟩ := handshake_carried (provider a) hagrees
      rw [run_agree]
      rcases hrun : run ((provider a).run (communicate .handshake)) b with ⟨fault | state, b'⟩
      all_goals rw [hrun] at hcarried
      · obtain ⟨events', hclear⟩ := Bench.quiet_clearChannel.carried hcarried.went.agrees
        obtain ⟨events'', ts', hwithout⟩ := carries_withoutChannel fault _ hclear.went.agrees
        exact ⟨_, _, (hcarried.trans hclear).trans hwithout⟩
      · obtain ⟨events', hinstall⟩ := (Bench.quiet_installChannel state).carried hcarried.went.agrees
        exact ⟨_, _, hcarried.trans hinstall⟩
    · exact carries_withoutChannel _
  · exact carries_withoutChannel _

omit [Channel κ] in
/-- A slot that has a connection keeps it when it is asked to connect. -/
theorem carries_openLink : Carries (σ := σ) (κ := κ) openLink := by
  refine carries_composable.bind carries_composable.link fun link => ?_
  split
  · exact carries_composable.pure ()
  · intro b hagrees
    rw [run_onLink]
    have hconnect : run Link.connect b.link = ((run Slot.connectCard b.link).1.mapError
        ReaderFault.toFault, (run Slot.connectCard b.link).2) := Link.run_asLink _ b.link
    rw [hconnect]
    refine ⟨[], [], rfl, (Slot.connectCard_went hagrees).1, fun _ => ⟨fun n hn => ?_, by simp⟩, nofun⟩
    show (run Slot.connectCard b.link).2.slot.card = some n
    rw [Slot.run_connectCard_of_some hn]
    exact hn

theorem carries_connect : Carries (σ := σ) (κ := κ) connect := by
  have hbringUp : Carries (σ := σ) (κ := κ) bringUp :=
    carries_composable.bringUp carries_composable.bind
      (fun purpose c _ => carries_communicate purpose c)
      (fun _ h => carries_change (Bench.quiet_update h)) carries_establish
  refine carries_composable.bind carries_openLink fun _ => ?_
  refine carries_composable.bind (carries_change Bench.quiet_clean) fun _ => ?_
  exact carries_andThen hbringUp Bench.quiet_afterBringUp

/-! ### Whole operations -/

/-- Whatever a session is asked for, the slot carries it. -/
theorem perform_carried (op : Operation κ) : Carries (σ := σ) op.perform := by
  have hchange : ∀ {f : Bench (Docked (Watched σ)) κ → Bench (Docked (Watched σ)) κ},
      Bench.Quiet f → Carries (change f >>= fun _ => pure Answer.done) := fun hf =>
    carries_composable.bind (carries_change hf) fun _ => carries_composable.pure _
  cases op with
  | connect => exact carries_composable.bind carries_connect fun _ => carries_composable.pure _
  | connectIfNecessary =>
    refine carries_composable.bind ?_ fun _ => carries_composable.pure _
    refine carries_composable.bind carries_composable.session fun s => ?_
    refine carries_composable.bind carries_composable.link fun link => ?_
    split
    · exact carries_composable.pure ()
    · exact carries_connect
  | installChannel state => exact hchange (Bench.quiet_installChannel state)
  | clearChannel => exact hchange Bench.quiet_clearChannel
  | teardown => exact hchange Bench.quiet_teardown
  | _ => exact carries_serves.perform rfl

end SessionM

end PgpCard
