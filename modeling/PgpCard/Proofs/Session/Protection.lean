import PgpCard.Proofs.Session.BringUp

/-!
# `PgpCard.Proofs.Session.Protection`: how long commands go out protected

A bring-up under a configuration that requires secure messaging succeeds with a channel in use
(`channel_of_connect_ok`). From then on the channel protects each command, but only as long as
it is there. An exchange that fails in secure messaging drops it, and so does one that finds the
card without its state (`Event.drops`). Nothing stops the session from going on, and without a
channel a command goes out as it is.

`Secured` says both of a journal, entry by entry: what was handed to the link before the first
drop is what the channel has made of a command, and what was handed over after it is the bare
command. It ends with the next opening of the link. `Guarded` adds what that means for the
session, and is the invariant: every operation keeps it that leaves the channel to the session
(`guarded_perform`).
-/

set_option autoImplicit false

namespace PgpCard

open Step

/-- A property of channel states that holds of established ones only, and stays with a channel
as long as its work succeeds. -/
structure Channel.Lasting {κ : Type} [Channel κ] (P : κ → Prop) : Prop where
  isEstablished : ∀ {state : κ}, P state → Channel.isEstablished state = true
  wrap : ∀ {c framed : Command} {state state' : κ}, P state →
    Channel.wrap c state = .ok framed state' → P state'
  unwrap : ∀ {r r' : Response} {state state' : κ}, P state →
    Channel.unwrap r state = .ok r' state' → P state'

/-- Every channel that the agreement can come to has the property. -/
def Handshake.Yields {κ : Type} (P : κ → Prop) : Handshake κ → Prop
  | .done (.ok state) => P state
  | .done (.error _) => True
  | .send _ next => ∀ o, (next o).Yields P

/-- Whatever the exchanges come to, so does the channel at the end. -/
theorem Handshake.Yields.of_run {κ σ : Type} {P : κ → Prop}
    {exchange : Command → EStateM Error σ Response} {handshake : Handshake κ} :
    ∀ {s s' : σ} {state : κ}, handshake.Yields P →
      Step.run (handshake.run exchange) s = (.ok state, s') → P state := by
  induction handshake with
  | done result =>
    intro s s' state h hrun
    cases result with
    | ok channel =>
      obtain rfl : channel = state := Except.ok.inj (congrArg Prod.fst hrun)
      exact h
    | error fault => exact nomatch congrArg Prod.fst hrun
  | send c next ih =>
    intro s s' state h hrun
    -- Whatever the exchange comes to, the agreement goes on from that with the property.
    rw [SessionM.run_handshake_send] at hrun
    exact ih _ (h _) hrun

open Simulator in
/-- A toy provider comes up with the channel that it was given, if with any. -/
theorem Simulator.ToyChannel.provider_yields {P : ToyChannel → Prop} {channel : ToyChannel}
    (h : P channel) (commands : List Command) (a : ApplicationData) :
    (ToyChannel.provider commands (.ok channel) a).Yields P := by
  have hagreement : ∀ commands, (ToyChannel.agreement (.ok channel) commands).Yields P := by
    intro commands
    induction commands with
    | nil => exact h
    | cons c rest ih =>
      intro o
      cases o with
      | error e => exact trivial
      | ok r =>
        show Handshake.Yields P (if r.isSuccess then _ else _)
        split
        · exact ih
        · exact trivial
  unfold ToyChannel.provider
  split
  · exact hagreement commands
  · exact trivial

namespace Event

/-- The entry tells that a bring-up has begun. -/
def isOpened : Event → Bool
  | .linkOpened => true
  | _ => false

/-- The entry is neither the beginning of a bring-up, nor a command for the link, nor the end
of an exchange. -/
def isAside : Event → Bool
  | .linkOpened | .framed _ _ | .concluded _ _ => false
  | _ => true

theorem any_isOpened_of_isAside {events : List Event} (h : ∀ e ∈ events, e.isAside = true) :
    events.any isOpened = false := by
  rw [List.any_eq_false]
  intro e he hopened
  have haside := h e he
  cases e with
  | linkOpened => exact nomatch haside
  | _ => exact nomatch hopened

theorem any_drops_of_isAside {events : List Event} (h : ∀ e ∈ events, e.isAside = true) :
    events.any drops = false := by
  rw [List.any_eq_false]
  intro e he hdrops
  have haside := h e he
  cases e with
  | concluded => exact nomatch haside
  | _ => exact nomatch hdrops

end Event

/-! ### What went to the link -/

/-- The command is what an established channel, the one of this number, has made of the command
of the exchange. -/
def Protected (κ : Type) [Channel κ] (id : Nat) (framed : Command) (tag : Option Nat)
    (earlier : List Event) : Prop :=
  ∃ purpose c pins rest, ∃ state state' : κ,
    earlier = .wrapped id :: .dispatched purpose c pins :: rest ∧ tag = some id ∧
    Channel.isEstablished state = true ∧ Channel.wrap c state = .ok framed state'

/-- The command is the command of the exchange itself. -/
def Bare (framed : Command) (tag : Option Nat) (earlier : List Event) : Prop :=
  ∃ purpose pins rest, earlier = .dispatched purpose framed pins :: rest ∧ tag = none

/-- Up to the next bring-up, what went to the link was protected before the first drop, and bare
after it. -/
def Secured (κ : Type) [Channel κ] (id : Nat) : List Event → Prop
  | [] => True
  | e :: earlier =>
    (∀ framed tag, e = .framed framed tag → earlier.any Event.isOpened = false →
      if earlier.any Event.drops then Bare framed tag earlier
      else Protected κ id framed tag earlier) ∧ Secured κ id earlier

section Journal

variable {κ : Type} [Channel κ] {id : Nat} {events : List Event}

/-- What holds of all entries holds of each. -/
theorem Secured.entry {later earlier : List Event} {framed : Command} {tag : Option Nat}
    (h : Secured κ id (later ++ .framed framed tag :: earlier))
    (hopened : earlier.any Event.isOpened = false) :
    if earlier.any Event.drops then Bare framed tag earlier
    else Protected κ id framed tag earlier := by
  induction later with
  | nil => exact h.1 framed tag rfl hopened
  | cons e later ih => exact ih h.2

theorem Secured.cons {e : Event} (he : ∀ framed tag, e ≠ .framed framed tag)
    (h : Secured κ id events) : Secured κ id (e :: events) :=
  ⟨fun framed tag heq => absurd heq (he framed tag), h⟩

theorem Secured.asides {later : List Event} (hlater : ∀ e ∈ later, e.isAside = true)
    (h : Secured κ id events) : Secured κ id (later ++ events) := by
  induction later with
  | nil => exact h
  | cons e later ih =>
    obtain ⟨he, hlater⟩ := List.forall_mem_cons.mp hlater
    refine Secured.cons ?_ (ih hlater)
    rintro framed tag rfl
    exact nomatch he

/-- After a bring-up has begun nothing is said any more. -/
theorem Secured.opened (h : Secured κ id events) (hopened : events.any Event.isOpened = true)
    (later : List Event) : Secured κ id (later ++ events) := by
  induction later with
  | nil => exact h
  | cons e later ih =>
    refine ⟨fun framed tag _ hclosed => ?_, ih⟩
    have hstill : (later ++ events).any Event.isOpened = true := by
      rw [List.any_append, hopened, Bool.or_true]
    exact absurd hstill (ne_true_of_eq_false hclosed)

/-- The entries are secured, and the session has the channel of this number in use as long as no
exchange has cost it that, and none afterwards. -/
structure Guarded (P : κ → Prop) (id : Nat) (events : List Event) (s : Session κ) : Prop where
  secured : Secured κ id events
  channel : events.any Event.isOpened = false →
    if events.any Event.drops then s.channel = none
    else ∃ state, s.channel = some ⟨id, state⟩ ∧ P state

variable {P : κ → Prop} {s s' : Session κ}

/-- What is noted aside changes nothing. -/
theorem Guarded.asides (h : Guarded P id events s) {later : List Event}
    (hlater : ∀ e ∈ later, e.isAside = true) (hchannel : s'.channel = s.channel) :
    Guarded P id (later ++ events) s' := by
  refine ⟨h.secured.asides hlater, ?_⟩
  -- Neither an opening nor a drop is among the new entries, so the old ones decide.
  rw [List.any_append, List.any_append, Event.any_isOpened_of_isAside hlater,
    Event.any_drops_of_isAside hlater, Bool.false_or, Bool.false_or, hchannel]
  exact h.channel

/-- After a bring-up has begun the session may be in any state. -/
theorem Guarded.opened (h : Secured κ id events) (hopened : events.any Event.isOpened = true)
    (later : List Event) (s : Session κ) : Guarded P id (later ++ events) s := by
  refine ⟨h.opened hopened later, fun hclosed => ?_⟩
  rw [List.any_append, hopened, Bool.or_true] at hclosed
  exact nomatch hclosed

/-- The end of an exchange can cost the session its channel. -/
theorem Guarded.concluded (hsecured : Secured κ id events) (purpose : Purpose)
    {o : Except Error Response}
    (hchannel : if Outcome.dropsChannel o || events.any Event.drops then s.channel = none
      else ∃ state, s.channel = some ⟨id, state⟩ ∧ P state) :
    Guarded P id (.concluded purpose o :: events) s :=
  ⟨hsecured.cons nofun, fun _ => hchannel⟩

/-- The entries that came after `start` are guarded. -/
def GuardedSince (P : κ → Prop) (id : Nat) (start : List Event) (s : Session κ)
    (journal : List Event) : Prop :=
  ∃ events, journal = events ++ start ∧ Guarded P id events s

variable {start journal : List Event}

/-- A change of anything but the channel. -/
theorem GuardedSince.elsewhere (h : GuardedSince P id start s journal)
    (hchannel : s'.channel = s.channel) : GuardedSince P id start s' journal := by
  obtain ⟨events, hjournal, hguarded⟩ := h
  exact ⟨events, hjournal, hguarded.asides (List.forall_mem_nil _) hchannel⟩

/-- A change of anything but the channel that is noted aside. -/
theorem GuardedSince.noted (h : GuardedSince P id start s journal)
    (e : Event) (he : e.isAside = true) (hchannel : s'.channel = s.channel) :
    GuardedSince P id start s' (e :: journal) := by
  obtain ⟨events, hjournal, hguarded⟩ := h
  refine ⟨e :: events, congrArg _ hjournal, ?_⟩
  exact hguarded.asides (List.forall_mem_singleton.mpr he) hchannel

end Journal

/-! ### The course of an exchange -/

namespace SessionM

variable {τ κ : Type} [Link τ] [Channel κ]

/-- Without a channel the command itself goes out, and no channel appears. -/
theorem Course.bare {c : Command} {o : Except Error Response} {b b' : Bench τ κ}
    (h : Course c b o b') (hnone : b.session.channel = none) :
    b'.session.channel = none ∧ b'.journal = .framed c none :: b.journal := by
  obtain ⟨link, -, rfl⟩ := h.eq_of_plain (channelInUse?_of_channel_eq_none hnone)
  cases o with
  | ok r => exact ⟨hnone, rfl⟩
  | error e =>
    cases hlost : e.lostCard with
    | false =>
      rw [afterExchange_of_kept hlost]
      exact ⟨hnone, rfl⟩
    | true =>
      -- There is no channel to clear, so a forgotten card leaves no entry of its own.
      have hclear : (b.sent c none link).clearChannel = b.sent c none link :=
        clearChannel_of_channel_eq_none hnone
      rw [afterExchange_of_lost hlost, Bench.forgetCard, hclear]
      exact ⟨hnone, rfl⟩

/-- The channel after an exchange that ended like this. -/
def Carried (P : κ → Prop) (id : Nat) (o : Except Error Response) (b' : Bench τ κ) : Prop :=
  if Outcome.dropsChannel o then b'.session.channel = none
  else ∃ state, b'.session.channel = some ⟨id, state⟩ ∧ P state

omit [Link τ] in
/-- A channel that is established is in use. -/
theorem channelInUse?_of_lasting {P : κ → Prop} (hlasting : Channel.Lasting P) {s : Session κ}
    {id : Nat} {state : κ} (hchannel : s.channel = some ⟨id, state⟩) (hstate : P state) :
    s.channelInUse? = some ⟨id, state⟩ := by
  rw [Session.channelInUse?, hchannel]
  exact if_pos (hlasting.isEstablished hstate)

omit [Link τ] [Channel κ] in
theorem journal_clearChannel_of_channel {b : Bench τ κ} {id : Nat} {state : κ}
    (hchannel : b.session.channel = some ⟨id, state⟩) :
    b.clearChannel.journal = .cleared id :: b.journal := by
  rw [Bench.journal_clearChannel, Bench.channelIds, hchannel]
  rfl

omit [Link τ] in
/-- What a lasting channel has made ready is protected, and the channel still lasts. -/
theorem Prepared.held {P : κ → Prop} (hlasting : Channel.Lasting P) {c framed : Command}
    {tag : Option Nat} {b b₁ : Bench τ κ} (h : Prepared c b framed tag b₁) {id : Nat} {state : κ}
    (hchannel : b.session.channel = some ⟨id, state⟩) (hstate : P state) :
    tag = some id ∧ b₁.journal = .wrapped id :: b.journal ∧ ∃ state',
      Channel.wrap c state = .ok framed state' ∧ b₁.session.channel = some ⟨id, state'⟩ ∧
      P state' := by
  have huse := channelInUse?_of_lasting hlasting hchannel hstate
  cases h with
  | plain hplain => exact nomatch hplain.symm.trans huse
  | @wrapped channel _ state' huse' hwrap =>
    obtain rfl : channel = ⟨id, state⟩ := Option.some.inj (huse'.symm.trans huse)
    exact ⟨rfl, rfl, state', hwrap, rfl, hlasting.wrap hstate hwrap⟩

/-- With a channel that lasts nothing goes out, or what the channel has made of the command. -/
theorem Course.held {P : κ → Prop} (hlasting : Channel.Lasting P) {c : Command}
    {o : Except Error Response} {b b' : Bench τ κ} (h : Course c b o b') {id : Nat} {state : κ}
    (hchannel : b.session.channel = some ⟨id, state⟩) (hstate : P state) :
    Carried P id o b' ∧
    ((∃ later, b'.journal = later ++ b.journal ∧ ∀ e ∈ later, e.isAside = true) ∨
      ∃ later framed state', Channel.wrap c state = .ok framed state' ∧
        b'.journal = later ++ .framed framed (some id) :: .wrapped id :: b.journal ∧
        ∀ e ∈ later, e.isAside = true) := by
  have huse := channelInUse?_of_lasting hlasting hchannel hstate
  cases h with
  | @notWrapped channel fault state' huse' hwrap =>
    -- Nothing was handed over.
    obtain rfl : channel = ⟨id, state⟩ := Option.some.inj (huse'.symm.trans huse)
    refine ⟨congrArg Session.channel (Bench.session_clearChannel _),
      Or.inl ⟨[.cleared id, .wrapped id], ?_, by simp [Event.isAside]⟩⟩
    rw [journal_clearChannel_of_channel (b := b.record (.wrapped id)) hchannel]
    rfl
  | @failed framed tag b₁ e link hprep hwire =>
    obtain ⟨rfl, hjournal, state', hwrap, hchannel', hstate'⟩ := hprep.held hlasting hchannel hstate
    rw [Carried, Outcome.dropsChannel_eq_lost (wire_outside hwire)]
    show (if e.lostCard then _ else _) ∧ _
    cases hlost : e.lostCard with
    | false =>
      rw [afterExchange_of_kept hlost]
      refine ⟨⟨state', hchannel', hstate'⟩, Or.inr ⟨[], framed, state', hwrap, ?_, nofun⟩⟩
      exact congrArg _ hjournal
    | true =>
      rw [afterExchange_of_lost hlost]
      refine ⟨congrArg Session.channel (Bench.session_clearChannel (b₁.sent framed (some id) link)),
        Or.inr ⟨[.cleared id], framed, state', hwrap, ?_, by simp [Event.isAside]⟩⟩
      show (b₁.sent framed (some id) link).clearChannel.journal = _
      rw [journal_clearChannel_of_channel (b := b₁.sent framed (some id) link) hchannel', ← hjournal]
      rfl
  | @answered framed tag b₁ r link hprep hwire huse₁ =>
    -- The channel is still in use after its work, so no answer goes past it.
    obtain ⟨-, -, state', -, hchannel', hstate'⟩ := hprep.held hlasting hchannel hstate
    exact nomatch huse₁.symm.trans (channelInUse?_of_lasting hlasting hchannel' hstate')
  | @unwrapped framed tag b₁ r r' link channel state₂ hprep hwire huse₁ hunwrap =>
    obtain ⟨rfl, hjournal, state', hwrap, hchannel', hstate'⟩ := hprep.held hlasting hchannel hstate
    obtain rfl : channel = ⟨id, state'⟩ :=
      Option.some.inj (huse₁.symm.trans (channelInUse?_of_lasting hlasting hchannel' hstate'))
    refine ⟨⟨state₂, rfl, hlasting.unwrap hstate' hunwrap⟩,
      Or.inr ⟨[.unwrapped id], framed, state', hwrap, ?_, by simp [Event.isAside]⟩⟩
    rw [← hjournal]
    rfl
  | @notUnwrapped framed tag b₁ r link channel fault state₂ hprep hwire huse₁ hunwrap =>
    obtain ⟨rfl, hjournal, state', hwrap, hchannel', hstate'⟩ := hprep.held hlasting hchannel hstate
    obtain rfl : channel = ⟨id, state'⟩ :=
      Option.some.inj (huse₁.symm.trans (channelInUse?_of_lasting hlasting hchannel' hstate'))
    refine ⟨congrArg Session.channel (Bench.session_clearChannel _),
      Or.inr ⟨[.cleared id, .unwrapped id], framed, state', hwrap, ?_, by simp [Event.isAside]⟩⟩
    have hcleared := journal_clearChannel_of_channel
      (b := (b₁.sent framed (some id) link).record (.unwrapped id)) hchannel'
    rw [hcleared, ← hjournal]
    rfl

/-! ### The steps of a session -/

variable {P : κ → Prop} {id : Nat} {start : List Event}

/-- What went to the link in an exchange is secured, and only the end of the exchange decides
about the channel. -/
theorem Course.secured (hlasting : Channel.Lasting P) {purpose : Purpose} {c : Command}
    {pins : PinStates} {o : Except Error Response} {b b' : Bench τ κ} (h : Course c b o b')
    {events : List Event} (hjournal : b.journal = .dispatched purpose c pins :: events ++ start)
    (hguarded : Guarded P id events b.session) (hopened : events.any Event.isOpened = false) :
    ∃ work, b'.journal = work ++ start ∧ Secured κ id work ∧
      if Outcome.dropsChannel o || work.any Event.drops then b'.session.channel = none
      else ∃ state, b'.session.channel = some ⟨id, state⟩ ∧ P state := by
  have hsecured : Secured κ id (.dispatched purpose c pins :: events) := hguarded.secured.cons nofun
  have hchannel := hguarded.channel hopened
  cases hdrops : events.any Event.drops with
  | true =>
    -- The channel is gone already.
    rw [hdrops] at hchannel
    obtain ⟨hnone, hframed⟩ := h.bare hchannel
    refine ⟨.framed c none :: .dispatched purpose c pins :: events, ?_, ⟨?_, hsecured⟩, ?_⟩
    · rw [hframed, hjournal]
      rfl
    · rintro framed tag ⟨⟩ -
      rw [if_pos (show (Event.dispatched purpose c pins :: events).any Event.drops = true from hdrops)]
      exact ⟨purpose, pins, events, rfl, rfl⟩
    · show if Outcome.dropsChannel o || events.any Event.drops then _ else _
      rw [hdrops, Bool.or_true]
      exact hnone
  | false =>
    rw [hdrops] at hchannel
    obtain ⟨state, hstate, hP⟩ := hchannel
    obtain ⟨hcarried, hwork⟩ := h.held hlasting hstate hP
    -- No earlier exchange has dropped the channel, so the end of this one decides.
    have hdecides : ∀ work : List Event, work.any Event.drops = false →
        if Outcome.dropsChannel o || work.any Event.drops then b'.session.channel = none
        else ∃ state, b'.session.channel = some ⟨id, state⟩ ∧ P state := by
      intro work hwork
      rw [hwork, Bool.or_false]
      exact hcarried
    rcases hwork with ⟨later, hlater, haside⟩ | ⟨later, framed, state', hwrap, hlater, haside⟩
    · -- The channel has failed to protect the command, which was not sent.
      refine ⟨later ++ .dispatched purpose c pins :: events, ?_, hsecured.asides haside,
        hdecides _ ?_⟩
      · rw [hlater, hjournal, List.append_assoc]
      · rw [List.any_append, Event.any_drops_of_isAside haside]
        exact hdrops
    · refine ⟨later ++ .framed framed (some id) :: .wrapped id :: .dispatched purpose c pins ::
        events, ?_, Secured.asides haside ⟨?_, hsecured.cons nofun⟩, hdecides _ ?_⟩
      · rw [hlater, hjournal, List.append_assoc]
        rfl
      · rintro framed tag ⟨⟩ -
        rw [if_neg (show ¬(Event.wrapped id :: .dispatched purpose c pins :: events).any
          Event.drops = true from ne_true_of_eq_false hdrops)]
        exact ⟨purpose, c, pins, events, state, state', rfl, rfl, hlasting.isEstablished hP, hwrap⟩
      · rw [List.any_append, Event.any_drops_of_isAside haside]
        exact hdrops

/-- Every exchange keeps what is guarded. -/
theorem guarded_communicate (hlasting : Channel.Lasting P) (purpose : Purpose) (c : Command) :
    Keeps (fun b : Bench τ κ => GuardedSince P id start b.session b.journal)
      (communicate purpose c) := by
  rintro b ⟨events, hjournal, hguarded⟩
  obtain ⟨o, b', hcourse, hrun⟩ := run_communicate_eq purpose c b
  rw [hrun]
  have hdispatched : (b.record (.dispatched purpose c b.session.pins)).journal =
      .dispatched purpose c b.session.pins :: events ++ start := congrArg _ hjournal
  cases hopened : events.any Event.isOpened with
  | true =>
    -- Another bring-up has begun.
    obtain ⟨work, hwork, -, -⟩ := hcourse.work
    refine ⟨.concluded purpose o :: (work ++ [.dispatched purpose c b.session.pins]) ++ events, ?_,
      Guarded.opened hguarded.secured hopened _ _⟩
    show _ :: b'.journal = _
    rw [hwork, hdispatched]
    simp
  | false =>
    obtain ⟨work, hwork, hsecured, hchannel⟩ :=
      hcourse.secured hlasting hdispatched hguarded hopened
    exact ⟨.concluded purpose o :: work, congrArg _ hwork, Guarded.concluded hsecured purpose hchannel⟩

theorem guarded_verify (hlasting : Channel.Lasting P) (cls : PinClass) (pin : Pin) :
    Keeps (fun b : Bench τ κ => GuardedSince P id start b.session b.journal) (verify cls pin) :=
  keeps_verify (guarded_communicate hlasting (.verify cls))
    (fun _ hb => GuardedSince.elsewhere hb rfl) pin

omit [Link τ] in
theorem guarded_useSignature {b : Bench τ κ} (h : GuardedSince P id start b.session b.journal) :
    GuardedSince P id start b.useSignature.session b.useSignature.journal :=
  h.noted (.signatureUsed _) rfl rfl

theorem guarded_requestSignature (hlasting : Channel.Lasting P) (digestInfo : Bytes) :
    Keeps (fun b : Bench τ κ => GuardedSince P id start b.session b.journal)
      (requestSignature digestInfo) :=
  keeps_requestSignature (guarded_communicate hlasting .sign) (fun _ => guarded_useSignature)
    digestInfo

theorem guarded_serves (hlasting : Channel.Lasting P) :
    Serves (τ := τ) (κ := κ) fun _ step =>
      Keeps (fun b => GuardedSince P id start b.session b.journal) step :=
  { keeps_composable _ with
    communicate := fun purpose c _ _ _ => guarded_communicate hlasting purpose c
    verify := guarded_verify hlasting
    requestSignature := guarded_requestSignature hlasting
    describe := fun _ _ hb => GuardedSince.elsewhere hb rfl
    useSignature := fun _ => guarded_useSignature
    dropAdmin := fun _ hb => GuardedSince.noted hb .adminDropped rfl rfl }

/-- A bring-up notes what it does behind what is there. -/
theorem journal_bringUp (b : Bench τ κ) :
    ∃ later, (afterBringUp (run bringUp (clean b)).1 (run bringUp (clean b)).2).journal =
      later ++ (clean b).journal := by
  have hafter : (afterBringUp (run bringUp (clean b)).1 (run bringUp (clean b)).2).journal =
      (run bringUp (clean b)).2.journal := by
    cases (run bringUp (clean b)).1 <;> rfl
  rw [hafter]
  rcases bringUp_ends (clean b) (clean b) (clean_inProgress b) with
    hprogress | ⟨-, b₁, state, hprogress, heq⟩
  · obtain ⟨later, hlater, -⟩ := hprogress.journal
    exact ⟨later, hlater⟩
  · obtain ⟨later, hlater, -⟩ := hprogress.journal
    rw [heq, Bench.installChannel, clearChannel_of_channel_eq_none hprogress.channel]
    exact ⟨.installed b₁.nextChannel :: later, congrArg _ hlater⟩

/-- A bring-up ends what is guarded, or it does not get past the opening of the link. -/
theorem guarded_connect :
    Keeps (fun b : Bench τ κ => GuardedSince P id start b.session b.journal) connect := by
  rintro b ⟨events, hjournal, hguarded⟩
  obtain ⟨hsession, hopened⟩ := session_openLink b
  rw [run_connect]
  rcases hopen : run openLink b with ⟨e | ⟨⟩, b₀⟩
  all_goals rw [hopen] at hsession hopened
  · refine ⟨events, hopened.trans hjournal, ?_⟩
    show Guarded P id events b₀.session
    rw [hsession]
    exact hguarded
  · obtain ⟨later, hlater⟩ := journal_bringUp b₀
    refine ⟨later ++ b₀.channelIds.map .cleared ++ .linkOpened :: events, ?_,
      Guarded.opened (hguarded.secured.cons (e := .linkOpened) nofun) rfl _ _⟩
    show (afterBringUp _ _).journal = _
    rw [hlater, journal_clean, hopened, hjournal]
    simp

end SessionM

/-- The operation leaves the channel to the session. -/
def Operation.leavesChannel {κ : Type} : Operation κ → Bool
  | .installChannel _ | .clearChannel | .teardown => false
  | _ => true

namespace SessionM

variable {τ κ : Type} [Link τ] [Channel κ] {P : κ → Prop} {id : Nat} {start : List Event}

/-- Every operation that leaves the channel to the session keeps what is guarded. -/
theorem guarded_perform (hlasting : Channel.Lasting P) {op : Operation κ}
    (hop : op.leavesChannel = true) :
    Keeps (fun b : Bench τ κ => GuardedSince P id start b.session b.journal) op.perform := by
  cases op with
  | connect => exact guarded_connect.bind fun _ => .pure _
  | connectIfNecessary =>
    refine Keeps.bind (fun b hb => ?_) fun _ => .pure _
    rw [connectIfNecessary, run_session_bind, run_link_bind]
    split
    · exact hb
    · exact guarded_connect b hb
  | installChannel | clearChannel | teardown => cases hop
  | _ => exact (guarded_serves hlasting).perform rfl

/-! ### The bring-up -/

theorem keeps_setup (setup : Setup κ) (purpose : Purpose) (c : Command) :
    Keeps (fun b : Bench τ κ => b.session.setup = setup) (communicate purpose c) := by
  intro b hb
  obtain ⟨o, b', hexchanged, hrun⟩ := run_communicate purpose c b
  rw [hrun]
  exact hexchanged.setup_and_pin.1.trans hb

/-- The session has a channel in which the property holds. -/
def Channelled (P : κ → Prop) (b : Bench τ κ) : Prop :=
  ∃ id state, b.session.channel = some ⟨id, state⟩ ∧ P state

/-- The step has succeeded with a channel, or it has not succeeded. -/
def EndsChannelled (P : κ → Prop) (o : Except Error Unit) (b : Bench τ κ) : Prop :=
  o = .ok () → Channelled P b

/-- Without a channel an agreement does not succeed where one is required. -/
theorem agree_channelled {handshake : Handshake κ} (hyields : handshake.Yields P) {b b' : Bench τ κ}
    (hrequire : b.session.setup.config.require = true)
    (h : run (agree handshake) b = (.ok (), b')) : Channelled P b' := by
  obtain ⟨events, hpassed⟩ := handshake_passed handshake b
  rw [run_agree] at h
  rcases hrun : run (handshake.run (communicate .handshake)) b with ⟨fault | state, b₁⟩
  all_goals rw [hrun] at h hpassed
  · -- The provider has no channel to offer, which is an error here.
    have hsetup : b₁.clearChannel.session.setup = b.session.setup := by
      rw [Bench.session_clearChannel]
      show b₁.session.setup = _
      rw [hpassed.session]
      cases events.any Event.isLoss <;> rfl
    dsimp only at h
    rw [run_withoutChannel, hsetup, hrequire] at h
    exact nomatch h
  · obtain rfl : b₁.installChannel state = b' := congrArg Prod.snd h
    exact ⟨_, state, rfl, hyields.of_run hrun⟩

theorem establish_channelled {b b' : Bench τ κ} (hrequire : b.session.setup.config.require = true)
    (hyields : ∀ provider a, b.session.setup.provider = some provider → (provider a).Yields P)
    (h : run establish b = (.ok (), b')) : Channelled P b' := by
  rcases establish_cases b with ⟨a, provider, -, hprovider, -, hrun⟩ | ⟨hrun, -⟩
  all_goals rw [hrun] at h
  · exact agree_channelled (hyields provider a hprovider) hrequire h
  · rw [run_withoutChannel, hrequire] at h
    exact nomatch h

/-- The stages before the key agreement keep the setup, and the agreement is the last of them. -/
theorem bringUp_channelled {setup : Setup κ} (hrequire : setup.config.require = true)
    (hyields : ∀ provider a, setup.provider = some provider → (provider a).Yields P) :
    Ensures (fun b : Bench τ κ => b.session.setup = setup) bringUp (EndsChannelled P) := by
  have hstop : ∀ (e : Error) (b : Bench τ κ), b.session.setup = setup →
      EndsChannelled P (.error e) b := fun _ _ _ h => nomatch h
  have hcomposable := keeps_composable fun b : Bench τ κ => b.session.setup = setup
  have hidentify := hcomposable.identify fun c => keeps_setup setup .probe c
  have hrefresh := hcomposable.refresh (fun c => keeps_setup setup (.read .applicationData) c)
    fun _ _ hb => hb
  unfold bringUp
  refine Ensures.bind hidentify (fun t b hb => ?_) hstop
  rw [run_change_bind, run_session_bind]
  have hb' : (b.update fun s => { s with tokenType := some t }).session.setup = setup := hb
  refine Ensures.bind (keeps_setup setup .select _) (fun r => ?_) hstop _ hb'
  refine Ensures.bind (Keeps.ensure _ _) (fun _ => ?_) hstop
  refine Ensures.bind hrefresh (fun _ b hb => ?_) hstop
  rw [run_change_bind]
  -- What is left is the agreement, on a session that still has its setup.
  subst hb
  intro hok
  exact establish_channelled (b := b.update fun s => { s with pins := .fresh }) hrequire hyields
    (Prod.ext hok rfl)

/-- A bring-up that must not go on without a channel succeeds with one of the provider. -/
theorem channel_of_connect_ok {b b' : Bench τ κ} (h : run connect b = (.ok (), b'))
    (hrequire : b.session.setup.config.require = true)
    (hyields : ∀ provider a, b.session.setup.provider = some provider → (provider a).Yields P) :
    Channelled P b' := by
  have hsession := (session_openLink b).1
  rw [run_connect] at h
  rcases hopen : run openLink b with ⟨e | ⟨⟩, b₀⟩
  all_goals rw [hopen] at h hsession
  · exact nomatch h
  · have hbringUp : (run bringUp (clean b₀)).1 = .ok () := congrArg Prod.fst h
    have hsetup : (clean b₀).session.setup = b.session.setup := by
      rw [← hsession]
      show (b₀.record .linkOpened).clearChannel.session.setup = _
      rw [Bench.session_clearChannel]
      rfl
    have hchannelled := bringUp_channelled hrequire hyields (clean b₀) hsetup hbringUp
    have hafter : afterBringUp (run bringUp (clean b₀)).1 (run bringUp (clean b₀)).2 = b' :=
      congrArg Prod.snd h
    rw [hbringUp] at hafter
    rw [← hafter]
    exact hchannelled

end SessionM

end PgpCard
