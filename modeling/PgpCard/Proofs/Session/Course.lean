import PgpCard.Proofs.Step
import PgpCard.Session.Exchange

/-!
# `PgpCard.Proofs.Session.Course`: the course of one exchange

An exchange protects the command, sends it, and checks the answer. `Course` has one
constructor for each way in which this can go, with the bench that it leaves:

- the channel in use fails to protect the command, and nothing is sent;
- the exchange on the link fails;
- the card answers, and no channel is in use;
- the card answers, and the channel in use accepts the answer;
- the card answers, and the channel in use refuses the answer.

`run_communicate_eq` shows that every exchange takes one of these courses. Whatever is to be
said of all exchanges is then a case analysis, and the steps of an exchange need not be
opened again.
-/

set_option autoImplicit false

namespace PgpCard

open Step

namespace Bench

variable {τ κ : Type} (b : Bench τ κ)

/-- The number of the channel of the session, if it has one. -/
def channelIds : List Nat := (b.session.channel.map Installed.id).toList

@[simp] theorem session_clearChannel :
    b.clearChannel.session = { b.session with channel := none } := by
  unfold clearChannel
  cases h : b.session.channel with
  | none =>
    show b.session = _
    rw [← h]
  | some c => rfl

@[simp] theorem journal_clearChannel :
    b.clearChannel.journal = b.channelIds.map .cleared ++ b.journal := by
  unfold clearChannel channelIds
  cases b.session.channel <;> rfl

@[simp] theorem link_clearChannel : b.clearChannel.link = b.link := by
  unfold clearChannel
  cases b.session.channel <;> rfl

/-- The clearing of a channel does not count as the installing of one. -/
@[simp] theorem nextChannel_clearChannel : b.clearChannel.nextChannel = b.nextChannel := by
  have hcleared : (b.channelIds.map Event.cleared).filter Event.isInstalled = [] :=
    List.filter_eq_nil_iff.mpr (List.forall_mem_map.mpr fun _ _ => Bool.false_ne_true)
  rw [nextChannel, journal_clearChannel, List.filter_append, hcleared]
  rfl

/-- A channel is installed after the one before was cleared. -/
theorem journal_installChannel (state : κ) : (b.installChannel state).journal =
    .installed b.nextChannel :: (b.channelIds.map .cleared ++ b.journal) := by
  rw [← nextChannel_clearChannel, ← journal_clearChannel]
  rfl

theorem channelIds_installChannel (state : κ) :
    (b.installChannel state).channelIds = [b.nextChannel] := by
  rw [← nextChannel_clearChannel]
  rfl

/-- The channel is cleared on behalf of the teardown. -/
theorem journal_teardown :
    b.teardown.journal = b.channelIds.map .cleared ++ .tornDown :: b.journal :=
  journal_clearChannel (b.record .tornDown)

/-- A signature is noted with the policy at that time. -/
theorem journal_useSignature :
    b.useSignature.journal = .signatureUsed b.session.multipleSignatures :: b.journal := rfl

theorem journal_dropAdmin : b.dropAdmin.journal = .adminDropped :: b.journal := rfl

theorem session_forgetCard :
    b.forgetCard.session = { b.session.forgetToken with channel := none } := by
  rw [forgetCard, update, session_clearChannel]
  rfl

/-- The channel has moved on. -/
def advance (channel : Installed κ) (state : κ) : Bench τ κ :=
  b.update fun s => { s with channel := some { channel with state } }

/-- The bench after a command went to the link, protected or not. -/
def sent (framed : Command) (channel : Option Nat) (link : τ) : Bench τ κ :=
  { b.record (.framed framed channel) with link }

/-- What comes of a command on the link, and the link after it. -/
def onWire [Link τ] (framed : Command) : Except Error Response × τ :=
  run (Link.exchangePlain b.session.setup.commands b.session.setup.config.maxRounds
    b.session.cardOrBaseline framed) b.link

end Bench

namespace SessionM

variable {τ κ : Type} [Channel κ]

/-- A command is ready for the link. It is the command itself where no channel is in use, and
otherwise what the channel has made of it. -/
inductive Prepared (c : Command) (b : Bench τ κ) : Command → Option Nat → Bench τ κ → Prop where
  | plain (huse : b.session.channelInUse? = none) : Prepared c b c none b
  | wrapped {channel : Installed κ} {framed : Command} {state : κ}
      (huse : b.session.channelInUse? = some channel)
      (hwrap : Channel.wrap c channel.state = .ok framed state) :
      Prepared c b framed (some channel.id) ((b.record (.wrapped channel.id)).advance channel state)

/-- The ways in which the exchange of a command can go. -/
inductive Course [Link τ] (c : Command) (b : Bench τ κ) :
    Except Error Response → Bench τ κ → Prop where
  | notWrapped {channel : Installed κ} {fault : SecureMessagingFault} {state : κ}
      (huse : b.session.channelInUse? = some channel)
      (hwrap : Channel.wrap c channel.state = .error fault state) :
      Course c b (.error (.secureMessaging .wrap fault)) (b.record (.wrapped channel.id)).clearChannel
  | failed {framed : Command} {tag : Option Nat} {b₁ : Bench τ κ} {e : Error} {link : τ}
      (hprep : Prepared c b framed tag b₁) (hwire : b.onWire framed = (.error e, link)) :
      Course c b (.error e) (afterExchange (.error e) (b₁.sent framed tag link))
  | answered {framed : Command} {tag : Option Nat} {b₁ : Bench τ κ} {r : Response} {link : τ}
      (hprep : Prepared c b framed tag b₁) (hwire : b.onWire framed = (.ok r, link))
      (huse : b₁.session.channelInUse? = none) :
      Course c b (.ok r) (b₁.sent framed tag link)
  | unwrapped {framed : Command} {tag : Option Nat} {b₁ : Bench τ κ} {r r' : Response} {link : τ}
      {channel : Installed κ} {state : κ}
      (hprep : Prepared c b framed tag b₁) (hwire : b.onWire framed = (.ok r, link))
      (huse : b₁.session.channelInUse? = some channel)
      (hunwrap : Channel.unwrap r channel.state = .ok r' state) :
      Course c b (.ok r') (((b₁.sent framed tag link).record (.unwrapped channel.id)).advance
        channel state)
  | notUnwrapped {framed : Command} {tag : Option Nat} {b₁ : Bench τ κ} {r : Response} {link : τ}
      {channel : Installed κ} {fault : SecureMessagingFault} {state : κ}
      (hprep : Prepared c b framed tag b₁) (hwire : b.onWire framed = (.ok r, link))
      (huse : b₁.session.channelInUse? = some channel)
      (hunwrap : Channel.unwrap r channel.state = .error fault state) :
      Course c b (.error (.secureMessaging .unwrap fault))
        ((b₁.sent framed tag link).record (.unwrapped channel.id)).clearChannel

/-- The channel in use is the one of the session. -/
theorem channel_of_channelInUse? {s : Session κ} {channel : Installed κ}
    (h : s.channelInUse? = some channel) : s.channel = some channel :=
  (Option.filter_eq_some_iff.mp h).1

/-- A session without a channel has none in use. -/
theorem channelInUse?_of_channel_eq_none {s : Session κ} (h : s.channel = none) :
    s.channelInUse? = none := by
  rw [Session.channelInUse?, h]
  rfl

omit [Channel κ] in
theorem afterExchange_of_lost {e : Error} (h : e.lostCard = true) (b : Bench τ κ) :
    afterExchange (.error e) b = b.forgetCard := if_pos h

omit [Channel κ] in
theorem afterExchange_of_kept {e : Error} (h : e.lostCard = false) (b : Bench τ κ) :
    afterExchange (.error e) b = b := if_neg (ne_true_of_eq_false h)

omit [Channel κ] in
/-- Forgetting the card does not touch the link. -/
@[simp] theorem link_afterExchange (o : Except Error Response) (b : Bench τ κ) :
    (afterExchange o b).link = b.link := by
  cases o with
  | ok r => rfl
  | error e =>
    cases hlost : e.lostCard with
    | false => rw [afterExchange_of_kept hlost]
    | true =>
      rw [afterExchange_of_lost hlost]
      exact b.link_clearChannel

/-! ### Every exchange takes a course -/

omit [Channel κ] in
theorem run_onChannel_of_ok {α : Type} {stage : SecureMessagingStage} {channel : Installed κ}
    {work : EStateM SecureMessagingFault κ α} {a : α} {state : κ}
    (h : work channel.state = .ok a state) (b : Bench τ κ) :
    run (onChannel stage channel work) b = (.ok a, b.advance channel state) := by
  unfold run onChannel
  rw [h]
  rfl

omit [Channel κ] in
theorem run_onChannel_of_error {α : Type} {stage : SecureMessagingStage} {channel : Installed κ}
    {work : EStateM SecureMessagingFault κ α} {fault : SecureMessagingFault} {state : κ}
    (h : work channel.state = .error fault state) (b : Bench τ κ) :
    run (onChannel stage channel work) b = (.error (.secureMessaging stage fault), b.clearChannel) := by
  unfold run onChannel
  rw [h]

/-- A command is made ready, or the channel in use fails to protect it. -/
theorem protect_cases (c : Command) (b : Bench τ κ) :
    (∃ framed tag b₁, Prepared c b framed tag b₁ ∧ run (protect c) b = (.ok (framed, tag), b₁)) ∨
    ∃ channel fault state, b.session.channelInUse? = some channel ∧
      Channel.wrap c channel.state = .error fault state ∧
      run (protect c) b =
        (.error (.secureMessaging .wrap fault), (b.record (.wrapped channel.id)).clearChannel) := by
  rw [protect, run_session_bind]
  cases huse : b.session.channelInUse? with
  | none => exact Or.inl ⟨c, none, b, .plain huse, rfl⟩
  | some channel =>
    dsimp only
    rw [run_change_bind]
    cases hwrap : Channel.wrap c channel.state with
    | ok framed state =>
      refine Or.inl ⟨framed, some channel.id, _, .wrapped huse hwrap, ?_⟩
      rw [run_bind_of_ok (run_onChannel_of_ok hwrap _)]
      rfl
    | error fault state =>
      refine Or.inr ⟨channel, fault, state, rfl, hwrap, ?_⟩
      rw [run_bind_of_error (run_onChannel_of_error hwrap _)]

variable [Link τ]

/-- Making a command ready does not touch what the exchange on the link depends on. -/
theorem Prepared.onWire {c framed : Command} {tag : Option Nat} {b b₁ : Bench τ κ}
    (h : Prepared c b framed tag b₁) (d : Command) : b₁.onWire d = b.onWire d := by
  cases h <;> rfl

/-- After the exchange on the link an answer is checked, where a channel is in use. -/
theorem course_of_prepared {c framed : Command} {tag : Option Nat} {b b₁ : Bench τ κ}
    (hprep : Prepared c b framed tag b₁) :
    ∃ o b', Course c b o b' ∧
      run ((exchangeFramed framed).andThen afterExchange >>= unprotect)
        (b₁.record (.framed framed tag)) = (o, b') := by
  have hframed : run (exchangeFramed framed) (b₁.record (.framed framed tag)) =
      ((b.onWire framed).1, b₁.sent framed tag (b.onWire framed).2) := by
    rw [exchangeFramed, run_session_bind, run_onLink, ← hprep.onWire framed]
    show ((b₁.onWire framed).1.mapError id, _) = _
    cases (b₁.onWire framed).1 <;> rfl
  rcases hwire : b.onWire framed with ⟨e | r, link⟩
  · refine ⟨_, _, .failed hprep hwire, ?_⟩
    rw [run_bind, run_andThen, hframed, hwire]
  · -- The answer leaves the bench as it was, up to the link.
    rw [run_bind, run_andThen, hframed, hwire]
    show ∃ o b', Course c b o b' ∧ run (unprotect r) (b₁.sent framed tag link) = (o, b')
    rw [unprotect, run_session_bind]
    have hsession : (b₁.sent framed tag link).session = b₁.session := rfl
    rw [hsession]
    cases huse : b₁.session.channelInUse? with
    | none => exact ⟨_, _, .answered hprep hwire huse, rfl⟩
    | some channel =>
      dsimp only
      rw [run_change_bind]
      cases hunwrap : Channel.unwrap r channel.state with
      | ok r' state =>
        exact ⟨_, _, .unwrapped hprep hwire huse hunwrap, run_onChannel_of_ok hunwrap _⟩
      | error fault state =>
        exact ⟨_, _, .notUnwrapped hprep hwire huse hunwrap, run_onChannel_of_error hunwrap _⟩

theorem run_exchange_eq (c : Command) (b : Bench τ κ) :
    ∃ o b', Course c b o b' ∧ run (exchange c) b = (o, b') := by
  unfold exchange
  rcases protect_cases c b with ⟨framed, tag, b₁, hprep, hrun⟩ | ⟨_, _, _, huse, hwrap, hrun⟩
  · rw [run_bind_of_ok hrun]
    exact course_of_prepared hprep
  · rw [run_bind_of_error hrun]
    exact ⟨_, _, .notWrapped huse hwrap, rfl⟩

/-- Every exchange is announced, takes one of the courses, and has its end noted. -/
theorem run_communicate_eq (purpose : Purpose) (c : Command) (b : Bench τ κ) :
    ∃ o b', Course c (b.record (.dispatched purpose c b.session.pins)) o b' ∧
      run (communicate purpose c) b = (o, b'.record (.concluded purpose o)) := by
  obtain ⟨o, b', hcourse, hrun⟩ := run_exchange_eq c (b.record (.dispatched purpose c b.session.pins))
  refine ⟨o, b', hcourse, ?_⟩
  rw [communicate, run_change_bind, run_andThen, hrun]

/-! ### Exchanges without a channel in use -/

omit [Link τ] in
/-- Without a channel in use a command is ready as it is. -/
theorem Prepared.eq_of_plain {c framed : Command} {tag : Option Nat} {b b₁ : Bench τ κ}
    (h : Prepared c b framed tag b₁) (hplain : b.session.channelInUse? = none) :
    framed = c ∧ tag = none ∧ b₁ = b := by
  rcases h with _ | ⟨huse, -⟩
  · exact ⟨rfl, rfl, rfl⟩
  · exact nomatch hplain.symm.trans huse

/-- A course without a channel in use is that of the command itself on the link. -/
theorem Course.eq_of_plain {c : Command} {o : Except Error Response} {b b' : Bench τ κ}
    (h : Course c b o b') (hplain : b.session.channelInUse? = none) :
    ∃ link, b.onWire c = (o, link) ∧ b' = afterExchange o (b.sent c none link) := by
  cases h with
  | notWrapped huse hwrap => exact nomatch hplain.symm.trans huse
  | @failed framed tag b₁ e link hprep hwire =>
    obtain ⟨rfl, rfl, rfl⟩ := hprep.eq_of_plain hplain
    exact ⟨link, hwire, rfl⟩
  | @answered framed tag b₁ r link hprep hwire huse =>
    obtain ⟨rfl, rfl, rfl⟩ := hprep.eq_of_plain hplain
    exact ⟨link, hwire, rfl⟩
  | unwrapped hprep hwire huse hunwrap =>
    obtain ⟨rfl, rfl, rfl⟩ := hprep.eq_of_plain hplain
    exact nomatch hplain.symm.trans huse
  | notUnwrapped hprep hwire huse hunwrap =>
    obtain ⟨rfl, rfl, rfl⟩ := hprep.eq_of_plain hplain
    exact nomatch hplain.symm.trans huse

/-- An exchange without a channel in use comes to what the link brings. -/
theorem start_communicate_of_plain (purpose : Purpose) (c : Command) {b : Bench τ κ}
    (hplain : b.session.channelInUse? = none) :
    ((communicate purpose c).start b).1 = (b.onWire c).1 ∧
      ((communicate purpose c).start b).2.link = (b.onWire c).2 := by
  obtain ⟨o, b', hcourse, hrun⟩ := run_communicate_eq purpose c b
  obtain ⟨link, hwire, rfl⟩ := hcourse.eq_of_plain hplain
  have hwire : b.onWire c = (o, link) := hwire
  rw [start_eq_run, hrun, hwire]
  exact ⟨rfl, link_afterExchange o _⟩

end SessionM

end PgpCard
