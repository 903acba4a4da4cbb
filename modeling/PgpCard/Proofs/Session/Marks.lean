import PgpCard.Proofs.Session.ChannelLife
import PgpCard.Proofs.Session.Handover

/-!
# `PgpCard.Proofs.Session.Marks`: what operations note beside their exchanges

Two histories are read from the journal. A verification counts until an entry clears its class
(`verified_iff_history`), and a channel lives until an entry ends it (`channel_cleared_once`). Some
of these entries are the ends of exchanges. The others are marks: a bring-up, a signature, a
teardown and so on leave one in the journal, and it has to be there whenever the operation has had
its effect.

`Operation.marks` says which marks an operation leaves, and `step_marked` that it leaves exactly
these. So nothing clears a class or ends a channel but a mark of an operation, or an exchange that
has lost the card or the channel (`step_clears`, `step_ends`). `run_marked` follows the marks
through a run.

At the end stands what the two histories come to for somebody who asks for operations. What an
operation has cleared is verified later on only if it was verified again, and a channel that it has
ended is not the channel of the session any more.
-/

set_option autoImplicit false

namespace PgpCard

open Step SessionM

namespace Event

/-- The entry tells of what was done beside the exchanges. -/
def isMark : Event → Bool
  | .linkOpened | .installed _ | .signatureUsed _ | .adminDropped | .tornDown => true
  | _ => false

/-- What belongs to exchanges is no mark. -/
theorem isMark_of_isAmong {purposes : List Purpose} {e : Event} (h : e.isAmong purposes = true) :
    e.isMark = false := by
  cases e with
  | dispatched | concluded | framed | wrapped | unwrapped | cleared => rfl
  | _ => exact nomatch h

/-- Nor is the clearing of channels. -/
theorem filter_isMark_cleared (ids : List Nat) : (ids.map cleared).filter isMark = [] :=
  List.filter_eq_nil_iff.mpr (List.forall_mem_map.mpr fun _ _ => Bool.false_ne_true)

/-- Beside the marks it is the loss of the card that clears a class. -/
theorem clears_eq (cls : PinClass) (e : Event) :
    e.clears cls = (e.isMark && e.clears cls || e.isLoss) := by
  cases e with
  | concluded purpose o => exact clears_concluded cls purpose o
  | signatureUsed multiple => exact (Bool.or_false _).symm
  | adminDropped => exact (Bool.or_false _).symm
  | _ => rfl

/-- Beside the marks it is the end of an exchange that ends a channel. -/
theorem ends_eq (e : Event) : e.ends = (e.isMark && e.ends || e.drops) := by
  cases e <;> rfl

/-- What is true of marks and of some other entries is true of one of either. -/
theorem any_eq_of_isMark {p q : Event → Bool} (h : ∀ e, p e = (e.isMark && p e || q e))
    (events : List Event) :
    events.any p = ((events.filter isMark).any p || events.any q) := by
  rw [List.any_filter]
  induction events with
  | nil => rfl
  | cons e events ih =>
    rw [List.any_cons, List.any_cons, List.any_cons, ih]
    have he := h e
    revert he
    cases p e <;> cases e.isMark <;> cases q e <;> simp

end Event

namespace Bench

variable {τ κ : Type}

/-- From the one bench to the other these marks were left, latest first. -/
def Marked (marks : List Event) (b b' : Bench τ κ) : Prop :=
  ∃ events, b'.journal = events ++ b.journal ∧ events.filter Event.isMark = marks

variable {marks marks' : List Event} {b b' b'' : Bench τ κ}

theorem Marked.refl (b : Bench τ κ) : Marked [] b b := ⟨[], rfl, rfl⟩

theorem Marked.trans (h : Marked marks b b') (h' : Marked marks' b' b'') :
    Marked (marks' ++ marks) b b'' := by
  obtain ⟨events, hjournal, rfl⟩ := h
  obtain ⟨events', hjournal', rfl⟩ := h'
  refine ⟨events' ++ events, ?_, List.filter_append _ _⟩
  rw [hjournal', hjournal, List.append_assoc]

/-- Exchanges leave no marks. -/
theorem Wrote.marked {purposes : List Purpose} (h : Wrote (Event.isAmong purposes) b b') :
    Marked [] b b' := by
  obtain ⟨events, hjournal, hamong⟩ := h
  refine ⟨events, hjournal, List.filter_eq_nil_iff.mpr fun e he => ?_⟩
  exact ne_true_of_eq_false (Event.isMark_of_isAmong (hamong e he))

/-- A mark, and the clearing of the channel on its behalf. -/
theorem marked_of_cleared {e : Event} (he : e.isMark = true) (ids : List Nat)
    (hjournal : b'.journal = ids.map .cleared ++ e :: b.journal) : Marked [e] b b' := by
  refine ⟨ids.map .cleared ++ [e], ?_, ?_⟩
  · rw [hjournal, List.append_assoc]
    rfl
  · rw [List.filter_append, Event.filter_isMark_cleared]
    exact List.filter_cons_of_pos he

theorem marked_clearChannel (b : Bench τ κ) : Marked [] b b.clearChannel :=
  ⟨_, b.journal_clearChannel, Event.filter_isMark_cleared _⟩

theorem marked_installChannel (state : κ) (b : Bench τ κ) :
    Marked [.installed b.nextChannel] b (b.installChannel state) := by
  have hinstalled : Marked [.installed b.nextChannel] b.clearChannel (b.installChannel state) := by
    refine ⟨[.installed b.nextChannel], ?_, rfl⟩
    rw [journal_installChannel, journal_clearChannel]
    rfl
  exact b.marked_clearChannel.trans hinstalled

end Bench

/-! ### The marks of an operation -/

namespace SessionM

variable {τ κ : Type} [Link τ] [Channel κ]

/-- The marks of a bring-up that took the one bench to the other: that the link is open, and the
channel that was taken into use in the end, if one was. -/
def bringUpMarks (b b' : Bench τ κ) : List Event :=
  if (openLink.start b).1.isOk then b'.channelIds.map .installed ++ [.linkOpened] else []

end SessionM

/-- The marks of an operation that took the one bench to the other, latest first. -/
def Operation.marks {τ κ : Type} [Link τ] [Channel κ] (b b' : Bench τ κ) : Operation κ → List Event
  | .connect => bringUpMarks b b'
  | .connectIfNecessary => if b.session.isConnected b.link then [] else bringUpMarks b b'
  | .useSignature => [.signatureUsed b.session.multipleSignatures]
  | .dropAdmin => [.adminDropped]
  -- The policy is that of the card which the signature has left, if it has left one.
  | .sign _ =>
    if ((SessionM.verifyOwnPin .signature).start b).1.isOk then
      [.signatureUsed b'.session.multipleSignatures]
    else []
  | .installChannel _ => [.installed b.nextChannel]
  | .teardown => [.tornDown]
  | _ => []

namespace SessionM

open Bench

variable {τ κ : Type} [Link τ] [Channel κ]

theorem marked_communicate (purpose : Purpose) (c : Command) (b : Bench τ κ) :
    Marked [] b (run (communicate purpose c) b).2 := by
  obtain ⟨work, -, hpassed⟩ := communicate_passed purpose c b
  have hwrote : b.Wrote (Event.isAmong [purpose]) (run (communicate purpose c) b).2 :=
    ⟨_, hpassed.journal, hpassed.among⟩
  exact hwrote.marked

/-- The demand for a class is an exchange at most. -/
theorem Demanded.marked {cls : PinClass} {o : Except Error Unit} {b b' : Bench τ κ}
    (h : Demanded cls b o b') : Marked [] b b' := by
  cases h with
  | known hknown => exact .refl b
  | missing hunknown => exact .refl b
  | @asked o b' pin hunknown hrun =>
    have hexchanged := marked_communicate (.verify cls)
      (b.session.setup.commands.verify cls pin.bytes) b
    -- What the session concludes from the exchange is not noted.
    rcases verify_cases hrun with ⟨-, -, rfl⟩ | ⟨e, -, rfl⟩
    · exact hexchanged
    · exact hexchanged

theorem decipher_marked (encrypted : Bytes) (b : Bench τ κ) :
    Marked [] b (run (decipher encrypted) b).2 := by
  obtain ⟨o, b₁, hdemanded, ⟨e, rfl, hb'⟩ | ⟨rfl, hb'⟩⟩ := decipher_cases encrypted b
  all_goals rw [hb']
  · exact hdemanded.marked
  · exact hdemanded.marked.trans (marked_communicate _ _ b₁)

/-- A signature is noted if it was requested. -/
theorem sign_marked (digestInfo : Bytes) (b : Bench τ κ) :
    let b' := (run (sign digestInfo) b).2
    Marked (if ((verifyOwnPin .signature).start b).1.isOk then
      [.signatureUsed b'.session.multipleSignatures] else []) b b' := by
  intro b'
  obtain ⟨o, b₁, hrun, hdemanded, ⟨e, rfl, hb'⟩ | ⟨rfl, hb'⟩⟩ := sign_cases digestInfo b
  all_goals rw [start_eq_run, hrun, show b' = _ from hb']
  · exact hdemanded.marked
  · let b₂ := (run (communicate .sign (b₁.session.setup.commands.sign digestInfo)) b₁).2
    have hexchanged : Marked [] b₁ b₂ := marked_communicate _ _ b₁
    have hused : Marked [.signatureUsed b₂.session.multipleSignatures] b₂ b₂.useSignature :=
      ⟨[_], b₂.journal_useSignature, rfl⟩
    exact (hdemanded.marked.trans hexchanged).trans hused

/-- A bring-up that got past the opening of the link has noted so, and it has noted the channel that
it leaves. -/
theorem connect_marked (b : Bench τ κ) :
    Marked (bringUpMarks b (run connect b).2) b (run connect b).2 := by
  rw [bringUpMarks, start_eq_run, run_connect]
  obtain ⟨-, hjournal⟩ := session_openLink b
  rcases hopen : run openLink b with ⟨e | ⟨⟩, b₀⟩
  all_goals rw [hopen] at hjournal
  · exact ⟨[], hjournal, rfl⟩
  · have hopened : Marked [.linkOpened] b (clean b₀) := by
      refine marked_of_cleared rfl b₀.channelIds ?_
      rw [journal_clean, hjournal]
    have hended : Marked ((run bringUp (clean b₀)).2.channelIds.map .installed) (clean b₀)
        (run bringUp (clean b₀)).2 := by
      rcases bringUp_ends (clean b₀) (clean b₀) (clean_inProgress b₀) with
        hprogress | ⟨-, b₁, state, hprogress, heq⟩
      · rw [channelIds, hprogress.channel]
        exact hprogress.journal.marked
      · rw [heq, channelIds_installChannel]
        exact hprogress.journal.marked.trans (marked_installChannel state b₁)
    have hmarked := hopened.trans hended
    -- That a bring-up which has failed drops its descriptors is not noted.
    let b' := afterBringUp (run bringUp (clean b₀)).1 (run bringUp (clean b₀)).2
    show Marked (b'.channelIds.map .installed ++ [.linkOpened]) b b'
    unfold b'
    cases (run bringUp (clean b₀)).1 with
    | ok u => exact hmarked
    | error e => exact hmarked

/-- Only a bring-up that is necessary leaves marks. -/
theorem connectIfNecessary_marked (b : Bench τ κ) :
    Marked
      (if b.session.isConnected b.link then [] else bringUpMarks b (run connectIfNecessary b).2)
      b (run connectIfNecessary b).2 := by
  rw [connectIfNecessary, run_session_bind, run_link_bind]
  by_cases hconnected : b.session.isConnected b.link = true
  · rw [if_pos hconnected, if_pos hconnected]
    exact .refl b
  · rw [if_neg hconnected, if_neg hconnected]
    exact connect_marked b

/-- Every operation leaves its marks, and no others. -/
theorem step_marked (op : Operation κ) (b : Bench τ κ) :
    Marked (op.marks b (Operation.step b op).2) b (Operation.step b op).2 := by
  have hstep : (Operation.step b op).2 = (run op.perform b).2 :=
    congrArg Prod.snd (start_eq_run _ b)
  rw [hstep]
  -- The answer is given after everything was noted.
  have hanswered : ∀ {α : Type} (step : SessionM τ κ α) (answer : α → Answer),
      (run (step >>= fun a => pure (answer a)) b).2 = (run step b).2 :=
    fun step answer => congrArg Prod.snd (run_bind_pure step answer b)
  -- What is made of exchanges only leaves no marks.
  have hcomposable := keeps_composable (b.Marked [])
  have hcommunicate : ∀ purpose c, Keeps (b.Marked []) (communicate purpose c) :=
    fun purpose c b' hb' => hb'.trans (marked_communicate purpose c b')
  have hexchanges : ∀ {α : Type} {step : SessionM τ κ α}, Keeps (b.Marked []) step →
      ∀ answer : α → Answer, Marked [] b (run (step >>= fun a => pure (answer a)) b).2 := by
    intro α step hkeeps answer
    rw [hanswered]
    exact hkeeps b (.refl b)
  cases op with
  | connect => exact hanswered connect (fun _ => .done) ▸ connect_marked b
  | connectIfNecessary =>
    exact hanswered connectIfNecessary (fun _ => .done) ▸ connectIfNecessary_marked b
  | sign digestInfo => exact hanswered (sign digestInfo) .bytes ▸ sign_marked digestInfo b
  | verifyOwnPin cls =>
    exact hanswered (verifyOwnPin cls) (fun _ => .done) ▸ (verifyOwnPin_demanded cls b).marked
  | verifyAdmin pin =>
    exact hanswered (verifyAdmin pin) (fun _ => .done) ▸ (verifyAdmin_demanded pin b).marked
  | decipher encrypted =>
    exact hanswered (decipher encrypted) .bytes ▸ decipher_marked encrypted b
  | identify => exact hexchanges (hcomposable.identify (hcommunicate _)) .token
  | refresh =>
    exact hexchanges (hcomposable.refresh (hcommunicate _) fun _ _ hb => hb) fun _ => .done
  | communicate c => exact hexchanges (hcommunicate _ c) .response
  | url => exact hexchanges (hcomposable.url (hcommunicate _)) .text
  | holder => exact hexchanges (hcomposable.holder (hcommunicate _)) .text
  | tokenInfo => exact hexchanges (hcomposable.tokenInfo fun _ => hcommunicate _) .info
  | describe data => exact .refl b
  | useSignature => exact ⟨[_], b.journal_useSignature, rfl⟩
  | dropAdmin => exact ⟨[_], b.journal_dropAdmin, rfl⟩
  | installChannel state => exact marked_installChannel state b
  | clearChannel => exact marked_clearChannel b
  | teardown => exact marked_of_cleared rfl _ b.journal_teardown

/-- What the entries of an operation tell is told by its marks or by other entries. -/
theorem step_any {p q : Event → Bool} (hp : ∀ e, p e = (e.isMark && p e || q e))
    (op : Operation κ) (b : Bench τ κ) :
    let b' := (Operation.step b op).2
    ∃ events, b'.journal = events ++ b.journal ∧
      events.any p = ((op.marks b b').any p || events.any q) := by
  intro b'
  obtain ⟨events, hjournal, hmarks⟩ := step_marked op b
  refine ⟨events, hjournal, ?_⟩
  rw [Event.any_eq_of_isMark hp, hmarks]

/-- Nothing that an operation does clears a class, but its marks and the loss of the card. -/
theorem step_clears (op : Operation κ) (b : Bench τ κ) (cls : PinClass) :
    let b' := (Operation.step b op).2
    ∃ events, b'.journal = events ++ b.journal ∧ events.any (Event.clears cls) =
      ((op.marks b b').any (Event.clears cls) || events.any Event.isLoss) :=
  step_any (Event.clears_eq cls) op b

/-- Nothing that an operation does ends a channel, but its marks and the exchanges that cost the
session its channel. -/
theorem step_ends (op : Operation κ) (b : Bench τ κ) :
    let b' := (Operation.step b op).2
    ∃ events, b'.journal = events ++ b.journal ∧ events.any Event.ends =
      ((op.marks b b').any Event.ends || events.any Event.drops) :=
  step_any Event.ends_eq op b

end SessionM

/-! ### The marks of a run -/

/-- The marks of a list of moves, latest first. What others do to the link leaves none. -/
def Move.marks {τ κ : Type} [Link τ] [Channel κ] (b : Bench τ κ) : List (Move τ κ) → List Event
  | [] => []
  | m :: moves =>
    Move.marks (m.apply b) moves ++
      match m with
      | .asked op => op.marks b (Operation.step b op).2
      | _ => []

namespace SessionM

open Bench

variable {τ κ : Type} [Link τ] [Channel κ]

theorem run_marked (moves : List (Move τ κ)) :
    ∀ b : Bench τ κ, Marked (Move.marks b moves) b (Move.run b moves) := by
  induction moves with
  | nil => exact .refl
  | cons m moves ih =>
    intro b
    refine Marked.trans ?_ (ih (m.apply b))
    cases m with
    | asked op => exact step_marked op b
    | linkChanged link => exact .refl b
    | setupChanged setup => exact .refl b

/-- The marks in the journal of a session are those of what it was asked for. -/
theorem marks_of_run (setup : Setup κ) (pin : Option Pin) (link : τ) (moves : List (Move τ κ)) :
    let b : Bench τ κ := { session := .new setup pin, link }
    (Move.run b moves).journal.filter Event.isMark = Move.marks b moves := by
  intro b
  obtain ⟨events, hjournal, hmarks⟩ := run_marked moves b
  rw [hjournal, ← hmarks]
  exact congrArg _ (List.append_nil events)

/-- What a mark of an operation tells, the journal tells from then on. -/
theorem any_of_marks {p q : Event → Bool} (hp : ∀ e, p e = (e.isMark && p e || q e)) {b : Bench τ κ}
    {op : Operation κ} (h : (op.marks b (Operation.step b op).2).any p = true)
    (after : List (Move τ κ)) :
    ∃ events, (Move.run b (.asked op :: after)).journal = events ++ b.journal ∧
      events.any p = true := by
  obtain ⟨events, hjournal, hmarks⟩ := run_marked (.asked op :: after) b
  refine ⟨events, hjournal, ?_⟩
  rw [Event.any_eq_of_isMark hp, hmarks, Move.marks, List.any_append, h, Bool.or_true, Bool.true_or]

/-- Where an operation has cleared a class, the class is verified later on only if the card has
accepted its PIN since. -/
theorem verified_again (setup : Setup κ) (pin : Option Pin) (link : τ)
    (before after : List (Move τ κ)) (op : Operation κ) (cls : PinClass) :
    let b := Move.run { session := .new setup pin, link } before
    let b' := Move.run b (.asked op :: after)
    (op.marks b (Operation.step b op).2).any (Event.clears cls) = true →
      b'.session.pins.get cls = .verified →
      ∃ events, b'.journal = events ++ b.journal ∧ ∃ e ∈ events, e.verifies cls = true := by
  intro b b' hmarks hverified
  have hnew : Synced ({ session := .new setup pin, link } : Bench τ κ) :=
    synced_of_fresh rfl fun _ => rfl
  have hsynced : Synced b' := synced_steady.run _ _ (synced_steady.run before _ hnew)
  obtain ⟨events, hjournal, hclears⟩ := any_of_marks (Event.clears_eq cls) hmarks after
  have htold : told cls (events ++ b.journal) = .verified := by
    rw [← hjournal]
    exact (hsynced cls).symm.trans hverified
  exact ⟨events, hjournal, mem_of_told htold hclears⟩

/-- Where an operation has ended the channel, the session has one later on only if it was installed
since. -/
theorem installed_again (setup : Setup κ) (pin : Option Pin) (link : τ)
    (before after : List (Move τ κ)) (op : Operation κ) (id : Nat) :
    let b := Move.run { session := .new setup pin, link } before
    let b' := Move.run b (.asked op :: after)
    (op.marks b (Operation.step b op).2).any Event.ends = true → b'.channelId? = some id →
      ∃ events, b'.journal = events ++ b.journal ∧ .installed id ∈ events := by
  intro b b' hmarks hchannel
  have hnew : Accounted ({ session := .new setup pin, link } : Bench τ κ) := ⟨.start, rfl⟩
  have haccounted : Accounted b' := accounted_steady.run _ _ (accounted_steady.run before _ hnew)
  obtain ⟨events, hjournal, hends⟩ := any_of_marks Event.ends_eq hmarks after
  have hheld : held (events ++ b.journal) = some id := by
    rw [← hjournal]
    exact haccounted.held.trans hchannel
  exact ⟨events, hjournal, mem_of_held hheld hends⟩

end SessionM

end PgpCard
