import PgpCard.Proofs.Session.BringUp
import PgpCard.Proofs.Session.Run
import PgpCard.Simulator.ScriptedLink
import PgpCard.Simulator.ToyChannel

/-!
# `PgpCard.Proofs.Session.ChannelLife`: a channel from its installing to its clearing

A channel is dropped on many paths: another one takes its place, it fails at its own work, the
card is lost, a bring-up begins, or the session is told to drop it. Some paths are taken inside
of others, as when the card is lost in a key agreement in a bring-up. Each of them has to wipe
the keys, and once.

`Storied` is the law of the journal about channels. Only the current channel is asked to work or
is cleared, and one is installed only when there is none, under the number that is next. The
journal of a session keeps this law with the channel that the session has (`Accounted`). So the
entries about one channel are its installing, then its uses, and then its clearing if it is not
the current one any more (`Storied.life`).

`held` reads from the journal whether the latest channel has survived what came after it. It is
the channel that the session has, so an entry that ends a channel finds it cleared. Which operations
leave such an entry is said in `PgpCard.Proofs.Session.Marks`.
-/

set_option autoImplicit false

namespace PgpCard

open Step

namespace Event

/-- The number of the channel that the entry is about. -/
def channel? : Event → Option Nat
  | .installed id | .wrapped id | .unwrapped id | .cleared id => some id
  | _ => none

/-- Whatever channel there was before, it is not in use any more after this: a bring-up began,
the session was torn down, an exchange has cost it the channel, or another one was installed. -/
def ends : Event → Bool
  | .linkOpened | .tornDown | .installed _ => true
  | .concluded _ o => Outcome.dropsChannel o
  | _ => false

/-- The entry tells that the channel of this number was put to work. -/
def Uses (id : Nat) (e : Event) : Prop := e = .wrapped id ∨ e = .unwrapped id

end Event

/-! ### The law of the journal -/

/-- How many channels have been installed. -/
def installs (journal : List Event) : Nat := (journal.filter Event.isInstalled).length

/-- The entries, latest first, are about the current channel only. -/
inductive Storied : List Event → Option Nat → Prop where
  | start : Storied [] none
  | aside {e : Event} {journal : List Event} {current : Option Nat} (he : e.channel? = none)
      (h : Storied journal current) : Storied (e :: journal) current
  | used {e : Event} {journal : List Event} {id : Nat} (he : e.Uses id)
      (h : Storied journal (some id)) : Storied (e :: journal) (some id)
  | cleared {journal : List Event} {id : Nat} (h : Storied journal (some id)) :
      Storied (.cleared id :: journal) none
  | installed {journal : List Event} (h : Storied journal none) :
      Storied (.installed (installs journal) :: journal) (some (installs journal))

/-- The entries about one channel. -/
def about (id : Nat) (journal : List Event) : List Event :=
  journal.filter fun e => e.channel? == some id

/-- A channel is installed, then used any number of times, and then cleared once unless it is
still the current one. -/
def Life (id : Nat) (current : Option Nat) (entries : List Event) : Prop :=
  ∃ uses, (∀ e ∈ uses, e.Uses id) ∧
    ((current = some id ∧ entries = uses ++ [.installed id]) ∨
      (current ≠ some id ∧ entries = .cleared id :: (uses ++ [.installed id])))

section Law

variable {journal entries : List Event} {current current' : Option Nat} {id : Nat} {e : Event}

theorem about_cons_self (h : e.channel? = some id) (journal : List Event) :
    about id (e :: journal) = e :: about id journal :=
  List.filter_cons_of_pos (by simp [h])

theorem about_cons_of_ne (h : e.channel? ≠ some id) (journal : List Event) :
    about id (e :: journal) = about id journal :=
  List.filter_cons_of_neg (by simp [h])

theorem installs_cons (h : e.isInstalled = false) (journal : List Event) :
    installs (e :: journal) = installs journal := by
  rw [installs, installs, List.filter_cons_of_neg (by simp [h])]

/-- What happens to other channels is not part of the life of this one. -/
theorem Life.elsewhere (h : Life id current entries)
    (hid : current = some id ↔ current' = some id) : Life id current' entries := by
  obtain ⟨uses, huses, hlife⟩ := h
  rw [hid, ne_eq, hid] at hlife
  exact ⟨uses, huses, hlife⟩

/-- The current channel has not been cleared. -/
theorem Life.of_current (h : Life id (some id) entries) :
    ∃ uses, (∀ e ∈ uses, e.Uses id) ∧ entries = uses ++ [.installed id] := by
  obtain ⟨uses, huses, ⟨-, hentries⟩ | ⟨hcurrent, -⟩⟩ := h
  · exact ⟨uses, huses, hentries⟩
  · exact absurd rfl hcurrent

theorem Life.used (h : Life id (some id) entries) (he : e.Uses id) :
    Life id (some id) (e :: entries) := by
  obtain ⟨uses, huses, rfl⟩ := h.of_current
  exact ⟨e :: uses, List.forall_mem_cons.mpr ⟨he, huses⟩, Or.inl ⟨rfl, rfl⟩⟩

theorem Life.cleared (h : Life id (some id) entries) : Life id none (.cleared id :: entries) := by
  obtain ⟨uses, huses, rfl⟩ := h.of_current
  exact ⟨uses, huses, Or.inr ⟨nofun, rfl⟩⟩

theorem mem_of_about_any (h : (about id journal).any Event.isInstalled = true) :
    .installed id ∈ journal := by
  obtain ⟨e, he, hinstalled⟩ := List.any_eq_true.mp h
  obtain ⟨hmem, hchannel⟩ := List.mem_filter.mp he
  cases e with
  | installed id' =>
    obtain rfl : id' = id := by simpa [Event.channel?] using hchannel
    exact hmem
  | _ => exact nomatch hinstalled

/-- Each channel that was installed has such a life, and of no other number there is anything in
the journal. -/
theorem Storied.life (h : Storied journal current) (id : Nat) :
    (id < installs journal → Life id current (about id journal)) ∧
      (installs journal ≤ id → about id journal = [] ∧ current ≠ some id) := by
  induction h with
  | start => exact ⟨nofun, fun _ => ⟨rfl, nofun⟩⟩
  | @aside e journal current he h ih =>
    have hinstalled : e.isInstalled = false := by
      cases e with
      | installed => exact nomatch he
      | _ => rfl
    rw [about_cons_of_ne (by simp [he]), installs_cons hinstalled]
    exact ih
  | @used e journal id₀ he h ih =>
    obtain ⟨hchannel, hinstalled⟩ : e.channel? = some id₀ ∧ e.isInstalled = false := by
      rcases he with rfl | rfl <;> exact ⟨rfl, rfl⟩
    rw [installs_cons hinstalled]
    by_cases hid : id₀ = id
    · subst hid
      rw [about_cons_self hchannel]
      exact ⟨fun hlt => (ih.1 hlt).used he, fun hle => absurd rfl (ih.2 hle).2⟩
    · rw [about_cons_of_ne (by simpa [hchannel] using hid)]
      exact ih
  | @cleared journal id₀ h ih =>
    rw [installs_cons rfl]
    by_cases hid : id₀ = id
    · subst hid
      rw [about_cons_self rfl]
      exact ⟨fun hlt => (ih.1 hlt).cleared, fun hle => absurd rfl (ih.2 hle).2⟩
    · rw [about_cons_of_ne (by simpa [Event.channel?] using hid)]
      exact ⟨fun hlt => (ih.1 hlt).elsewhere (by simp [hid]), fun hle => ⟨(ih.2 hle).1, nofun⟩⟩
  | @installed journal h ih =>
    have hinstalls : installs (.installed (installs journal) :: journal) = installs journal + 1 :=
      rfl
    rw [hinstalls]
    rcases Nat.lt_trichotomy id (installs journal) with hlt | rfl | hgt
    · rw [about_cons_of_ne (by simpa [Event.channel?] using (Nat.ne_of_lt hlt).symm)]
      refine ⟨fun _ => (ih.1 hlt).elsewhere (by simpa using (Nat.ne_of_lt hlt).symm), fun hle => ?_⟩
      exact absurd (Nat.lt_of_succ_le hle) (Nat.lt_asymm hlt)
    · -- Of the number that is next there was nothing before.
      rw [about_cons_self rfl, (ih.2 (Nat.le_refl _)).1]
      refine ⟨fun _ => ⟨[], by simp, Or.inl ⟨rfl, rfl⟩⟩, fun hle => ?_⟩
      exact absurd hle (Nat.not_succ_le_self _)
    · have hne := (Nat.ne_of_lt hgt)
      rw [about_cons_of_ne (by simpa [Event.channel?] using hne)]
      refine ⟨fun hlt => absurd hgt (Nat.not_lt_of_le (Nat.le_of_lt_succ hlt)), fun _ => ?_⟩
      exact ⟨(ih.2 (Nat.le_of_lt hgt)).1, by simpa using hne⟩

/-- What came after the installing is the life of the channel without its installing. -/
theorem about_later {later earlier front : List Event}
    (h : about id (later ++ .installed id :: earlier) = front ++ [.installed id]) :
    front = about id later ++ (.installed id :: about id earlier).dropLast := by
  have hsplit : about id (later ++ .installed id :: earlier) =
      about id later ++ .installed id :: about id earlier := by
    rw [about, List.filter_append]
    exact congrArg _ (about_cons_self rfl earlier)
  rw [← List.dropLast_append_of_ne_nil (List.cons_ne_nil _ _), ← hsplit, h, List.dropLast_concat]

/-- A channel whose life has come to its end was cleared after it was installed. -/
theorem cleared_mem_later {later earlier uses : List Event}
    (h : about id (later ++ .installed id :: earlier) = .cleared id :: (uses ++ [.installed id])) :
    .cleared id ∈ later := by
  rw [← List.cons_append] at h
  have hfront := about_later h
  cases hlater : about id later with
  | nil =>
    rw [hlater, List.nil_append] at hfront
    cases hearlier : about id earlier with
    | nil => exact nomatch hearlier ▸ hfront
    | cons e rest =>
      rw [hearlier] at hfront
      exact nomatch hfront
  | cons e rest =>
    rw [hlater] at hfront
    obtain rfl : .cleared id = e := (List.cons.inj hfront).1
    have hmem : Event.cleared id ∈ about id later := hlater ▸ List.mem_cons_self
    exact (List.mem_filter.mp hmem).1

/-- A channel that is current was installed only once. -/
theorem installed_notMem_later {later earlier uses : List Event} (huses : ∀ e ∈ uses, e.Uses id)
    (h : about id (later ++ .installed id :: earlier) = uses ++ [.installed id]) :
    .installed id ∉ later := by
  intro hmem
  have hlater : Event.installed id ∈ about id later :=
    List.mem_filter.mpr ⟨hmem, by simp [Event.channel?]⟩
  rcases huses _ (about_later h ▸ List.mem_append_left _ hlater) with he | he <;> exact nomatch he

/-- The latest channel, if nothing that came after it has ended it. -/
def held : List Event → Option Nat
  | [] => none
  | e :: earlier =>
    match e with
    | .installed id => some id
    | .cleared _ => none
    | e => if e.ends then none else held earlier

/-- Most entries do not matter for the latest channel. -/
theorem held_cons (hends : e.ends = false) (hcleared : e.isCleared = false) (journal : List Event) :
    held (e :: journal) = held journal := by
  cases e with
  | installed | linkOpened | tornDown => exact nomatch hends
  | cleared => exact nomatch hcleared
  | concluded purpose o => exact if_neg (ne_true_of_eq_false hends)
  | _ => rfl

/-- An entry that ends every channel leaves none, unless it installs one. -/
theorem held_cons_of_ends (hends : e.ends = true) (hinstalled : e.isInstalled = false)
    (journal : List Event) : held (e :: journal) = none := by
  cases e with
  | installed => exact nomatch hinstalled
  | concluded purpose o => exact if_pos hends
  | linkOpened | tornDown => rfl
  | _ => exact nomatch hends

/-- Behind an entry that ends every channel only one that was installed later is held. -/
theorem mem_of_held {later earlier : List Event} (h : held (later ++ earlier) = some id)
    (hends : later.any Event.ends = true) : .installed id ∈ later := by
  induction later with
  | nil => exact nomatch hends
  | cons e later ih =>
    rw [List.cons_append] at h
    cases hinstalled : e.isInstalled with
    | true =>
      cases e with
      | installed id' =>
        obtain rfl : id' = id := Option.some.inj h
        exact List.mem_cons_self
      | _ => exact nomatch hinstalled
    | false =>
      cases he : e.ends with
      | true => exact nomatch (held_cons_of_ends he hinstalled _).symm.trans h
      | false =>
        have hcleared : e.isCleared = false := by
          cases e with
          | cleared => exact nomatch h
          | _ => rfl
        rw [held_cons he hcleared] at h
        rw [List.any_cons, he, Bool.false_or] at hends
        exact List.mem_cons_of_mem _ (ih h hends)

end Law

/-! ### The law is kept -/

namespace Bench

variable {τ κ : Type}

/-- The number of the channel of the session. -/
def channelId? (b : Bench τ κ) : Option Nat := b.session.channel.map Installed.id

/-- The journal keeps the law, and nothing has ended the channel that the session has. -/
structure Accounted (b : Bench τ κ) : Prop where
  storied : Storied b.journal b.channelId?
  held : held b.journal = b.channelId?

variable {b b' : Bench τ κ}

/-- What does not touch the channel need not be told. -/
theorem Accounted.elsewhere (h : Accounted b) (hjournal : b'.journal = b.journal)
    (hchannel : b'.channelId? = b.channelId?) : Accounted b' :=
  ⟨by rw [hjournal, hchannel]; exact h.storied, by rw [hjournal, hchannel]; exact h.held⟩

/-- An entry that is about no channel and ends none. -/
theorem Accounted.aside (h : Accounted b) {e : Event} (hchannel : e.channel? = none)
    (hends : e.ends = false) : Accounted (b.record e) := by
  refine ⟨.aside hchannel h.storied, (held_cons hends ?_ _).trans h.held⟩
  cases e with
  | cleared => exact nomatch hchannel
  | _ => rfl

/-- The channel of the session is put to work. -/
theorem Accounted.used (h : Accounted b) {channel : Installed κ} {e : Event}
    (hchannel : b.session.channel = some channel) (he : e.Uses channel.id) :
    Accounted (b.record e) := by
  obtain ⟨hstoried, hheld⟩ := h
  have hid : b.channelId? = some channel.id := congrArg (Option.map Installed.id) hchannel
  have hid' : (b.record e).channelId? = some channel.id := hid
  rw [hid] at hstoried hheld
  refine ⟨?_, ?_⟩
  · rw [hid']
    exact .used he hstoried
  · rw [hid', ← hheld]
    rcases he with rfl | rfl <;> exact held_cons rfl rfl _

/-- A channel that moves on is still the same. -/
theorem Accounted.advance (h : Accounted b) {channel : Installed κ}
    (hchannel : b.session.channel = some channel) (state : κ) :
    Accounted (b.advance channel state) := by
  refine h.elsewhere rfl ?_
  rw [channelId?, channelId?, hchannel]
  rfl

/-- What is cleared is the channel of the session, if it has one. -/
theorem accounted_clearChannel (hstoried : Storied b.journal b.channelId?)
    (hheld : b.session.channel = none → PgpCard.held b.journal = none) :
    Accounted b.clearChannel := by
  rw [channelId?] at hstoried
  cases hchannel : b.session.channel with
  | none =>
    rw [hchannel] at hstoried
    have hclear : b.clearChannel = b := SessionM.clearChannel_of_channel_eq_none hchannel
    have hid : b.channelId? = none := by rw [channelId?, hchannel]; rfl
    rw [hclear]
    exact ⟨by rw [hid]; exact hstoried, by rw [hid]; exact hheld hchannel⟩
  | some c =>
    rw [hchannel] at hstoried
    have hclear : b.clearChannel.journal = .cleared c.id :: b.journal := by
      rw [journal_clearChannel, channelIds, hchannel]
      rfl
    have hid : b.clearChannel.channelId? = none := by
      rw [channelId?, session_clearChannel]
      rfl
    exact ⟨by rw [hclear, hid]; exact .cleared hstoried, by rw [hclear, hid]; rfl⟩

theorem Accounted.clearChannel (h : Accounted b) : Accounted b.clearChannel := by
  refine accounted_clearChannel h.storied fun hchannel => ?_
  rw [h.held, channelId?, hchannel]
  rfl

/-- An entry that ends every channel is followed by the clearing of the one there is. -/
theorem Accounted.ended (h : Accounted b) {e : Event} (hchannel : e.channel? = none)
    (hends : e.ends = true) : Accounted (b.record e).clearChannel := by
  refine accounted_clearChannel (.aside hchannel h.storied) fun _ => held_cons_of_ends hends ?_ _
  cases e with
  | installed => exact nomatch hchannel
  | _ => rfl

theorem Accounted.installChannel (h : Accounted b) (state : κ) :
    Accounted (b.installChannel state) := by
  have hid : b.clearChannel.channelId? = none := by
    rw [channelId?, session_clearChannel]
    rfl
  have hstoried := h.clearChannel.storied
  rw [hid] at hstoried
  exact ⟨.installed hstoried, rfl⟩

theorem Accounted.teardown (h : Accounted b) : Accounted b.teardown :=
  (h.ended (e := .tornDown) rfl rfl).elsewhere rfl rfl

end Bench

namespace SessionM

open Bench

variable {τ κ : Type} [Link τ] [Channel κ]

omit [Link τ] in
/-- Making a command ready is a use of the channel, if of any. -/
theorem Prepared.accounted {c framed : Command} {tag : Option Nat} {b b₁ : Bench τ κ}
    (h : Prepared c b framed tag b₁) (hb : Accounted b) : Accounted b₁ := by
  cases h with
  | plain huse => exact hb
  | @wrapped channel _ state huse hwrap =>
    have hchannel := channel_of_channelInUse? huse
    exact (hb.used hchannel (Or.inl rfl)).advance hchannel state

omit [Link τ] [Channel κ] in
/-- A card that is forgotten has no channel. -/
theorem accounted_afterExchange {o : Except Error Response} {b : Bench τ κ} (hb : Accounted b)
    (houtside : Outcome.OutsideChannel o) : Accounted (afterExchange o b) ∧
      (Outcome.dropsChannel o = true → (afterExchange o b).session.channel = none) := by
  rw [Outcome.dropsChannel_eq_lost houtside]
  cases o with
  | ok r => exact ⟨hb, nofun⟩
  | error e =>
    cases hlost : e.lostCard with
    | false =>
      rw [afterExchange_of_kept hlost]
      exact ⟨hb, fun h => nomatch hlost.symm.trans h⟩
    | true =>
      rw [afterExchange_of_lost hlost]
      refine ⟨hb.clearChannel.elsewhere rfl rfl, fun _ => ?_⟩
      rw [session_forgetCard]

/-- An exchange whose end costs the session its channel has cleared it. -/
theorem Course.accounted {c : Command} {o : Except Error Response} {b b' : Bench τ κ}
    (h : Course c b o b') (hb : Accounted b) :
    Accounted b' ∧ (Outcome.dropsChannel o = true → b'.session.channel = none) := by
  have hsent : ∀ {framed : Command} {tag : Option Nat} {b₁ : Bench τ κ} {link : τ},
      Prepared c b framed tag b₁ → Accounted (b₁.sent framed tag link) := fun hprep =>
    ((hprep.accounted hb).aside rfl rfl).elsewhere rfl rfl
  cases h with
  | @notWrapped channel fault state huse hwrap =>
    refine ⟨(hb.used (channel_of_channelInUse? huse) (Or.inl rfl)).clearChannel, fun _ => ?_⟩
    rw [session_clearChannel]
  | failed hprep hwire => exact accounted_afterExchange (hsent hprep) (wire_outside hwire)
  | answered hprep hwire huse => exact ⟨hsent hprep, nofun⟩
  | @unwrapped framed tag b₁ r r' link channel state hprep hwire huse hunwrap =>
    have hchannel : (b₁.sent framed tag link).session.channel = some channel :=
      channel_of_channelInUse? huse
    exact ⟨((hsent hprep).used hchannel (Or.inr rfl)).advance hchannel state, nofun⟩
  | @notUnwrapped framed tag b₁ r link channel fault state hprep hwire huse hunwrap =>
    have hchannel : (b₁.sent framed tag link).session.channel = some channel :=
      channel_of_channelInUse? huse
    refine ⟨((hsent hprep).used hchannel (Or.inr rfl)).clearChannel, fun _ => ?_⟩
    rw [session_clearChannel]

/-- Every exchange keeps the law. -/
theorem accounted_communicate (purpose : Purpose) (c : Command) :
    Keeps Accounted (communicate (τ := τ) (κ := κ) purpose c) := by
  intro b hb
  obtain ⟨o, b', hcourse, hrun⟩ := run_communicate_eq purpose c b
  obtain ⟨hb', hdropped⟩ := hcourse.accounted (hb.aside rfl rfl)
  rw [hrun]
  cases hdrops : Outcome.dropsChannel o with
  | false => exact hb'.aside rfl hdrops
  | true =>
    have hid : b'.channelId? = none := congrArg (Option.map Installed.id) (hdropped hdrops)
    refine ⟨.aside rfl hb'.storied, ?_⟩
    exact (held_cons_of_ends (e := .concluded purpose o) hdrops rfl _).trans hid.symm

/-- A bring-up does away with the channel that was there, once the link is open. It may install
another one in the end. -/
theorem accounted_connect : Keeps Accounted (connect (τ := τ) (κ := κ)) := by
  have hreading : Keeps Accounted (reading (τ := τ) (κ := κ)) :=
    (keeps_composable Accounted).reading (fun purpose _ c => accounted_communicate purpose c)
      fun _ _ hb => hb.elsewhere rfl rfl
  have hbringUp : Keeps Accounted (bringUp (τ := τ) (κ := κ)) := by
    rw [bringUp_eq]
    refine hreading.bind (keeps_settling (accounted_communicate .handshake) ?_ ?_ ?_ ?_)
    · exact fun _ _ hb => hb.elsewhere rfl rfl
    · exact fun _ hb => hb.elsewhere rfl rfl
    · exact fun _ hb => hb.clearChannel
    · exact fun _ state hb => hb.installChannel state
  refine keeps_connect (fun b b' hb hsession hjournal => ?_) (fun b hb => ?_) fun _ hb => ?_
  · exact hb.elsewhere hjournal (by rw [channelId?, hsession]; rfl)
  · exact hbringUp _ ((hb.ended (e := .linkOpened) rfl rfl).elsewhere rfl rfl)
  · exact hb.elsewhere rfl rfl

/-- Every step that operations are made of keeps the law. -/
theorem accounted_steady : Steady (Accounted (τ := τ) (κ := κ)) where
  communicate := fun purpose c _ _ => accounted_communicate purpose c
  verify := fun cls =>
    keeps_verify (accounted_communicate (.verify cls)) fun _ hb => hb.elsewhere rfl rfl
  requestSignature := fun digestInfo =>
    keeps_requestSignature (accounted_communicate .sign)
      (fun _ hb => (hb.aside (e := .signatureUsed _) rfl rfl).elsewhere rfl rfl) digestInfo
  connect := accounted_connect
  describe := fun _ _ hb => hb.elsewhere rfl rfl
  installChannel := fun _ state hb => hb.installChannel state
  clearChannel := fun _ hb => hb.clearChannel
  useSignature := fun _ hb => (hb.aside (e := .signatureUsed _) rfl rfl).elsewhere rfl rfl
  dropAdmin := fun _ hb => (hb.aside (e := .adminDropped) rfl rfl).elsewhere rfl rfl
  teardown := fun _ hb => hb.teardown
  link := fun _ _ hb => hb.elsewhere rfl rfl
  setup := fun _ _ hb => hb.elsewhere rfl rfl

/-- In every run each channel that was ever installed was then put to work, if at all, and cleared
once unless it is the channel of the session. After that it was not put to work again. So
whatever ends a channel has wiped its keys. -/
theorem channel_cleared_once (setup : Setup κ) (pin : Option Pin) (link : τ)
    (moves : List (Move τ κ)) :
    let b := Move.run { session := .new setup pin, link } moves
    ∀ id, .installed id ∈ b.journal →
      Life id b.channelId? (about id b.journal) ∧
      ∀ later earlier, b.journal = later ++ .installed id :: earlier →
        later.any Event.ends = true → .cleared id ∈ later := by
  intro b id hinstalled
  have hnew : Accounted ({ session := .new setup pin, link } : Bench τ κ) := ⟨.start, rfl⟩
  obtain ⟨hstoried, hheld⟩ : Accounted b := accounted_steady.run moves _ hnew
  have hmem : .installed id ∈ about id b.journal :=
    List.mem_filter.mpr ⟨hinstalled, by simp [Event.channel?]⟩
  have hlife : Life id b.channelId? (about id b.journal) := by
    refine (hstoried.life id).1 (Nat.lt_of_not_le fun hle => ?_)
    rw [((hstoried.life id).2 hle).1] at hmem
    exact nomatch hmem
  refine ⟨hlife, fun later earlier hjournal hends => ?_⟩
  rw [hjournal] at hlife hheld
  obtain ⟨uses, huses, ⟨hcurrent, hentries⟩ | ⟨-, hentries⟩⟩ := hlife
  · -- What has ended the channel would have to be older than another installing of it.
    exact absurd (mem_of_held (hheld.trans hcurrent) hends) (installed_notMem_later huses hentries)
  · exact cleared_mem_later hentries

open Simulator in
/-- A provider that sends one command. -/
def oneCommandSetup : Setup ToyChannel :=
  let handshake : Command := { cla := 0x00, ins := 0x88, p1 := 0x01, p2 := 0x01 }
  { provider := some (ToyChannel.provider [handshake] (.ok { key := 0x33 })) }

open Simulator in
/-- A card that takes part in an agreement of one command, and then answers one command that is
protected. -/
def agreeingCard : ScriptedLink :=
  let described : Bytes :=
    [0x5F, 0x52, 0x04, 0x00, 0x05, 0x90, 0x00, 0xC0, 0x02, 0x80, 0x03, 0x90, 0x00]
  { tokenType := some .unknown
    turns := [.answer [0x90, 0x00], .answer described, .answer [0x90, 0x00],
      .answer [0x33, 0x90, 0x00]] }

open Simulator in
/-- The channel of a bring-up protects one command before another channel takes its place. -/
theorem channel_cleared_once_replaced :
    let moves : List (Move ScriptedLink ToyChannel) :=
      [.asked .connect, .asked .url, .asked (.installChannel { key := 0x44 })]
    let b := Move.run { session := .new oneCommandSetup none, link := agreeingCard } moves
    b.channelId? = some 1 ∧
      (∃ uses, about 0 b.journal = .cleared 0 :: (uses ++ [.installed 0]) ∧
        (∀ e ∈ uses, e.Uses 0) ∧ uses.length = 2) ∧
      ∃ later earlier, b.journal = later ++ .installed 0 :: earlier ∧
        later.any Event.ends = true ∧ .cleared 0 ∈ later := by
  intro moves b
  have hcurrent : b.channelId? = some 1 := by decide +kernel
  have hmem : .installed 0 ∈ b.journal := mem_of_about_any (by decide +kernel)
  obtain ⟨⟨uses, huses, hlife⟩, hended⟩ :=
    channel_cleared_once oneCommandSetup none agreeingCard moves 0 hmem
  refine ⟨hcurrent, ?_, ?_⟩
  · rcases hlife with ⟨hid, -⟩ | ⟨-, hentries⟩
    · exact nomatch hcurrent.symm.trans hid
    · refine ⟨uses, hentries, huses, ?_⟩
      have hlength : (about 0 b.journal).length = 4 := by decide +kernel
      rw [hentries] at hlength
      simpa using hlength
  · -- The latest entry is the installing of the other channel.
    have hlatest : b.journal.head?.bind Event.channel? = some 1 ∧
        b.journal.head?.any Event.ends = true := by decide +kernel
    obtain ⟨later, earlier, hsplit⟩ := List.append_of_mem hmem
    have hends : later.any Event.ends = true := by
      rw [hsplit] at hlatest
      cases later with
      | nil => exact nomatch hlatest.1
      | cons e later =>
        have he : e.ends = true := hlatest.2
        rw [List.any_cons, he, Bool.true_or]
    exact ⟨later, earlier, hsplit, hends, hended later earlier hsplit hends⟩

end SessionM

end PgpCard
