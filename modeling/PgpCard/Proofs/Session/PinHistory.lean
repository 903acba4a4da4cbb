import PgpCard.Proofs.Session.BringUp
import PgpCard.Proofs.Session.Run

/-!
# `PgpCard.Proofs.Session.PinHistory`: which history makes a PIN verified

A session remembers for each PIN class whether the card has accepted the PIN. This module
says what that memory is worth in terms of what has happened: the class counts as verified
exactly when some verification of it was answered by `90 00` and nothing that ends it came
afterwards (`verified_iff_history`).

`told` replays a journal. It looks for the latest entry that matters, and `Synced` is the
invariant that the memory of the session is what the journal tells. Each step that an
operation is made of keeps it (`synced_steady`), so it holds all along every run. Which operations
leave an entry that ends a verification is said in `PgpCard.Proofs.Session.Marks`.

In the course of a verification the invariant does not hold: the exchange is noted before
the session draws its conclusion. A bring-up is another such place, since it resets the
memory once more. There, no verification can have been noted since the link was opened.
-/

set_option autoImplicit false

namespace PgpCard

open Step SessionM

namespace Event

/-- The entry tells that the card has accepted the PIN of a class. -/
def verifies (cls : PinClass) : Event → Bool
  | .concluded p (.ok r) => decide (p = .verify cls) && r.isSuccess
  | _ => false

/-- The entry tells of something that ends the verification of a class. -/
def clears (cls : PinClass) : Event → Bool
  | .linkOpened | .tornDown => true
  | .concluded _ (.error e) => e.lostCard
  | .signatureUsed multiple => decide (cls = .signature) && !multiple
  | .adminDropped => decide (cls = .admin)
  | _ => false

/-- Of all outcomes of an exchange only a loss of the card ends verifications. -/
theorem clears_concluded (cls : PinClass) (purpose : Purpose) (o : Except Error Response) :
    (concluded purpose o).clears cls = Outcome.lost o := by
  cases o <;> rfl

/-- Only an exchange to verify the PIN of the class tells of a verification. -/
theorem verifies_concluded_of_ne {cls : PinClass} {purpose : Purpose} (h : purpose ≠ .verify cls)
    (o : Except Error Response) : (concluded purpose o).verifies cls = false := by
  cases o with
  | ok r => simp [verifies, h]
  | error e => rfl

/-- Exchanges for other purposes do not tell of a verification. -/
theorem verifies_of_isAmong {cls : PinClass} {purposes : List Purpose}
    (h : Purpose.verify cls ∉ purposes) {e : Event} (he : e.isAmong purposes = true) :
    e.verifies cls = false := by
  cases e with
  | concluded p o =>
    apply verifies_concluded_of_ne
    rintro rfl
    exact h (of_decide_eq_true he)
  | _ => rfl

/-- What tells of a verification is the answer to one. -/
theorem eq_concluded_of_verifies {cls : PinClass} {e : Event} (h : e.verifies cls = true) :
    ∃ r, e = .concluded (.verify cls) (.ok r) ∧ r.isSuccess = true := by
  cases e with
  | concluded p o =>
    cases o with
    | error fault => exact nomatch h
    | ok r =>
      obtain ⟨hp, hsuccess⟩ := Bool.and_eq_true_iff.mp h
      obtain rfl : p = .verify cls := of_decide_eq_true hp
      exact ⟨r, rfl, hsuccess⟩
  | _ => exact nomatch h

end Event

/-- What a journal tells about a class: the latest entry that matters decides. -/
def told (cls : PinClass) : List Event → PinState
  | [] => .unverified
  | e :: earlier =>
    if e.verifies cls then .verified
    else if e.clears cls then .unverified
    else told cls earlier

section Told

variable {cls : PinClass}

/-- A journal tells of a verification when it has one that was not cleared afterwards. -/
theorem told_eq_verified_iff (journal : List Event) :
    told cls journal = .verified ↔
      ∃ later e earlier, journal = later ++ e :: earlier ∧ e.verifies cls = true ∧
        ∀ e' ∈ later, e'.clears cls = false := by
  induction journal with
  | nil => simp [told]
  | cons e₀ rest ih =>
    rw [told]
    by_cases hfirst : e₀.verifies cls = true
    · -- The latest entry is the verification.
      rw [if_pos hfirst]
      exact ⟨fun _ => ⟨[], e₀, rest, rfl, hfirst, by simp⟩, fun _ => rfl⟩
    rw [if_neg hfirst]
    by_cases hcleared : e₀.clears cls = true
    · -- The latest entry comes after every verification, and clears.
      rw [if_pos hcleared]
      refine ⟨nofun, ?_⟩
      rintro ⟨later, e, earlier, hjournal, hverifies, hclears⟩
      cases later with
      | nil =>
        obtain ⟨rfl, -⟩ := List.cons.inj hjournal
        exact absurd hverifies hfirst
      | cons e' later =>
        obtain ⟨rfl, -⟩ := List.cons.inj hjournal
        exact absurd hcleared (ne_true_of_eq_false (hclears e₀ List.mem_cons_self))
    · -- The latest entry does not matter, so it can be put in front of what came before.
      rw [if_neg hcleared, ih]
      constructor
      · rintro ⟨later, e, earlier, rfl, hverifies, hclears⟩
        refine ⟨e₀ :: later, e, earlier, rfl, hverifies, ?_⟩
        exact List.forall_mem_cons.mpr ⟨eq_false_of_ne_true hcleared, hclears⟩
      · rintro ⟨later, e, earlier, hjournal, hverifies, hclears⟩
        cases later with
        | nil =>
          obtain ⟨rfl, -⟩ := List.cons.inj hjournal
          exact absurd hverifies hfirst
        | cons e' later =>
          obtain ⟨rfl, rfl⟩ := List.cons.inj hjournal
          exact ⟨later, e, earlier, rfl, hverifies, (List.forall_mem_cons.mp hclears).2⟩

/-- The work inside of an exchange does not matter. -/
theorem told_of_isWork {e : Event} (h : e.isWork = true) (earlier : List Event) :
    told cls (e :: earlier) = told cls earlier := by
  cases e with
  | framed | wrapped | unwrapped | cleared => rfl
  | _ => exact nomatch h

/-- Where only work was done, the journal tells what it told before. -/
theorem told_append_of_work {work : List Event} (h : ∀ e ∈ work, e.isWork = true)
    (earlier : List Event) : told cls (work ++ earlier) = told cls earlier := by
  induction work with
  | nil => rfl
  | cons e work ih =>
    obtain ⟨he, hwork⟩ := List.forall_mem_cons.mp h
    exact (told_of_isWork he _).trans (ih hwork)

theorem told_of_wrote {τ κ : Type} {b b' : Bench τ κ} (h : b.Wrote Event.isWork b') :
    told cls b'.journal = told cls b.journal := by
  obtain ⟨work, hjournal, hwork⟩ := h
  rw [hjournal, told_append_of_work hwork]

/-- No class depends on which channels were cleared. -/
theorem told_append_cleared (ids : List Nat) (earlier : List Event) :
    told cls (ids.map .cleared ++ earlier) = told cls earlier :=
  told_append_of_work (Event.isWork_of_mem_cleared ids) earlier

/-- A class that counts as verified after more entries was verified by one of them, or it counted so
before and none of them has cleared it. -/
theorem verified_append {later earlier : List Event} (h : told cls (later ++ earlier) = .verified) :
    (∃ e ∈ later, e.verifies cls = true) ∨
      told cls earlier = .verified ∧ later.any (Event.clears cls) = false := by
  induction later with
  | nil => exact Or.inr ⟨h, rfl⟩
  | cons e later ih =>
    rw [List.cons_append, told] at h
    cases hverifies : e.verifies cls with
    | true => exact Or.inl ⟨e, List.mem_cons_self, hverifies⟩
    | false =>
      rw [hverifies, if_neg Bool.false_ne_true] at h
      cases hclears : e.clears cls with
      | true =>
        rw [hclears] at h
        exact nomatch h
      | false =>
        rw [hclears, if_neg Bool.false_ne_true] at h
        rcases ih h with ⟨e', he', hlater⟩ | ⟨hearlier, hlater⟩
        · exact Or.inl ⟨e', List.mem_cons_of_mem _ he', hlater⟩
        · rw [List.any_cons, hclears]
          exact Or.inr ⟨hearlier, hlater⟩

/-- Without a later verification an unverified class stays so. -/
theorem told_append_of_unverified {later earlier : List Event}
    (h : ∀ e ∈ later, e.verifies cls = false) (hearlier : told cls earlier = .unverified) :
    told cls (later ++ earlier) = .unverified := by
  cases htold : told cls (later ++ earlier) with
  | unverified => rfl
  | verified =>
    rcases verified_append htold with ⟨e, he, hverifies⟩ | ⟨hverified, -⟩
    · exact nomatch (h e he).symm.trans hverifies
    · exact nomatch hearlier.symm.trans hverified

/-- Where a class has become verified, a verification of it was accepted. -/
theorem accepted_of_told {later earlier : List Event} (hbefore : told cls earlier = .unverified)
    (hafter : told cls (later ++ earlier) = .verified) :
    ∃ r, .concluded (.verify cls) (.ok r) ∈ later ∧ r.isSuccess = true := by
  rcases verified_append hafter with ⟨e, he, hverifies⟩ | ⟨hverified, -⟩
  · obtain ⟨r, rfl, hsuccess⟩ := Event.eq_concluded_of_verifies hverifies
    exact ⟨r, he, hsuccess⟩
  · exact nomatch hbefore.symm.trans hverified

/-- Behind an entry that clears a class only a later verification counts. -/
theorem mem_of_told {later earlier : List Event} (h : told cls (later ++ earlier) = .verified)
    (hclears : later.any (Event.clears cls) = true) : ∃ e ∈ later, e.verifies cls = true := by
  rcases verified_append h with hverifies | ⟨-, hnone⟩
  · exact hverifies
  · exact nomatch hnone.symm.trans hclears

end Told

/-! ### The memory of the session -/

/-- The session takes those classes for verified that the journal tells to be. -/
def Synced {τ κ : Type} (b : Bench τ κ) : Prop :=
  ∀ cls, b.session.pins.get cls = told cls b.journal

section Changes

variable {τ κ : Type} {b : Bench τ κ}

/-- A session without verifications after a journal that tells of none. -/
theorem synced_of_fresh (hpins : b.session.pins = .fresh)
    (htold : ∀ cls, told cls b.journal = .unverified) : Synced b := by
  intro cls
  rw [hpins, htold cls]
  cases cls <;> rfl

theorem synced_clearChannel (h : Synced b) : Synced b.clearChannel := by
  intro cls
  rw [Bench.session_clearChannel, Bench.journal_clearChannel, told_append_cleared]
  exact h cls

theorem synced_installChannel (state : κ) (h : Synced b) : Synced (b.installChannel state) :=
  fun cls => synced_clearChannel h cls

/-- After the session was told to forget its token nothing is verified. -/
theorem synced_teardown (b : Bench τ κ) : Synced b.teardown := by
  apply synced_of_fresh rfl
  intro cls
  rw [Bench.journal_teardown, told_append_cleared]
  rfl

/-- A signature ends the verification for signatures, and only under the policy of one
signature per verification. -/
theorem synced_useSignature (h : Synced b) : Synced b.useSignature := by
  intro cls
  have hcls := h cls
  rw [Bench.journal_useSignature]
  show (b.session.pins.apply .signature (.signatureUsed b.session.multipleSignatures)).get cls = _
  rw [PinStates.apply, PinStates.get_set, hcls, h .signature]
  cases b.session.multipleSignatures <;> cases cls <;> rfl

theorem synced_dropAdmin (h : Synced b) : Synced b.dropAdmin := by
  intro cls
  have hcls := h cls
  rw [Bench.journal_dropAdmin]
  show (b.session.pins.apply .admin .invalidated).get cls = _
  rw [PinStates.apply, PinStates.get_set, hcls]
  cases cls <;> rfl

/-- In the course of a bring-up nothing is verified, and since the opening of the link no
verification has been noted. -/
theorem synced_of_inProgress {b₀ : Bench τ κ} (h : InProgress (clean b₀) b) : Synced b := by
  apply synced_of_fresh h.pins
  intro cls
  obtain ⟨events, hjournal, hamong⟩ := h.journal
  rw [hjournal]
  apply told_append_of_unverified
  · intro e he
    exact Event.verifies_of_isAmong (by cases cls <;> decide) (hamong e he)
  · rw [journal_clean, told_append_cleared]
    rfl

end Changes

/-! ### The steps of an operation -/

section Steps

variable {τ κ : Type} [Link τ] [Channel κ]

/-- After an exchange the journal tells what the session remembers, but for the verification
that the exchange may have been. -/
theorem communicate_told (purpose : Purpose) (c : Command) :
    Ensures Synced (communicate (τ := τ) (κ := κ) purpose c) fun o b => ∀ cls,
      told cls b.journal =
        if (Event.concluded purpose o).verifies cls then .verified
        else b.session.pins.get cls := by
  intro b hb cls
  obtain ⟨o, b', hexchanged, hrun⟩ := run_communicate purpose c b
  rw [hrun]
  show told cls (.concluded purpose o :: b'.journal) = if _ then _ else b'.session.pins.get cls
  rw [told, Event.clears_concluded]
  split
  · rfl
  · cases hlost : Outcome.lost o with
    | false =>
      -- Nothing was forgotten, and nothing in the journal is new that matters.
      rw [Exchanged, hlost] at hexchanged
      rw [hexchanged.session, if_neg Bool.false_ne_true, told_of_wrote hexchanged.journal]
      exact (hb cls).symm
    | true =>
      -- Everything was forgotten, and the journal tells so.
      rw [Exchanged, hlost] at hexchanged
      rw [hexchanged.session]
      cases cls <;> rfl

/-- An exchange for anything but a verification keeps the session synced. -/
theorem synced_communicate {purpose : Purpose} (h : ∀ cls, purpose ≠ .verify cls) (c : Command) :
    Keeps Synced (communicate (τ := τ) (κ := κ) purpose c) := by
  refine (communicate_told purpose c).mono (fun _ hb => hb) ?_
  intro o b hb cls
  rw [hb cls, Event.verifies_concluded_of_ne (h cls), if_neg Bool.false_ne_true]

/-- A verification is noted and remembered together. -/
theorem synced_verify (cls : PinClass) (pin : Pin) :
    Keeps Synced (verify (τ := τ) (κ := κ) cls pin) := by
  intro b hb
  rw [verify, run_session_bind]
  refine Ensures.bind (Q := fun _ => Synced) (communicate_told (.verify cls) _) ?_ ?_ b hb
  · intro r b' hb'
    cases hsuccess : r.isSuccess with
    | false =>
      -- The card has refused the PIN.
      intro cls'
      have hcls := hb' cls'
      rw [Event.verifies, hsuccess, Bool.and_false, if_neg Bool.false_ne_true] at hcls
      exact hcls.symm
    | true =>
      -- The journal has it already, and now the session remembers it too.
      intro cls'
      have hcls := hb' cls'
      rw [Event.verifies, hsuccess, Bool.and_true] at hcls
      show (b'.session.pins.set cls .verified).get cls' = told cls' b'.journal
      rw [hcls, PinStates.get_set]
      by_cases h : cls' = cls
      · rw [if_pos h, if_pos (decide_eq_true (h ▸ rfl))]
      · have hne : Purpose.verify cls ≠ .verify cls' := fun heq => h (Purpose.verify.inj heq).symm
        rw [if_neg h, if_neg (by simp [hne])]
  · intro e b' hb' cls'
    rw [hb' cls']
    rfl

theorem synced_requestSignature (digestInfo : Bytes) :
    Keeps Synced (requestSignature (τ := τ) (κ := κ) digestInfo) := by
  have hpurpose : ∀ cls, Purpose.sign ≠ .verify cls := nofun
  exact keeps_requestSignature (synced_communicate hpurpose) (fun _ => synced_useSignature)
    digestInfo

/-- A bring-up leaves what was there, if the link does not open. Otherwise nothing is
verified at its end. -/
theorem synced_connect : Keeps Synced (connect (τ := τ) (κ := κ)) := by
  refine keeps_connect (fun b b' hb hsession hjournal cls => ?_) (fun b _ => ?_) fun _ hb => hb
  · rw [hsession, hjournal]
    exact hb cls
  · rcases bringUp_ends (clean b) (clean b) (clean_inProgress b) with
      hprogress | ⟨-, b₁, state, hprogress, heq⟩
    · exact synced_of_inProgress hprogress
    · rw [heq]
      exact synced_installChannel state (synced_of_inProgress hprogress)

/-- Every step that operations are made of keeps the session synced. -/
theorem synced_steady : Steady (Synced (τ := τ) (κ := κ)) where
  communicate := fun _ c h _ => synced_communicate h c
  verify := synced_verify
  requestSignature := synced_requestSignature
  connect := synced_connect
  describe := fun _ _ h => h
  installChannel := fun _ state h => synced_installChannel state h
  clearChannel := fun _ h => synced_clearChannel h
  useSignature := fun _ h => synced_useSignature h
  dropAdmin := fun _ h => synced_dropAdmin h
  teardown := fun b _ => synced_teardown b
  link := fun _ _ h => h
  setup := fun _ _ h => h

/-- In every run from a new session, a class counts as verified exactly when the journal has
a verification of it that the card has accepted, with nothing after it that ends one. -/
theorem verified_iff_history (setup : Setup κ) (pin : Option Pin) (link : τ)
    (moves : List (Move τ κ)) (cls : PinClass) :
    (Move.run { session := .new setup pin, link } moves).session.pins.get cls = .verified ↔
      ∃ later e earlier,
        (Move.run { session := .new setup pin, link } moves).journal = later ++ e :: earlier ∧
        e.verifies cls = true ∧ ∀ e' ∈ later, e'.clears cls = false := by
  have hnew : Synced ({ session := .new setup pin, link } : Bench τ κ) :=
    synced_of_fresh rfl fun _ => rfl
  rw [synced_steady.run moves _ hnew cls]
  exact told_eq_verified_iff _

end Steps

end PgpCard
