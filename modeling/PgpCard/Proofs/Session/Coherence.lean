import PgpCard.Proofs.Session.Connected
import PgpCard.Proofs.Session.Forgetting

/-!
# `PgpCard.Proofs.Session.Coherence`: the two descriptors go together

A session has two descriptors of its card, the application data and the card capabilities that
this data states. `Session.Coherent` says that they go together. A bring-up breaks that on
purpose: it starts with the capabilities of the baseline and no application data. Whoever asks
for an operation never sees it, since a bring-up that fails drops both descriptors, and one
that succeeds has read the application data in the meantime (`coherent_connect`). An exchange
that loses the card drops both as well, also when it is one of a key agreement. So the
descriptors are coherent all along a run, and `descriptors_coherent` says so.

The theorem also says what becomes of them when the application data is read again. Data that
does not make sense, or does not come at all, changes nothing.
-/

set_option autoImplicit false

namespace PgpCard

open Step

namespace Session

variable {κ : Type}

/-- The card capabilities are those that the application data states. Without application data
there are none. -/
def Coherent (s : Session κ) : Prop := s.card = s.application.map (·.card)

theorem coherent_iff (s : Session κ) :
    s.Coherent ↔ (s.application = none ∧ s.card = none) ∨
      ∃ a, s.application = some a ∧ s.card = some a.card := by
  unfold Coherent
  cases s.application <;> simp

end Session

/-- Exchanges leave both descriptors, or neither. -/
theorem Bench.Passed.descriptors {τ κ : Type} {purposes : List Purpose} {events : List Event}
    {b b' : Bench τ κ} (h : b.Passed purposes events b') :
    if events.any Event.isLoss then b'.session.application = none ∧ b'.session.card = none
    else b'.session.application = b.session.application ∧ b'.session.card = b.session.card := by
  rw [h.session]
  cases events.any Event.isLoss <;> exact ⟨rfl, rfl⟩

theorem Bench.Passed.coherent {τ κ : Type} {purposes : List Purpose} {events : List Event}
    {b b' : Bench τ κ} (h : b.Passed purposes events b') (hb : b.session.Coherent) :
    b'.session.Coherent := by
  have hdescriptors := h.descriptors
  unfold Session.Coherent at hb ⊢
  split at hdescriptors
  · rw [hdescriptors.1, hdescriptors.2]
    rfl
  · rw [hdescriptors.1, hdescriptors.2, hb]

namespace SessionM

variable {τ κ : Type} [Link τ] [Channel κ]

/-! ### The steps of an operation -/

theorem coherent_communicate (purpose : Purpose) (c : Command) :
    Keeps (fun b : Bench τ κ => b.session.Coherent) (communicate purpose c) := by
  intro b hb
  obtain ⟨work, -, hpassed⟩ := communicate_passed purpose c b
  exact hpassed.coherent hb

/-- A bring-up leaves what was there if the link does not open, and otherwise ends with both
descriptors or with none. -/
theorem coherent_connect : Keeps (fun b : Bench τ κ => b.session.Coherent) connect := by
  intro b hb
  rcases hrun : run connect b with ⟨e | ⟨⟩, b'⟩
  · have hsession := (session_openLink b).1
    rw [run_connect] at hrun
    rcases hopen : run openLink b with ⟨fault | ⟨⟩, b₀⟩
    all_goals rw [hopen] at hrun hsession
    · obtain rfl : b₀ = b' := congrArg Prod.snd hrun
      rw [hsession]
      exact hb
    · -- The baseline goes with the failure.
      have herror : (run bringUp (clean b₀)).1 = .error e := congrArg Prod.fst hrun
      have hafter : afterBringUp (.error e) (run bringUp (clean b₀)).2 = b' := by
        rw [← herror]
        exact congrArg Prod.snd hrun
      rw [← hafter]
      rfl
  · obtain ⟨-, agreement, a, b₁, -, -, -, ⟨happlication, hcard, -⟩, hagreed⟩ := connect_eq_ok hrun
    show b'.session.Coherent
    rw [hagreed.session]
    -- What was read is still there, or the key agreement has lost the card.
    cases agreement.any Event.isLoss with
    | false =>
      show b₁.session.card = b₁.session.application.map (·.card)
      rw [happlication, hcard]
      rfl
    | true => rfl

/-- Every step that operations are made of leaves the descriptors coherent. -/
theorem coherent_steady : Steady fun b : Bench τ κ => b.session.Coherent where
  communicate := fun purpose c _ _ => coherent_communicate purpose c
  verify := fun cls pin => keeps_verify (coherent_communicate (.verify cls)) (fun _ h => h) pin
  requestSignature := keeps_requestSignature (coherent_communicate .sign) fun _ h => h
  connect := coherent_connect
  describe := fun _ _ _ => rfl
  installChannel := fun b state h => by
    rw [Bench.session_installChannel]
    exact h
  clearChannel := fun b h => by
    rw [Bench.session_clearChannel]
    exact h
  useSignature := fun _ h => h
  dropAdmin := fun _ h => h
  teardown := fun _ _ => rfl
  link := fun _ _ h => h
  setup := fun _ _ h => h

/-! ### Reading the application data again -/

/-- A reading of the application data that fails has touched the descriptors only if the card
was lost in it. -/
theorem refresh_eq_error {b b' : Bench τ κ} {e : Error} (h : run refresh b = (.error e, b')) :
    if e.lostCard then b'.session.application = none ∧ b'.session.card = none
    else b'.session.application = b.session.application ∧ b'.session.card = b.session.card := by
  obtain ⟨events, hpassed, hloss, -⟩ := readObject_passed .applicationData b
  have hdescriptors := hpassed.descriptors
  rw [hloss] at hdescriptors
  have hrefresh : refresh = (readObject .applicationData >>= takeOver : SessionM τ κ Unit) := rfl
  rw [hrefresh] at h
  rcases hrun : run (readObject .applicationData) b with ⟨e' | data, b₁⟩
  all_goals rw [hrun] at hdescriptors
  · rw [run_bind_of_error hrun] at h
    obtain ⟨⟨⟩, rfl⟩ := Prod.mk.inj h
    exact hdescriptors
  · rw [run_bind_of_ok hrun, takeOver] at h
    cases hdecode : ApplicationData.decode data with
    | ok a =>
      rw [hdecode] at h
      exact nomatch congrArg Prod.fst h
    | error fault =>
      -- The card was not lost, and its data does not make sense.
      rw [hdecode] at h
      obtain ⟨⟨⟩, rfl⟩ := Prod.mk.inj h
      exact hdescriptors

/-- How a reading of the application data ends, and what it leaves. On success both descriptors
come from data that was read just now. An error drops both of them if it tells of a loss of the
card, and else leaves both as they were. -/
def Refreshed (b : Bench τ κ) : Except Error Unit → Bench τ κ → Prop
  | .ok (), b' => ∃ events a, b'.journal = events ++ b.journal ∧ Event.HasRead events a ∧
    b'.session.application = some a ∧ b'.session.card = some a.card
  | .error e, b' =>
    if e.lostCard then b'.session.application = none ∧ b'.session.card = none
    else b'.session.application = b.session.application ∧ b'.session.card = b.session.card

theorem refresh_refreshed (b : Bench τ κ) : Refreshed b (run refresh b).1 (run refresh b).2 := by
  rcases hrun : run refresh b with ⟨e | ⟨⟩, b'⟩
  · exact refresh_eq_error hrun
  · obtain ⟨events, a, b₁, hpassed, -, hread, rfl⟩ := refresh_eq_ok hrun
    exact ⟨events, a, hpassed.journal, hread, rfl, rfl⟩

/-- All along a run of a new session, whatever its link answers and its owner asks for, either
both descriptors are unset, or there is application data and the card capabilities are those that
it states. A reading of the application data replaces both descriptors, drops both, or leaves
both. -/
theorem descriptors_coherent (setup : Setup κ) (pin : Option Pin) (link : τ)
    (moves : List (Move τ κ)) :
    let b := Move.run { session := .new setup pin, link } moves
    ((b.session.application = none ∧ b.session.card = none) ∨
      ∃ a, b.session.application = some a ∧ b.session.card = some a.card) ∧
    Refreshed b (refresh.start b).1 (refresh.start b).2 := by
  intro b
  have hnew : ({ session := .new setup pin, link } : Bench τ κ).session.Coherent := rfl
  refine ⟨b.session.coherent_iff.mp (coherent_steady.run moves _ hnew), ?_⟩
  rw [start_eq_run]
  exact refresh_refreshed b

end SessionM

end PgpCard
