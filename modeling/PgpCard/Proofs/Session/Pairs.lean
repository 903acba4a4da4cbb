import PgpCard.Proofs.Session.BringUp

/-!
# `PgpCard.Proofs.Session.Pairs`: two sessions side by side

Two sessions that are compared take the same steps. What these steps read has to be the same in
both, and their exchanges have to come to the same. `Pairs` says that a relation between the two
benches sees to this, and is kept by the exchanges. It is then kept by the steps that consist of
exchanges only, and their outcomes are the same. A key agreement is one of these up to its very
end, where it may take a channel into use (`Pairs.agree`).
-/

set_option autoImplicit false

namespace PgpCard.SessionM

open Step

variable {τ τ' κ : Type} [Link τ] [Link τ'] [Channel κ]

/-- Related benches have the same setup, their links know as much of the token, and the exchange of
a command comes to the same and leaves them related. -/
structure Pairs (R : Bench τ κ → Bench τ' κ → Prop) : Prop where
  setup : ∀ b b', R b b' → b.session.setup = b'.session.setup
  tokenType? : ∀ b b', R b b' → Link.tokenType? b.link = Link.tokenType? b'.link
  communicate : ∀ purpose c, Couples R (communicate purpose c) (communicate purpose c) fun _ => R

namespace Pairs

variable {R : Bench τ κ → Bench τ' κ → Prop}

theorem readObject (h : Pairs R) (tag : ObjectTag) :
    Couples R (readObject tag) (readObject tag) fun _ => R := by
  refine .session_bind fun b b' hb => ?_
  rw [h.setup b b' hb]
  refine (h.communicate _ _).seq fun r => ?_
  exact (Couples.ensure _ _).seq fun u => .pure _

theorem identify (h : Pairs R) : Couples R identify identify fun _ => R := by
  refine .link_bind fun b b' hb => ?_
  rw [h.tokenType? b b' hb]
  cases Link.tokenType? b'.link with
  | some t => exact .pure t
  | none =>
    refine .session_bind fun b b' hb => ?_
    rw [h.setup b b' hb]
    cases b'.session.setup.config.probe with
    | false => exact .pure _
    | true =>
      refine .session_bind fun b b' hb => ?_
      rw [h.setup b b' hb]
      exact (h.communicate _ _).seq fun r => .pure _

/-- The exchanges of a key agreement come to the same. -/
theorem handshake (h : Pairs R) (handshake : Handshake κ) :
    Couples R (handshake.run (SessionM.communicate .handshake))
      (handshake.run (SessionM.communicate .handshake)) fun _ => R := by
  induction handshake with
  | done result =>
    cases result with
    | ok state => exact .pure state
    | error fault => exact .throw fault
  | send c next ih =>
    intro b b' hb
    obtain ⟨hout, hstill⟩ := h.communicate .handshake c b b' hb
    rw [run_handshake_send, run_handshake_send, ← hout]
    exact ih _ _ _ hstill

theorem withoutChannel (h : Pairs R) (fault : SecureMessagingFault) :
    Couples R (withoutChannel fault) (withoutChannel fault) fun _ => R := by
  refine .session_bind fun b b' hb => ?_
  rw [h.setup b b' hb]
  exact .ensure _ _

/-- An agreement that fails finds no channel to drop, and goes on without. One that comes to a state
takes it into use, and what that does to the relation is for the caller to say. -/
theorem agree (h : Pairs R) {S : Bench τ κ → Bench τ' κ → Prop} {handshake : Handshake κ}
    (hplain : ∀ b b', R b b' → b.session.channel = none ∧ b'.session.channel = none)
    (hstill : ∀ b b', R b b' → S b b')
    (hinstall : ∀ {state : κ} {b₀ b₁ : Bench τ κ},
      run (handshake.run (SessionM.communicate .handshake)) b₀ = (.ok state, b₁) →
      ∀ b b', R b b' → S (b.installChannel state) (b'.installChannel state)) :
    Couples R (agree handshake) (agree handshake) fun _ => S := by
  intro b b' hb
  obtain ⟨hout, hend⟩ := h.handshake handshake b b' hb
  rw [run_agree, run_agree]
  rcases hrun : run (handshake.run (SessionM.communicate .handshake)) b with ⟨fault | state, b₁⟩
  all_goals
    rcases hrun' : run (handshake.run (SessionM.communicate .handshake)) b' with
      ⟨fault' | state', b₁'⟩
    all_goals rw [hrun, hrun'] at hout hend
  · obtain rfl := Except.error.inj hout
    obtain ⟨hnone, hnone'⟩ := hplain b₁ b₁' hend
    dsimp only
    rw [clearChannel_of_channel_eq_none hnone, clearChannel_of_channel_eq_none hnone']
    exact ((h.withoutChannel fault).mono (fun _ _ hr => hr) fun _ => hstill) b₁ b₁' hend
  · exact nomatch hout
  · exact nomatch hout
  · obtain rfl := Except.ok.inj hout
    exact ⟨rfl, hinstall hrun b₁ b₁' hend⟩

end Pairs

end PgpCard.SessionM
