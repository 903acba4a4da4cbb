import PgpCard.Proofs.Cache.Lookup
import PgpCard.Proofs.Session.Loss

/-!
# `PgpCard.Proofs.Cache.Staleness`: what a session from the cache may not know

When an exchange finds the card without its state, the session that had the exchange forgets
the card. Other sessions on the same link do not learn of it. If the cache keeps one of them and
the link is still open, or open again, then a request is answered with a session that counts as
connected and has its PIN verified, with a card that has forgotten all about it
(`sessionFor_hands_out_stale_session`).

`lost_iff_lost_by_other_of_reused` says how far the answers of the cache can be trusted. Since
the kept session was given its descriptors, the card may have been lost. But if it was, then
in an exchange of another session.
-/

set_option autoImplicit false

namespace PgpCard.Pool

open Step

variable {τ κ : Type}

/-- From the one to the other the link had an exchange that found the card without its state. -/
def LostSince (l l' : Tapped τ) : Prop :=
  (l'.exchanges.drop l.exchanges.length).any Tapped.loses = true

/-- An exchange that this session had over this link, in the course of these moves, has found
the card without its state. -/
def Lost [Link τ] [Channel κ] (p : Pool (Tapped τ) κ) (moves : List (Move (Tapped τ) κ))
    (id link : Nat) : Prop :=
  ∃ before op after l l', moves = before ++ .asked id op :: after ∧
    (Move.run p before).links[link]? = some l ∧
    (Move.run p (before ++ [.asked id op])).links[link]? = some l' ∧ LostSince l l'

namespace Move

variable [Link τ] [Channel κ]

/-- The move may give this session descriptors. -/
def Describes (p : Pool τ κ) (id : Nat) : Move τ κ → Prop
  | .asked id' op => id' = id ∧ ∃ m l, p.bench? id = some (m, l) ∧
    op.Describes { session := m.session, link := l, journal := m.journal }
  | _ => False

/-- None of the moves gives this session descriptors. -/
def Leave (id : Nat) : Pool τ κ → List (Move τ κ) → Prop
  | _, [] => True
  | p, move :: moves => ¬ move.Describes p id ∧ Leave id (move.apply p) moves

end Move

/-- The pool does not have this session, or has it without descriptors. -/
def Undescribed (p : Pool τ κ) (id : Nat) : Prop :=
  ∀ m, p.members[id]? = some m → m.session.application = none

section Runs

variable [Link τ] [Channel κ] {p : Pool τ κ} {id : Nat}

theorem leave_append (before after : List (Move τ κ)) : ∀ {p : Pool τ κ},
    Move.Leave id p (before ++ after) → Move.Leave id (Move.run p before) after := by
  induction before with
  | nil => exact fun h => h
  | cons move before ih => exact fun h => ih h.2

/-- None of the moves gives the session descriptors, or there is a last one that may. -/
theorem leave_or_last (moves : List (Move τ κ)) : ∀ p : Pool τ κ, Move.Leave id p moves ∨
    ∃ before op rest, moves = before ++ .asked id op :: rest ∧
      Move.Describes (Move.run p before) id (.asked id op) ∧
      Move.Leave id (Move.run p (before ++ [.asked id op])) rest := by
  induction moves with
  | nil => exact fun _ => Or.inl trivial
  | cons move moves ih =>
    intro p
    rcases ih (move.apply p) with hleave | ⟨before, op, rest, rfl, hlast⟩
    · by_cases hdescribes : move.Describes p id
      · cases move with
        | asked id' op =>
          obtain rfl : id' = id := hdescribes.1
          exact Or.inr ⟨[], op, moves, rfl, hdescribes, hleave⟩
        | _ => exact hdescribes.elim
      · exact Or.inl ⟨hdescribes, hleave⟩
    · exact Or.inr ⟨move :: before, op, rest, rfl, hlast⟩

/-- A session that was not there before is new, and has no descriptors. -/
theorem undescribed_of_new (hnone : p.members[id]? = none) (move : Move τ κ) :
    Undescribed (move.apply p) id := by
  intro m hm
  have hle : p.members.length ≤ id := List.getElem?_eq_none_iff.mp hnone
  cases move with
  | requested link pin =>
    change (p.sessionFor link pin).2.members[id]? = some m at hm
    rcases sessionFor_cases p link pin with ⟨kept, -, hkept⟩ | ⟨-, hnew⟩
    · rw [hkept] at hm
      exact nomatch hnone.symm.trans hm
    · rw [hnew] at hm
      obtain rfl := List.mem_singleton.mp (List.mem_of_getElem?
        ((List.getElem?_append_right hle).symm.trans hm))
      rfl
  | asked id' op =>
    have hlength : (p.within id' op.perform).2.members.length = p.members.length :=
      (within_frame p id' op.perform).1
    have hgone := List.getElem?_eq_none (hlength.symm ▸ hle)
    exact nomatch hgone.symm.trans hm
  | _ => exact nomatch hnone.symm.trans hm

/-- A session without descriptors gets none by a move that gives it none. -/
theorem undescribed_apply {move : Move τ κ} (hmove : ¬ move.Describes p id)
    (h : Undescribed p id) : Undescribed (move.apply p) id := by
  cases hm : p.members[id]? with
  | none => exact undescribed_of_new hm move
  | some m =>
    intro m' hm'
    rcases member_apply hm move with hsame | ⟨op, l, rfl, hbench, hdone⟩
    · obtain rfl := Option.some.inj (hsame.symm.trans hm')
      exact h m hm
    · have hop : ¬ op.Describes { session := m.session, link := l, journal := m.journal } :=
        fun hdescribes => hmove ⟨rfl, m, l, hbench, hdescribes⟩
      obtain rfl := Option.some.inj (hdone.symm.trans hm')
      exact SessionM.undescribed_perform hop (h m hm)

theorem undescribed_run (moves : List (Move τ κ)) : ∀ {p : Pool τ κ},
    Move.Leave id p moves → Undescribed p id → Undescribed (Move.run p moves) id := by
  induction moves with
  | nil => exact fun _ h => h
  | cons move moves ih => exact fun hleave h => ih hleave.2 (undescribed_apply hleave.1 h)

/-- A session that the cache hands out again has descriptors. -/
theorem not_undescribed_of_reused {setup : Setup κ} (horderly : Orderly setup p)
    (hcached : p.cached = some id) {link : Nat} {pin : Option Pin}
    (hreused : (p.sessionFor link pin).1 = id) : ¬ Undescribed p id := by
  intro h
  rcases sessionFor_cases p link pin with ⟨found, hfound, hkept⟩ | ⟨-, hnew⟩
  · rw [hkept] at hreused
    obtain rfl : found = id := hreused
    obtain ⟨-, m, l, hm, -, hsuits⟩ := cachedFor?_eq_some_iff.mp hfound
    have hdescribed := hsuits.described
    rw [h m hm] at hdescribed
    exact nomatch hdescribed
  · -- A new session has a number that the cache did not keep.
    rw [hnew] at hreused
    exact absurd hreused (Nat.ne_of_gt (horderly.cached id hcached))

end Runs

section Losses

variable [Link τ] [Channel κ]

/-- An operation that has found the card without its state leaves no descriptors. -/
theorem application_of_lostSince (op : Operation κ) {b : Bench (Tapped τ) κ}
    (hlost : LostSince b.link (run op.perform b).2.link) :
    (run op.perform b).2.session.application = none := by
  have htraced : ∃ events exchanges, Bench.Traced events exchanges b (run op.perform b).2 := by
    rcases SessionM.perform_told op b with ⟨events, exchanges, htraced, -⟩ | ⟨e, -, -, htraced⟩
    · exact ⟨events, exchanges, htraced⟩
    · exact ⟨[], [], htraced⟩
  obtain ⟨events, exchanges, htraced⟩ := htraced
  obtain ⟨events', hforgot⟩ := SessionM.perform_forgets op b
  -- The tap and the journal tell of the same losses.
  obtain rfl : events' = events :=
    List.append_cancel_right (hforgot.journal.symm.trans htraced.journal)
  have hloses : exchanges.any Tapped.loses = true := by
    rw [LostSince, htraced.tap, List.drop_left] at hlost
    exact hlost
  exact (hforgot.session (htraced.counted.symm.trans hloses)).1

/-- A session that has found the card without its state has no descriptors right after that. -/
theorem undescribed_of_lost {p : Pool (Tapped τ) κ} {id link : Nat} {op : Operation κ}
    {l l' : Tapped τ} (hl : p.links[link]? = some l)
    (hl' : (Move.apply p (.asked id op)).links[link]? = some l') (hlost : LostSince l l') :
    Undescribed (Move.apply p (.asked id op)) id := by
  -- The link has changed, so the session has used it.
  have hchanged : (p.within id op.perform).2.links[link]? ≠ some l := by
    intro hsame
    obtain rfl : l' = l := Option.some.inj (hl'.symm.trans hsame)
    rw [LostSince, List.drop_length] at hlost
    exact nomatch hlost
  change (p.within id op.perform).2.links[link]? = some l' at hl'
  show Undescribed (p.within id op.perform).2 id
  cases hbench : p.bench? id with
  | none =>
    unfold within at hchanged
    rw [hbench] at hchanged
    exact absurd hl hchanged
  | some found =>
    obtain ⟨m, l₀⟩ := found
    obtain ⟨hm, hl₀⟩ := bench?_eq_some_iff.mp hbench
    rw [within_of_bench? hbench] at hchanged hl' ⊢
    by_cases hlink : m.link = link
    · subst hlink
      obtain rfl : l₀ = l := Option.some.inj (hl₀.symm.trans hl)
      have hdone := hl'.symm.trans (List.getElem?_set_self (List.getElem?_eq_some_iff.mp hl).1)
      obtain rfl := Option.some.inj hdone
      intro m' hm'
      have hlt := (List.getElem?_eq_some_iff.mp hm).1
      obtain rfl := Option.some.inj ((List.getElem?_set_self hlt).symm.trans hm')
      exact application_of_lostSince op hlost
    · exact absurd ((List.getElem?_set_ne hlink).trans hl) hchanged

/-- A session that is left as it is after an operation, and has lost the card in it or since, has
no descriptors at the end. -/
theorem undescribed_of_lost_since {p : Pool (Tapped τ) κ} {id link : Nat} {op : Operation κ}
    {rest : List (Move (Tapped τ) κ)} (hleave : Move.Leave id (Move.apply p (.asked id op)) rest)
    (hlost : Lost p (.asked id op :: rest) id link) :
    Undescribed (Move.run p (.asked id op :: rest)) id := by
  obtain ⟨first, op', last, l, l', hmoves, hl, hl', hlost⟩ := hlost
  have hrun : ∀ moves, Move.run p (first ++ moves) = Move.run (Move.run p first) moves :=
    fun moves => List.foldl_append
  rw [hrun] at hl'
  have hlast : Move.Leave id (Move.apply (Move.run p first) (.asked id op')) last := by
    cases first with
    | nil =>
      obtain ⟨hhead, rfl⟩ := List.cons.inj hmoves
      obtain ⟨-, rfl⟩ := Move.asked.inj hhead
      exact hleave
    | cons move first =>
      obtain ⟨rfl, rfl⟩ := List.cons.inj hmoves
      exact (leave_append first _ hleave).2
  rw [hmoves, hrun]
  exact undescribed_run last hlast (undescribed_of_lost hl hl' hlost)

/-- Whatever has happened to a pool, if the cache answers a request with the session from before,
then the session was given its descriptors at some time, and has been left with them since.
And if since then, or since any later operation of this session, an exchange over its link has
found the card without its state, then an exchange of another session has. -/
theorem lost_iff_lost_by_other_of_reused (setup : Setup κ) (links : List (Tapped τ))
    (moves : List (Move (Tapped τ) κ)) (id link : Nat) (pin : Option Pin) :
    let p := Move.run (Pool.new setup links)
    (p moves).cached = some id → ((p moves).sessionFor link pin).1 = id →
    (∃ before op rest, moves = before ++ .asked id op :: rest ∧
      Move.Describes (p before) id (.asked id op) ∧
      Move.Leave id (p (before ++ [.asked id op])) rest) ∧
    ∀ before op rest, moves = before ++ .asked id op :: rest →
      Move.Leave id (p (before ++ [.asked id op])) rest →
      ((∃ user, Lost (p before) (.asked id op :: rest) user link) ↔
        ∃ user, user ≠ id ∧ Lost (p before) (.asked id op :: rest) user link) := by
  intro p hcached hreused
  have hnew : Orderly setup (Pool.new setup links) := ⟨rfl, nofun⟩
  have hdescribed : ¬ Undescribed (p moves) id :=
    not_undescribed_of_reused (orderly_run moves hnew).1 hcached hreused
  refine ⟨?given, ?lost⟩
  case given =>
    refine (leave_or_last moves (Pool.new setup links)).resolve_left fun hleave => ?_
    have hempty : Undescribed (Pool.new setup links) id := fun _ hm =>
      (List.not_mem_nil (List.mem_of_getElem? hm)).elim
    exact hdescribed (undescribed_run moves hleave hempty)
  case lost =>
    rintro before op rest rfl hleave
    refine ⟨?_, fun ⟨user, _, hlost⟩ => ⟨user, hlost⟩⟩
    rintro ⟨user, hlost⟩
    refine ⟨user, ?_, hlost⟩
    -- After a loss of its own the session would not have been handed out.
    rintro rfl
    have hrun : p (before ++ .asked user op :: rest) =
        Move.run (p before) (.asked user op :: rest) := List.foldl_append
    have hstart : p (before ++ [.asked user op]) = Move.apply (p before) (.asked user op) :=
      List.foldl_append
    rw [hstart] at hleave
    rw [hrun] at hdescribed
    exact hdescribed (undescribed_of_lost_since hleave hlost)

end Losses

section Shared

open Simulator

/-- A cache and one link. The card answers two bring-ups and a verification, and is reset in the
exchange after that, which leaves the link open. -/
def sharedPool : Pool (Tapped ScriptedLink) ToyChannel :=
  let described : Bytes := [0x5F, 0x52, 0x04, 0x00, 0x05, 0x90, 0x00, 0x90, 0x00]
  let link : ScriptedLink :=
    { tokenType := some .unknown,
      turns := [.answer [0x90, 0x00], .answer described, .answer [0x90, 0x00], .answer described,
        .answer [0x90, 0x00], .failure (.link .cardReset) false] }
  Pool.new {} [⟨link, []⟩]

/-- Two users with different PINs have asked for a session each. The first one has brought his
session up, and the cache keeps that of the second one. -/
def bothServed : List (Move (Tapped ScriptedLink) ToyChannel) :=
  [.requested 0 (some (.ofText "123456")), .asked 0 .connect, .requested 0 (some (.ofText "654321"))]

/-- The second user has had the PIN verified, and then the first one meets the reset. -/
def resetForFirst : List (Move (Tapped ScriptedLink) ToyChannel) :=
  [.asked 1 (.verifyOwnPin .other), .asked 0 .url]

/-- The session of the second user is handed out although the card was reset. So another session
has met the reset. -/
theorem lost_by_other_in_shared_pool :
    let p := Move.run sharedPool
    let moves := bothServed ++ .asked 1 .connect :: resetForFirst
    (p moves).cached = some 1 ∧ ((p moves).sessionFor 0 none).1 = 1 ∧
      ∃ user, user ≠ 1 ∧ Lost (p bothServed) (.asked 1 .connect :: resetForFirst) user 0 := by
  intro p moves
  have hcached : (p moves).cached = some 1 := by decide +kernel
  have hreused : ((p moves).sessionFor 0 none).1 = 1 := by decide +kernel
  have hleave : Move.Leave 1 (p (bothServed ++ [.asked 1 .connect])) resetForFirst := by
    refine ⟨?_, ?_, trivial⟩
    · rintro ⟨-, m, l, -, hdescribes⟩
      exact hdescribes
    · rintro ⟨hother, -⟩
      exact nomatch hother
  have hlost : Lost (p bothServed) (.asked 1 .connect :: resetForFirst) 0 0 := by
    let first : List (Move (Tapped ScriptedLink) ToyChannel) :=
      [.asked 1 .connect, .asked 1 (.verifyOwnPin .other)]
    obtain ⟨l, hl⟩ : ∃ l, (Move.run (p bothServed) first).links[0]? = some l :=
      Option.isSome_iff_exists.mp (by decide +kernel)
    obtain ⟨l', hl'⟩ : ∃ l', (Move.run (p bothServed) (first ++ [.asked 0 .url])).links[0]? = some l' :=
      Option.isSome_iff_exists.mp (by decide +kernel)
    let exchanges (p : Pool (Tapped ScriptedLink) ToyChannel) :=
      (p.links[0]?.map Tapped.exchanges).getD []
    have hany : ((exchanges (Move.run (p bothServed) (first ++ [.asked 0 .url]))).drop
        (exchanges (Move.run (p bothServed) first)).length).any Tapped.loses = true := by
      decide +kernel
    simp only [exchanges, hl, hl'] at hany
    exact ⟨first, .url, [], l, l', rfl, hl, hl', hany⟩
  obtain ⟨-, hiff⟩ := lost_iff_lost_by_other_of_reused {} _ moves 1 0 none hcached hreused
  exact ⟨hcached, hreused, (hiff bothServed .connect resetForFirst rfl hleave).mp ⟨0, hlost⟩⟩

/-- The card was reset after the second session was brought up. Still the cache hands that
session out, connected and with its PIN verified. -/
theorem sessionFor_hands_out_stale_session :
    let p := Move.run sharedPool bothServed
    let p₁ := Move.run p [.asked 1 .connect]
    let p₂ := Move.run p₁ resetForFirst
    let exchanges (p : Pool (Tapped ScriptedLink) ToyChannel) := p.links.flatMap Tapped.exchanges
    (exchanges p₁).any Tapped.loses = false ∧ (exchanges p₂).any Tapped.loses = true ∧
      p₂.cached = some 1 ∧ (p₂.sessionFor 0 none).1 = 1 ∧
      (p₂.members[1]?.any fun m =>
        m.session.application.isSome && (m.session.pins.get .other).isVerified) = true := by
  decide +kernel

end Shared

end PgpCard.Pool
