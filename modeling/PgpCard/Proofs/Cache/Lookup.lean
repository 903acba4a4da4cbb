import PgpCard.Proofs.Cache.Reuse

/-!
# `PgpCard.Proofs.Cache.Lookup`: which session the cache hands out

A request names a link and possibly a PIN. `Suits` lists what the kept session and its link must
be like for the request to be answered with it. The session, the link and the slot of the cache
belong to different owners, and whoever holds a session or uses a link may have changed it since
the last request. So all six conditions are about the pool as it stands.

`sessionFor_of_history` says that they are exactly the conditions, after whatever history of the
pool. It also says what the answer is worth. It is bound to the link and has the PIN, and it is
what the cache keeps from then on. Looking does not touch any session or link. An answer that is
not the kept session is a session that nobody has seen before.

That a number means one session only is the invariant behind this (`Orderly`). The cache never
keeps a number that no session has, and no move takes a session out of the pool.
-/

set_option autoImplicit false

namespace PgpCard.Pool

variable {τ κ : Type} [Link τ] [Channel κ]

/-- The kept session may be handed out to someone who asks for this link and PIN: -/
structure Suits (link : Nat) (pin : Option Pin) (m : Member κ) (l : τ) : Prop where
  /-- It works on that link, -/
  bound : m.link = link
  /-- it has been brought up, -/
  described : m.session.application.isSome = true
  /-- the link is still open, -/
  connected : Link.isConnected l = true
  /-- and may stay so, -/
  persistent : Link.persistent l = true
  /-- no channel with keys binds the session to its user, -/
  unprotected : m.session.isProtected = false
  /-- and no other PIN is asked for. -/
  pin : pin = none ∨ m.session.pin = pin

section Requests

variable {p : Pool τ κ} {link id : Nat} {pin : Option Pin}

/-- The test of the cache decides whether the session suits. -/
theorem isReusable_iff_suits (m : Member κ) (l : τ) :
    (m.link = link ∧ m.session.isReusable l pin = true) ↔ Suits link pin m l := by
  constructor
  · rintro ⟨hbound, hreusable⟩
    simp only [Session.isReusable, Session.isConnected, Session.isPersistent, Bool.and_eq_true,
      Bool.not_eq_true', Bool.or_eq_true, beq_iff_eq, Option.isNone_iff_eq_none] at hreusable
    obtain ⟨⟨⟨hdescribed, hconnected⟩, hpersistent, hunprotected⟩, hpin⟩ := hreusable
    exact ⟨hbound, hdescribed, hconnected, hpersistent, hunprotected, hpin⟩
  · rintro ⟨hbound, hdescribed, hconnected, hpersistent, hunprotected, hpin⟩
    refine ⟨hbound, ?_⟩
    simp only [Session.isReusable, Session.isConnected, Session.isPersistent, Bool.and_eq_true,
      Bool.not_eq_true', Bool.or_eq_true, beq_iff_eq, Option.isNone_iff_eq_none]
    exact ⟨⟨⟨hdescribed, hconnected⟩, hpersistent, hunprotected⟩, hpin⟩

/-- The cache finds the session that it keeps, and only if that one suits. -/
theorem cachedFor?_eq_some_iff :
    p.cachedFor? link pin = some id ↔ p.cached = some id ∧ ∃ m l, p.members[id]? = some m ∧
      p.links[link]? = some l ∧ Suits link pin m l := by
  unfold cachedFor?
  cases hcached : p.cached with
  | none => simp
  | some kept =>
    dsimp only
    cases hbench : p.bench? kept with
    | none =>
      refine ⟨nofun, ?_⟩
      -- A session on a link of the pool would have been found.
      rintro ⟨hid, m, l, hm, hl, hsuits⟩
      obtain rfl := Option.some.inj hid
      have hfound := bench?_eq_some_iff.mpr ⟨hm, hsuits.bound ▸ hl⟩
      exact nomatch hbench.symm.trans hfound
    | some found =>
      obtain ⟨m, l⟩ := found
      obtain ⟨hm, hl⟩ := bench?_eq_some_iff.mp hbench
      dsimp only
      constructor
      · intro h
        split at h
        · next hreusable =>
          obtain rfl := Option.some.inj h
          exact ⟨rfl, m, l, hm, hreusable.1 ▸ hl, (isReusable_iff_suits m l).mp hreusable⟩
        · exact nomatch h
      · rintro ⟨hid, m', l', hm', hl', hsuits⟩
        obtain rfl := Option.some.inj hid
        obtain rfl : m = m' := Option.some.inj (hm.symm.trans hm')
        obtain rfl : l = l' := by
          rw [hsuits.bound] at hl
          exact Option.some.inj (hl.symm.trans hl')
        exact if_pos ((isReusable_iff_suits m l).mpr hsuits)

end Requests

/-! ### What every history keeps -/

/-- The cache still makes sessions with this setup, and the one that it keeps is in the pool. -/
structure Orderly (setup : Setup κ) (p : Pool τ κ) : Prop where
  setup : p.setup = setup
  cached : ∀ id, p.cached = some id → id < p.members.length

omit [Link τ] [Channel κ] in
/-- What is done with one session neither adds a session nor removes one. -/
theorem within_frame {α : Type} (p : Pool τ κ) (id : Nat) (step : SessionM τ κ α) :
    (p.within id step).2.members.length = p.members.length ∧
      (p.within id step).2.cached = p.cached ∧ (p.within id step).2.setup = p.setup := by
  rcases within_cases p id step with hnone | ⟨m, l, -, hdone⟩
  · rw [hnone]
    exact ⟨rfl, rfl, rfl⟩
  · rw [hdone]
    exact ⟨List.length_set, rfl, rfl⟩

theorem orderly_apply {setup : Setup κ} {p : Pool τ κ} (h : Orderly setup p) (move : Move τ κ) :
    Orderly setup (move.apply p) ∧ p.members.length ≤ (move.apply p).members.length := by
  cases move with
  | requested link pin =>
    show Orderly setup (p.sessionFor link pin).2 ∧ _ ≤ (p.sessionFor link pin).2.members.length
    rcases sessionFor_cases p link pin with ⟨id, -, hkept⟩ | ⟨-, hnew⟩
    · rw [hkept]
      exact ⟨h, Nat.le_refl _⟩
    · rw [hnew]
      refine ⟨⟨h.setup, fun id hid => ?_⟩, by simp⟩
      obtain rfl : p.members.length = id := Option.some.inj hid
      simp
  | invalidated => exact ⟨⟨h.setup, nofun⟩, Nat.le_refl _⟩
  | asked id op =>
    show Orderly setup (p.within id op.perform).2 ∧ _ ≤ (p.within id op.perform).2.members.length
    obtain ⟨hlength, hcached, hsetup⟩ := within_frame p id op.perform
    refine ⟨⟨hsetup.trans h.setup, fun kept hkept => ?_⟩, Nat.le_of_eq hlength.symm⟩
    rw [hlength]
    exact h.cached kept (hcached ▸ hkept)
  | linkChanged link state => exact ⟨⟨h.setup, h.cached⟩, Nat.le_refl _⟩

theorem orderly_run {setup : Setup κ} (moves : List (Move τ κ)) : ∀ {p : Pool τ κ},
    Orderly setup p →
      Orderly setup (Move.run p moves) ∧ p.members.length ≤ (Move.run p moves).members.length := by
  induction moves with
  | nil =>
    intro p h
    exact ⟨h, Nat.le_refl _⟩
  | cons move moves ih =>
    intro p h
    obtain ⟨happly, hfirst⟩ := orderly_apply h move
    obtain ⟨hrun, hrest⟩ := ih happly
    exact ⟨hrun, Nat.le_trans hfirst hrest⟩

/-- What is handed out is in the pool. -/
theorem sessionFor_lt_length {setup : Setup κ} {p : Pool τ κ} (h : Orderly setup p) (link : Nat)
    (pin : Option Pin) :
    (p.sessionFor link pin).1 < (p.sessionFor link pin).2.members.length := by
  rcases sessionFor_cases p link pin with ⟨id, hfound, hkept⟩ | ⟨-, hnew⟩
  · rw [hkept]
    exact h.cached id (cachedFor?_eq_some_iff.mp hfound).1
  · rw [hnew]
    simp

/-- A session that was handed out at some time in a history is in the pool at its end. -/
theorem lt_length_of_handed_out {setup : Setup κ} {p : Pool τ κ} (h : Orderly setup p)
    {before after : List (Move τ κ)} {link : Nat} {pin : Option Pin} :
    ((Move.run p before).sessionFor link pin).1 <
      (Move.run p (before ++ .requested link pin :: after)).members.length := by
  have hbefore := (orderly_run before h).1
  have hrequest := (orderly_apply hbefore (.requested link pin)).1
  have hrun : Move.run p (before ++ .requested link pin :: after) =
      Move.run ((Move.run p before).sessionFor link pin).2 after := List.foldl_append
  rw [hrun]
  exact Nat.lt_of_lt_of_le (sessionFor_lt_length hbefore link pin) (orderly_run after hrequest).2

/-! ### The answer -/

/-- After any history of a pool, whoever asks for a session gets one that works on the link asked
for and has the PIN asked for, and this is the one that is kept afterwards. It is the one that
was kept before exactly when that one suits. Finding that out changes no link, so nothing is
sent, and no session. An answer other than the kept session was never handed out before: it knows
nothing of a card, and it is made with the setup of the cache. -/
theorem sessionFor_of_history (setup : Setup κ) (links : List τ) (moves : List (Move τ κ))
    (link : Nat) (pin : Option Pin) :
    let p := Move.run (Pool.new setup links) moves
    let id := (p.sessionFor link pin).1
    let p' := (p.sessionFor link pin).2
    ∃ m, p'.members[id]? = some m ∧ m.link = link ∧ (pin.isSome = true → m.session.pin = pin) ∧
      p'.cached = some id ∧
      (p.cached = some id ↔ ∃ kept m l, p.cached = some kept ∧ p.members[kept]? = some m ∧
        p.links[link]? = some l ∧ Suits link pin m l) ∧
      p'.links = p.links ∧
      (∀ (other : Nat) (m : Member κ), p.members[other]? = some m → p'.members[other]? = some m) ∧
      (p.cached ≠ some id →
        (∀ before link' pin' after, moves = before ++ .requested link' pin' :: after →
          ((Move.run (Pool.new setup links) before).sessionFor link' pin').1 ≠ id) ∧
        p.members[id]? = none ∧ m.session.Blank ∧ m.session.setup = setup ∧
        ∀ cls, m.session.pins.get cls = .unverified) := by
  intro p id p'
  have hnew : Orderly setup (Pool.new setup links) := ⟨rfl, nofun⟩
  have horderly : Orderly setup p := (orderly_run moves hnew).1
  rcases sessionFor_cases p link pin with ⟨kept, hfound, hkept⟩ | ⟨hnone, hfresh⟩
  · -- The kept session suits, and it is the answer.
    obtain rfl : id = kept := congrArg Prod.fst hkept
    have hp' : p' = p := congrArg Prod.snd hkept
    obtain ⟨hcached, m, l, hm, hl, hsuits⟩ := cachedFor?_eq_some_iff.mp hfound
    rw [hp']
    refine ⟨m, hm, hsuits.bound, fun hpin => ?_, hcached, ?_, rfl, fun _ m h => h,
      fun hother => absurd hcached hother⟩
    · rcases hsuits.pin with rfl | hpin
      · exact nomatch hpin
      · exact hpin
    · exact ⟨fun _ => ⟨id, m, l, hcached, hm, hl, hsuits⟩, fun _ => hcached⟩
  · -- The answer is a session at the end of the pool.
    have hid : id = p.members.length := congrArg Prod.fst hfresh
    have hp' : p' = { p with
        members := p.members ++ [{ session := .new p.setup pin, link }]
        cached := some p.members.length } := congrArg Prod.snd hfresh
    have hother : p.cached ≠ some id := by
      intro hcached
      have hlt := horderly.cached id hcached
      omega
    rw [hp', hid]
    refine ⟨{ session := .new p.setup pin, link }, List.getElem?_concat_length, rfl, fun _ => rfl,
      rfl, ?_, rfl, ?_, fun _ => ⟨?_, List.getElem?_eq_none (Nat.le_refl _), ?_⟩⟩
    · refine ⟨fun hcached => absurd hcached (hid ▸ hother), ?_⟩
      rintro ⟨kept, m, l, hcached, hm, hl, hsuits⟩
      have hfound := cachedFor?_eq_some_iff.mpr ⟨hcached, m, l, hm, hl, hsuits⟩
      exact nomatch hnone.symm.trans hfound
    · intro other m hm
      show (p.members ++ _)[other]? = some m
      rw [List.getElem?_append_left (List.getElem?_eq_some_iff.mp hm).1]
      exact hm
    · -- An earlier answer was in the pool by now.
      rintro before link' pin' after rfl
      exact Nat.ne_of_lt (lt_length_of_handed_out hnew)
    · exact ⟨⟨rfl, rfl, rfl, rfl⟩, horderly.setup, fun cls => by cases cls <;> rfl⟩

end PgpCard.Pool
