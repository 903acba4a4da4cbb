import PgpCard.Session.Operation

/-!
# `PgpCard.Cache`: one session kept for reuse

Bringing a session up takes several exchanges, so a caller may want the one it had
before. A `Cache` keeps at most one. `sessionFor` hands it out again when it is bound to
the same link, is still connected, may persist, and has the PIN asked for; asking without
a PIN accepts any. Otherwise it makes a new session and keeps that one instead.

Sessions and links are shared: a session that is no longer kept lives on with whoever
holds it, and several sessions may use one link. `Pool` is the whole of it, where a link
and a session are known by their number. A session is never removed, so a number always
means the same session.
-/

set_option autoImplicit false

namespace PgpCard

/-- A session in a pool, with the number of the link that it is bound to. -/
structure Member (κ : Type) where
  session : Session κ
  link : Nat
  journal : List Event := []

/-- A cache and everything that it shares with its users. -/
structure Pool (τ κ : Type) where
  /-- What new sessions are made with. -/
  setup : Setup κ
  links : List τ
  members : List (Member κ) := []
  /-- The number of the session that is kept. -/
  cached : Option Nat := none

namespace Session

variable {τ κ : Type} [Link τ] [Channel κ]

/-- The session may be handed out again to someone who asks with this PIN or without. -/
def isReusable (s : Session κ) (link : τ) (pin : Option Pin) : Bool :=
  s.isConnected link && s.isPersistent link && (pin.isNone || s.pin == pin)

end Session

namespace Pool

variable {τ κ : Type}

/-- A pool with these links and no sessions. -/
def new (setup : Setup κ) (links : List τ) : Pool τ κ := { setup, links }

/-- A member, and the link that it is bound to. -/
def bench? (p : Pool τ κ) (id : Nat) : Option (Member κ × τ) :=
  match p.members[id]? with
  | none => none
  | some m => (p.links[m.link]?).map fun l => (m, l)

/-- The kept session may be handed out for this link and PIN. -/
def cachedFor? [Link τ] [Channel κ] (p : Pool τ κ) (link : Nat) (pin : Option Pin) :
    Option Nat :=
  match p.cached with
  | none => none
  | some id =>
    match p.bench? id with
    | none => none
    | some (m, l) => if m.link = link ∧ m.session.isReusable l pin then some id else none

/-- The number of a session for a link and a PIN: the kept one where it may be reused, and
otherwise a new one, which is kept from then on. -/
def sessionFor [Link τ] [Channel κ] (p : Pool τ κ) (link : Nat) (pin : Option Pin) :
    Nat × Pool τ κ :=
  match p.cachedFor? link pin with
  | some id => (id, p)
  | none =>
    -- The session that was kept before lives on with those who hold it.
    let id := p.members.length
    (id, { p with
      members := p.members ++ [{ session := .new p.setup pin, link }]
      cached := some id })

/-- Keeps no session any more. Those who hold it still do. -/
def invalidate (p : Pool τ κ) : Pool τ κ := { p with cached := none }

/-- Does one thing with a session and its link. Nothing comes of a number that no session
has, or of a session whose link is not in the pool. -/
def within {α : Type} (p : Pool τ κ) (id : Nat) (step : SessionM τ κ α) :
    Option (Except Error α) × Pool τ κ :=
  match p.bench? id with
  | none => (none, p)
  | some (m, l) =>
    let (outcome, b) := step.start { session := m.session, link := l, journal := m.journal }
    (some outcome, { p with
      links := p.links.set m.link b.link
      members := p.members.set id { m with session := b.session, journal := b.journal } })

end Pool

end PgpCard
