import PgpCard.Cache
import PgpCard.Proofs.Session.Protection
import PgpCard.Simulator.ScriptedLink
import PgpCard.Simulator.ToyChannel

/-!
# `PgpCard.Proofs.Cache.Reuse`: a session in the hands of many

Whoever asks the cache may be handed a session that others have used before, and those still
hold it. So what is promised of a session has to hold in whatever order all of them use it.
`Move` lists what can happen to a pool, and `kept_run` is the rule: what every operation on a
session keeps, every run of the pool keeps.

`protected_iff_not_dropped` is about a session that was brought up under a configuration that
requires secure messaging. A command goes out protected exactly as long as no exchange before
has cost the session its channel, by a failure of secure messaging or by a lost card. After that
the session counts as connected, the cache even has one reason less not to hand it out, and what
is asked of it goes out bare, the PIN included (`verify_bare_after_refused_answer`).
-/

set_option autoImplicit false

namespace PgpCard.Pool

open Step

variable {τ κ : Type} [Link τ] [Channel κ]

/-- What can happen to a pool: someone asks the cache for a session, or tells it to keep none,
or asks something of a session, or a link was used in other ways. -/
inductive Move (τ κ : Type) where
  | requested (link : Nat) (pin : Option Pin)
  | invalidated
  | asked (id : Nat) (op : Operation κ)
  | linkChanged (link : Nat) (state : τ)

namespace Move

/-- The pool after a move, whatever the outcome of what was asked. -/
def apply (p : Pool τ κ) : Move τ κ → Pool τ κ
  | .requested link pin => (p.sessionFor link pin).2
  | .invalidated => p.invalidate
  | .asked id op => (p.within id op.perform).2
  | .linkChanged link state => { p with links := p.links.set link state }

/-- The pool after a list of moves. -/
def run (p : Pool τ κ) (moves : List (Move τ κ)) : Pool τ κ := moves.foldl apply p

/-- The move leaves the channel of this session to the session. -/
def LeavesChannel (id : Nat) : Move τ κ → Prop
  | .asked id' op => id' = id → op.leavesChannel = true
  | _ => True

end Move

/-! ### One session in a pool -/

section Pool

variable {p : Pool τ κ} {id : Nat} {m : Member κ}

omit [Channel κ] [Link τ] in
theorem bench?_eq_some_iff {l : τ} :
    p.bench? id = some (m, l) ↔ p.members[id]? = some m ∧ p.links[m.link]? = some l := by
  unfold bench?
  cases p.members[id]? with
  | none => simp
  | some m' =>
    constructor
    · intro h
      obtain ⟨l', hl, hpair⟩ := Option.map_eq_some_iff.mp h
      obtain ⟨rfl, rfl⟩ := Prod.mk.inj hpair
      exact ⟨rfl, hl⟩
    · rintro ⟨hm, hl⟩
      obtain rfl := Option.some.inj hm
      exact Option.map_eq_some_iff.mpr ⟨l, hl, rfl⟩

omit [Channel κ] [Link τ] in
theorem within_of_bench? {α : Type} {l : τ} (h : p.bench? id = some (m, l))
    (step : SessionM τ κ α) :
    let done := Step.run step { session := m.session, link := l, journal := m.journal }
    p.within id step = (some done.1, { p with
      links := p.links.set m.link done.2.link
      members := p.members.set id
        { m with session := done.2.session, journal := done.2.journal } }) := by
  unfold within
  rw [h]
  dsimp only
  rw [← start_eq_run]

/-- A request is answered with the kept session, and then nothing changes, or with a new one,
which is kept. -/
theorem sessionFor_cases (p : Pool τ κ) (link : Nat) (pin : Option Pin) :
    (∃ id, p.cachedFor? link pin = some id ∧ p.sessionFor link pin = (id, p)) ∨
      p.cachedFor? link pin = none ∧ p.sessionFor link pin = (p.members.length, { p with
        members := p.members ++ [{ session := .new p.setup pin, link }]
        cached := some p.members.length }) := by
  unfold sessionFor
  cases p.cachedFor? link pin with
  | none => exact Or.inr ⟨rfl, rfl⟩
  | some id => exact Or.inl ⟨id, rfl, rfl⟩

omit [Channel κ] [Link τ] in
/-- Something is done with a session and its link, or there is no such session. -/
theorem within_cases {α : Type} (p : Pool τ κ) (id : Nat) (step : SessionM τ κ α) :
    p.within id step = (none, p) ∨
      ∃ m l, p.members[id]? = some m ∧
        let done := Step.run step { session := m.session, link := l, journal := m.journal }
        p.within id step = (some done.1, { p with
          links := p.links.set m.link done.2.link
          members := p.members.set id
            { m with session := done.2.session, journal := done.2.journal } }) := by
  cases hbench : p.bench? id with
  | none =>
    left
    unfold within
    rw [hbench]
  | some found => exact Or.inr ⟨found.1, found.2, (bench?_eq_some_iff.mp hbench).1,
      within_of_bench? hbench step⟩

/-- A session changes by what it is asked, and by nothing else. -/
theorem member_apply (hm : p.members[id]? = some m) (move : Move τ κ) :
    (move.apply p).members[id]? = some m ∨
      ∃ op l, move = .asked id op ∧ p.bench? id = some (m, l) ∧
        let done := (Step.run op.perform { session := m.session, link := l, journal := m.journal }).2
        (move.apply p).members[id]? =
          some { m with session := done.session, journal := done.journal } := by
  have hlt := (List.getElem?_eq_some_iff.mp hm).1
  cases move with
  | requested link pin =>
    left
    show (p.sessionFor link pin).2.members[id]? = some m
    rcases sessionFor_cases p link pin with ⟨kept, -, hkept⟩ | ⟨-, hnew⟩
    · rw [hkept]
      exact hm
    · -- A new session comes behind those that are there.
      rw [hnew]
      exact (List.getElem?_append_left hlt).trans hm
  | invalidated => exact Or.inl hm
  | linkChanged link state => exact Or.inl hm
  | asked id' op =>
    show (p.within id' op.perform).2.members[id]? = some m ∨ _
    cases hbench : p.bench? id' with
    | none =>
      left
      unfold within
      rw [hbench]
      exact hm
    | some found =>
      obtain ⟨m', l⟩ := found
      by_cases hid : id' = id
      · subst hid
        obtain rfl : m' = m := Option.some.inj ((bench?_eq_some_iff.mp hbench).1.symm.trans hm)
        refine Or.inr ⟨op, l, rfl, hbench, ?_⟩
        show (p.within id' op.perform).2.members[id']? = _
        rw [within_of_bench? hbench]
        exact List.getElem?_set_self hlt
      · left
        rw [within_of_bench? hbench]
        exact (List.getElem?_set_ne hid).trans hm

end Pool

/-- What the operations on a session keep, a move keeps. -/
theorem kept_apply {I : Session κ → List Event → Prop} {id : Nat}
    (hkeeps : ∀ op : Operation κ, op.leavesChannel = true →
      Keeps (fun b : Bench τ κ => I b.session b.journal) op.perform)
    {move : Move τ κ} (hmove : move.LeavesChannel id) {p : Pool τ κ} {m : Member κ}
    (hm : p.members[id]? = some m) (hI : I m.session m.journal) :
    ∃ m', (move.apply p).members[id]? = some m' ∧ I m'.session m'.journal := by
  rcases member_apply hm move with hsame | ⟨op, l, rfl, -, hdone⟩
  · exact ⟨m, hsame, hI⟩
  · exact ⟨_, hdone, hkeeps op (hmove rfl) _ hI⟩

theorem kept_run {I : Session κ → List Event → Prop} {id : Nat}
    (hkeeps : ∀ op : Operation κ, op.leavesChannel = true →
      Keeps (fun b : Bench τ κ => I b.session b.journal) op.perform)
    (moves : List (Move τ κ)) (hmoves : ∀ move ∈ moves, move.LeavesChannel id) :
    ∀ {p : Pool τ κ} {m : Member κ}, p.members[id]? = some m → I m.session m.journal →
      ∃ m', (Move.run p moves).members[id]? = some m' ∧ I m'.session m'.journal := by
  induction moves with
  | nil =>
    intro p m hm hI
    exact ⟨m, hm, hI⟩
  | cons move moves ih =>
    intro p m hm hI
    obtain ⟨hmove, hmoves⟩ := List.forall_mem_cons.mp hmoves
    obtain ⟨m', hm', hI'⟩ := kept_apply hkeeps hmove hm hI
    exact ih hmoves hm' hI'

/-! ### Protection -/

/-- A session is brought up where secure messaging is required, by a provider whose channels
stay established as long as their work succeeds. Then the pool may be used in any way, as long
as nobody takes the channel from the session. Up to the next bring-up of the session, a command
goes to the link protected exactly when no exchange since the first one has cost the session its
channel. After such an exchange a command goes out as it is. -/
theorem protected_iff_not_dropped {P : κ → Prop} (hlasting : Channel.Lasting P) {p p₁ : Pool τ κ}
    {id : Nat} (hconnect : p.within id SessionM.connect = (some (.ok ()), p₁))
    (hrequire : ∀ m ∈ p.members[id]?, m.session.setup.config.require = true)
    (hyields : ∀ m ∈ p.members[id]?, ∀ provider a, m.session.setup.provider = some provider →
      (provider a).Yields P)
    (moves : List (Move τ κ)) (hmoves : ∀ move ∈ moves, move.LeavesChannel id) :
    ∃ m₁ m₂ events channel, p₁.members[id]? = some m₁ ∧
      (Move.run p₁ moves).members[id]? = some m₂ ∧ m₂.journal = events ++ m₁.journal ∧
      ∀ later framed tag earlier, events = later ++ .framed framed tag :: earlier →
        earlier.any Event.isOpened = false →
        (Protected κ channel framed tag earlier ↔ earlier.any Event.drops = false) ∧
        (earlier.any Event.drops = true → Bare framed tag earlier) := by
  rcases within_cases p id SessionM.connect with hnone | ⟨m, l, hm, hdone⟩
  · rw [hnone] at hconnect
    exact nomatch congrArg Prod.fst hconnect
  rw [hdone] at hconnect
  have hok := Option.some.inj (congrArg Prod.fst hconnect)
  obtain rfl := congrArg Prod.snd hconnect
  -- The bring-up has left a channel, and nothing has been noted since.
  obtain ⟨channel, state, hchannel, hstate⟩ :=
    SessionM.channel_of_connect_ok (Prod.ext hok rfl) (hrequire m hm) (hyields m hm)
  let m₁ : Member κ :=
    let b := (Step.run SessionM.connect { session := m.session, link := l, journal := m.journal }).2
    { m with session := b.session, journal := b.journal }
  let p₁ : Pool τ κ :=
    let b := (Step.run SessionM.connect { session := m.session, link := l, journal := m.journal }).2
    { p with links := p.links.set m.link b.link, members := p.members.set id m₁ }
  have hm₁ : p₁.members[id]? = some m₁ :=
    List.getElem?_set_self (List.getElem?_eq_some_iff.mp hm).1
  -- That is the invariant, with the journal from here on as its start.
  have hstart : GuardedSince P channel m₁.journal m₁.session m₁.journal :=
    ⟨[], rfl, trivial, fun _ => ⟨state, hchannel, hstate⟩⟩
  obtain ⟨m₂, hm₂, events, hjournal, hguarded⟩ :=
    kept_run (fun op hop => SessionM.guarded_perform hlasting hop) moves hmoves hm₁ hstart
  refine ⟨m₁, m₂, events, channel, hm₁, hm₂, hjournal, ?_⟩
  rintro later framed tag earlier rfl hopened
  have hentry := hguarded.secured.entry hopened
  cases hdrops : earlier.any Event.drops with
  | false =>
    rw [hdrops] at hentry
    exact ⟨⟨fun _ => rfl, fun _ => hentry⟩, nofun⟩
  | true =>
    rw [hdrops] at hentry
    refine ⟨⟨?_, nofun⟩, fun _ => hentry⟩
    -- A bare command is not tagged with a channel.
    rintro ⟨-, -, -, -, -, -, -, htag, -⟩
    obtain ⟨-, -, -, -, hnone⟩ := hentry
    exact nomatch htag.symm.trans hnone

section Toy

open Simulator

/-- The toy channel has keys. -/
def Keyed (channel : ToyChannel) : Prop := channel.inactive = false

/-- A toy channel does not lose its keys by working. -/
theorem keyed_lasting : Channel.Lasting Keyed where
  isEstablished {channel} h := by
    show (!channel.inactive) = true
    rw [h]
    rfl
  wrap {c framed channel channel'} h hwrap := by
    have hwrap : ToyChannel.wrap c channel = .ok framed channel' := hwrap
    unfold ToyChannel.wrap at hwrap
    split at hwrap
    · exact nomatch hwrap
    · obtain ⟨-, rfl⟩ := EStateM.Result.ok.inj hwrap
      exact h
  unwrap {r r' channel channel'} h hunwrap := by
    have hunwrap : ToyChannel.unwrap r channel = .ok r' channel' := hunwrap
    unfold ToyChannel.unwrap at hunwrap
    split at hunwrap
    · exact nomatch hunwrap
    · exact nomatch hunwrap
    · dsimp only at hunwrap
      split at hunwrap
      · obtain ⟨-, rfl⟩ := EStateM.Result.ok.inj hunwrap
        exact h
      · exact nomatch hunwrap

/-- A session that requires secure messaging, on a link to a card that takes part in the key
agreement, then answers one command without a checksum, and then takes what it gets. -/
def strictPool : Pool ScriptedLink ToyChannel :=
  let handshake : Command := { cla := 0x00, ins := 0x88, p1 := 0x01, p2 := 0x01 }
  let setup : Setup ToyChannel :=
    { config := { require := true }, provider := some (ToyChannel.provider [handshake] (.ok { key := 0x33 })) }
  let link : ScriptedLink :=
    { tokenType := some .unknown,
      turns := [.answer [0x90, 0x00],
        .answer [0x5F, 0x52, 0x04, 0x00, 0x05, 0x90, 0x00, 0xC0, 0x02, 0x80, 0x03, 0x90, 0x00],
        .answer [0x90, 0x00], .answer [0x90, 0x00], .answer [0x90, 0x00]] }
  ((Pool.new setup [link]).sessionFor 0 (some (.ofText "123456"))).2

/-- What the users of that session do: one has read the address, another is handed the session
and has the PIN verified. -/
def sharedUse : List (Move ScriptedLink ToyChannel) :=
  [.asked 0 .url, .requested 0 none, .asked 0 (.verifyOwnPin .other)]

theorem protected_iff_not_dropped_shared :
    ∃ p₁ m₁ m₂ events channel, strictPool.within 0 SessionM.connect = (some (.ok ()), p₁) ∧
      p₁.members[0]? = some m₁ ∧ (Move.run p₁ sharedUse).members[0]? = some m₂ ∧
      m₂.journal = events ++ m₁.journal ∧
      ∀ later framed tag earlier, events = later ++ .framed framed tag :: earlier →
        earlier.any Event.isOpened = false →
        (Protected ToyChannel channel framed tag earlier ↔ earlier.any Event.drops = false) ∧
        (earlier.any Event.drops = true → Bare framed tag earlier) := by
  rcases h : strictPool.within 0 SessionM.connect with ⟨_ | ⟨e | ⟨⟩⟩, p₁⟩
  · have hsome : (strictPool.within 0 SessionM.connect).1.isSome = true := by decide +kernel
    rw [h] at hsome
    exact nomatch hsome
  · have hok : (strictPool.within 0 SessionM.connect).1.all Except.isOk = true := by decide +kernel
    rw [h] at hok
    exact nomatch hok
  · obtain ⟨m₁, m₂, events, channel, hall⟩ := protected_iff_not_dropped keyed_lasting h
      (by rintro m ⟨⟩; rfl) (by rintro m ⟨⟩ provider a ⟨⟩; exact ToyChannel.provider_yields (by rfl) _ a) sharedUse
      (by
        refine List.forall_mem_cons.mpr ⟨fun _ => rfl, List.forall_mem_cons.mpr ⟨trivial, ?_⟩⟩
        exact List.forall_mem_singleton.mpr fun _ => rfl)
    exact ⟨p₁, m₁, m₂, events, channel, rfl, hall⟩

/-- An answer without a checksum makes one operation fail. After that the session is connected,
the cache hands it out, and the PIN goes to the link as it is. -/
theorem verify_bare_after_refused_answer :
    let connected := strictPool.within 0 SessionM.connect
    let failed := connected.2.within 0 SessionM.url
    let handed := failed.2.sessionFor 0 none
    let verified := handed.2.within handed.1 (SessionM.verifyOwnPin .other)
    (Channel.Lasting Keyed ∧ ∀ m ∈ strictPool.members[0]?,
      m.session.setup.config.require = true ∧ ∀ provider a,
        m.session.setup.provider = some provider → (provider a).Yields Keyed) ∧
    connected.1.any Except.isOk = true ∧ failed.1.all Except.isOk = false ∧ handed.1 = 0 ∧
      verified.1.any Except.isOk = true ∧
      (verified.2.links.map fun l => l.frames.head?) =
        [some [0x00, 0x20, 0x00, 0x82, 0x06, 0x31, 0x32, 0x33, 0x34, 0x35, 0x36]] := by
  refine ⟨⟨keyed_lasting, ?_⟩, by decide +kernel⟩
  rintro m ⟨⟩
  refine ⟨rfl, ?_⟩
  rintro provider a ⟨⟩
  exact ToyChannel.provider_yields (by rfl) _ a

end Toy

end PgpCard.Pool
