import PgpCard.Proofs.Reader.Transcript
import PgpCard.Proofs.Session.BringUp

/-!
# `PgpCard.Proofs.Tool.Turns`: sessions that follow a plan

Some steps of a session ask the card for one thing after another, and go on only with the answers
that suit them. The list of the `Turn`s of such a step is its plan. What happens is a list of
dialogues that `Follows` the plan: it may break off early, but it leaves no turn out and makes
none twice, and each turn but the last one was answered in a way that the plan accepts.

`Plays` is the statement about a step over a slot, with what it assumes of the session and what it
leaves of it. Its rules are those of the building blocks of a step. `Plays.ask` is the rule for an
exchange: an answer that is not accepted has to end the step without another word.
-/

set_option autoImplicit false

namespace PgpCard

open Step Docked

/-! ### Plans -/

/-- Something to ask the card for, and the answers to go on with. -/
structure Turn where
  command : Command
  accepts : Response → Prop

/-- The dialogue is about this turn, and brought an answer to go on with. -/
structure Turn.Taken (turn : Turn) (d : Dialogue) : Prop where
  command : d.command = turn.command
  answer : ∃ r, d.outcome = .ok r ∧ turn.accepts r

/-- The dialogues are those of a plan, in order, up to one at which they break off. -/
inductive Follows : List Turn → List Dialogue → Prop where
  | nil (p : List Turn) : Follows p []
  | last (turn : Turn) (p : List Turn) (d : Dialogue) (h : d.command = turn.command) :
      Follows (turn :: p) [d]
  | next {turn : Turn} {d : Dialogue} {p : List Turn} {log : List Dialogue} (h : turn.Taken d)
      (rest : Follows p log) : Follows (turn :: p) (d :: log)

namespace Follows

variable {p q : List Turn} {log log' : List Dialogue}

/-- A plan that is broken off can have more turns. -/
theorem mono (h : Follows p log) (q : List Turn) : Follows (p ++ q) log := by
  induction h with
  | nil p => exact .nil _
  | last turn p d h => exact .last turn (p ++ q) d h
  | next h rest ih => exact .next h ih

/-- After a plan that is done there can come another one. -/
theorem append (h : List.Forall₂ Turn.Taken p log) (h' : Follows q log') :
    Follows (p ++ q) (log ++ log') := by
  induction h with
  | nil => exact h'
  | cons hturn rest ih => exact .next hturn ih

/-- Without a plan nothing is said. -/
theorem eq_nil (h : Follows [] log) : log = [] := by
  cases h
  rfl

/-- The commands are those of the plan. -/
theorem commands (h : Follows p log) : log.map (·.command) <+: p.map (·.command) := by
  induction h with
  | nil p => exact List.nil_prefix
  | last turn p d h => exact List.cons_prefix_cons.mpr ⟨h, List.nil_prefix⟩
  | next h rest ih => exact List.cons_prefix_cons.mpr ⟨h.command, ih⟩

/-- Only the last command can have gone without an answer. -/
theorem answered (h : Follows p log) : ∀ d ∈ log.dropLast, ∃ r, d.outcome = .ok r := by
  induction h with
  | nil p => exact nofun
  | last turn p d h => exact nofun
  | @next turn d p log h rest ih =>
    cases log with
    | nil => exact nofun
    | cons d' log =>
      obtain ⟨r, hr, -⟩ := h.answer
      exact List.forall_mem_cons.mpr ⟨⟨r, hr⟩, ih⟩

/-- Only the last frame of all can have gone without an answer. -/
theorem goesOn (h : Follows p log) (hsound : ∀ d ∈ log, d.Sound) :
    ∀ t ∈ (log.flatMap (·.sent)).dropLast, t.answered = true := by
  induction h with
  | nil p => exact nofun
  | last turn p d h =>
    rw [List.flatMap_singleton]
    exact (hsound d List.mem_cons_self).goesOn
  | @next turn d p log h rest ih =>
    obtain ⟨hd, hlog⟩ := List.forall_mem_cons.mp hsound
    obtain ⟨r, hr, -⟩ := h.answer
    rw [List.flatMap_cons, List.dropLast_append]
    split
    · exact hd.goesOn
    · exact List.forall_mem_append.mpr ⟨(hd.heard r hr).1, ih hlog⟩

/-- A command that is not in the first part of a plan comes after all of that part was done. The
induction is on that part. -/
theorem done_of_notMem : ∀ {p : List Turn} {front back : List Dialogue} {d : Dialogue},
    Follows (p ++ q) (front ++ d :: back) → d.command ∉ p.map (·.command) →
    ∃ done later, front = done ++ later ∧ List.Forall₂ Turn.Taken p done := by
  intro p
  induction p with
  | nil => exact fun _ _ => ⟨[], _, rfl, .nil⟩
  | cons turn p ih =>
    intro front back d h hnot
    have hne : d.command ≠ turn.command := fun heq => hnot (heq ▸ List.mem_cons_self)
    cases front with
    | nil =>
      -- The first command would be the one of the first turn.
      have hfirst : d.command = turn.command := (List.cons_prefix_cons.mp h.commands).1
      exact absurd hfirst hne
    | cons d' front =>
      -- There is more after this dialogue, so the plan goes on.
      obtain ⟨d'', log, hlog⟩ : ∃ d'' log, front ++ d :: back = d'' :: log :=
        List.exists_cons_of_ne_nil (by simp)
      rw [List.cons_append, List.cons_append, hlog] at h
      cases h with
      | next hturn rest =>
        rw [← hlog] at rest
        obtain ⟨done, later, rfl, hdone⟩ := ih rest fun hmem => hnot (List.mem_cons_of_mem _ hmem)
        exact ⟨d' :: done, later, rfl, .cons hturn hdone⟩

end Follows

/-! ### Steps -/

namespace Bench

variable {σ κ : Type}

/-- From the one to the other these dialogues were held. -/
structure Spoke (log : List Dialogue) (b b' : Bench (Docked (Watched σ)) κ) : Prop where
  went : Went (log.flatMap (·.sent)) b.link b'.link
  sound : ∀ d ∈ log, d.Sound

theorem Spoke.silent {b b' : Bench (Docked (Watched σ)) κ} (h : Went [] b.link b'.link) :
    Spoke [] b b' := ⟨h, nofun⟩

theorem Spoke.trans {log log' : List Dialogue} {b b' b'' : Bench (Docked (Watched σ)) κ}
    (h : Spoke log b b') (h' : Spoke log' b' b'') : Spoke (log ++ log') b b'' := by
  refine ⟨?_, List.forall_mem_append.mpr ⟨h.sound, h'.sound⟩⟩
  rw [List.flatMap_append]
  exact h.went.trans h'.went

end Bench

namespace SessionM

variable {σ κ α β : Type}

/-- Started on a session like this, the step follows the plan, and if it succeeds then it has done
all of it, and leaves the session like that. -/
def Plays (P : Session κ → Prop) (p : List Turn) (step : SessionM (Docked (Watched σ)) κ α)
    (Q : α → Session κ → Prop) : Prop :=
  ∀ b, b.link.Agrees → P b.session → ∃ log, b.Spoke log (run step b).2 ∧ Follows p log ∧
    ∀ a, (run step b).1 = .ok a → List.Forall₂ Turn.Taken p log ∧ Q a (run step b).2.session

namespace Plays

variable {P : Session κ → Prop} {p q : List Turn} {step : SessionM (Docked (Watched σ)) κ α}
  {next : α → SessionM (Docked (Watched σ)) κ β} {Q : α → Session κ → Prop}
  {R : β → Session κ → Prop}

theorem mono {P' : Session κ → Prop} {Q' : α → Session κ → Prop} (h : Plays P p step Q)
    (hP : ∀ s, P' s → P s) (hQ : ∀ a s, Q a s → Q' a s) : Plays P' p step Q' := by
  intro b hagrees hb
  obtain ⟨log, hspoke, hfollows, hok⟩ := h b hagrees (hP _ hb)
  refine ⟨log, hspoke, hfollows, fun a ha => ?_⟩
  obtain ⟨hdone, hsession⟩ := hok a ha
  exact ⟨hdone, hQ a _ hsession⟩

theorem pure {a : α} (h : ∀ s, P s → Q a s) :
    Plays (σ := σ) P [] (Pure.pure a) Q := by
  intro b hagrees hb
  refine ⟨[], .silent (.refl hagrees), .nil [], ?_⟩
  rintro _ ⟨⟩
  exact ⟨.nil, h _ hb⟩

theorem throw (p : List Turn) (e : Error) :
    Plays P p (MonadExcept.throw e : SessionM (Docked (Watched σ)) κ α) Q := by
  intro b hagrees hb
  exact ⟨[], .silent (.refl hagrees), .nil p, nofun⟩

theorem bind (h : Plays P p step Q) (hnext : ∀ a, Plays (Q a) q (next a) R) :
    Plays P (p ++ q) (step >>= next) R := by
  intro b hagrees hb
  obtain ⟨log, hspoke, hfollows, hok⟩ := h b hagrees hb
  rcases hrun : run step b with ⟨e | a, b'⟩
  all_goals rw [hrun] at hspoke hok
  · rw [run_bind_of_error hrun]
    exact ⟨log, hspoke, hfollows.mono q, nofun⟩
  · rw [run_bind_of_ok hrun]
    obtain ⟨hdone, hb'⟩ := hok a rfl
    obtain ⟨log', hspoke', hfollows', hok'⟩ := hnext a b' hspoke.went.agrees hb'
    refine ⟨log ++ log', hspoke.trans hspoke', .append hdone hfollows', fun r hr => ?_⟩
    obtain ⟨hdone', hend⟩ := hok' r hr
    exact ⟨List.rel_append hdone hdone', hend⟩

theorem session_bind {next : Session κ → SessionM (Docked (Watched σ)) κ α}
    (h : ∀ s, P s → Plays P p (next s) Q) : Plays P p (session >>= next) Q :=
  fun b hagrees hb => h b.session hb b hagrees hb

theorem link_bind {next : Docked (Watched σ) → SessionM (Docked (Watched σ)) κ α}
    (h : ∀ d, Plays P p (next d) Q) : Plays P p (link >>= next) Q :=
  fun b hagrees hb => h b.link b hagrees hb

/-- A change of the bench says nothing if it leaves the link as it is. -/
theorem change {f : Bench (Docked (Watched σ)) κ → Bench (Docked (Watched σ)) κ}
    {Q : Session κ → Prop} (hlink : ∀ b, (f b).link = b.link)
    (hsession : ∀ b, P b.session → Q (f b).session) :
    Plays P [] (SessionM.change f) fun _ => Q := by
  intro b hagrees hb
  have hsilent : Went [] b.link (f b).link := by
    rw [hlink]
    exact .refl hagrees
  exact ⟨[], .silent hsilent, .nil [], fun _ _ => ⟨.nil, hsession b hb⟩⟩

theorem andThen {Q' : α → Session κ → Prop}
    {f : Except Error α → Bench (Docked (Watched σ)) κ → Bench (Docked (Watched σ)) κ}
    (h : Plays P p step Q) (hlink : ∀ o b, (f o b).link = b.link)
    (hsession : ∀ a b, Q a b.session → Q' a (f (.ok a) b).session) :
    Plays P p (step.andThen f) Q' := by
  intro b hagrees hb
  obtain ⟨log, hspoke, hfollows, hok⟩ := h b hagrees hb
  rw [run_andThen]
  refine ⟨log, ⟨?_, hspoke.sound⟩, hfollows, fun a ha => ?_⟩
  · rw [hlink]
    exact hspoke.went
  · have ha : (run step b).1 = .ok a := ha
    obtain ⟨hdone, hend⟩ := hok a ha
    rw [ha]
    exact ⟨hdone, hsession a _ hend⟩

/-- What follows a condition can rely on it. -/
theorem ensure_bind {condition : Bool} {e : Error} {next : Unit → SessionM (Docked (Watched σ)) κ α}
    (h : condition = true → Plays P p (next ()) Q) :
    Plays P p (ensure condition e >>= next) Q := by
  cases condition with
  | true => exact h rfl
  | false => exact .throw p e

variable [Service σ] [Channel κ]

end Plays

variable [Service σ] [Channel κ]

/-- Without a channel an exchange is one dialogue, and an answer leaves the session as it was. -/
theorem communicate_spoke (purpose : Purpose) (c : Command) {b : Bench (Docked (Watched σ)) κ}
    (hagrees : b.link.Agrees) (hcommands : b.session.setup.commands = .standard)
    (hplain : b.session.channel = none) : ∃ ts o b', run (communicate purpose c) b = (o, b') ∧
      b.Spoke [⟨c, ts, o⟩] b' ∧ ∀ r, o = .ok r → b'.session = b.session := by
  obtain ⟨o, b', hcourse, hrun⟩ := run_communicate_eq purpose c b
  have hnone := channelInUse?_of_channel_eq_none hplain
  obtain ⟨link, hwire, rfl⟩ := hcourse.eq_of_plain hnone
  have hwire : run (Link.exchangePlain b.session.setup.commands b.session.setup.config.maxRounds
      b.session.cardOrBaseline c) b.link = (o, link) := hwire
  rw [hcommands] at hwire
  obtain ⟨ts, hwent, hsound⟩ := Link.exchangePlain_sound _ _ c hagrees hwire
  refine ⟨ts, o, _, hrun, ⟨?_, List.forall_mem_singleton.mpr hsound⟩, ?_⟩
  · rw [List.flatMap_singleton]
    show Went ts b.link (afterExchange o _).link
    rw [link_afterExchange]
    exact hwent
  · rintro r rfl
    rfl

/-- The card is asked for one thing. -/
theorem Plays.ask {P : Session κ → Prop} {p : List Turn} {c : Command} {accepts : Response → Prop}
    {purpose : Purpose} {next : Response → SessionM (Docked (Watched σ)) κ α}
    {Q : α → Session κ → Prop} (hcommands : ∀ s, P s → s.setup.commands = .standard)
    (hplain : ∀ s, P s → s.channel = none)
    (haccept : ∀ r, accepts r → Plays P p (next r) Q)
    (hreject : ∀ r, ¬accepts r → Plays P [] (next r) fun _ _ => False) :
    Plays P (⟨c, accepts⟩ :: p) (communicate purpose c >>= next) Q := by
  intro b hagrees hb
  obtain ⟨ts, o, b', hrun, hspoke, hsession⟩ :=
    communicate_spoke purpose c hagrees (hcommands _ hb) (hplain _ hb)
  cases o with
  | error e =>
    rw [run_bind_of_error hrun]
    exact ⟨_, hspoke, .last _ p _ rfl, nofun⟩
  | ok r =>
    rw [run_bind_of_ok hrun]
    -- The answer itself is all that the session goes by.
    have hb' : P b'.session := hsession r rfl ▸ hb
    by_cases haccepts : accepts r
    · obtain ⟨log, hspoke', hfollows, hok⟩ := haccept r haccepts b' hspoke.went.agrees hb'
      have htaken : Turn.Taken ⟨c, accepts⟩ ⟨c, ts, .ok r⟩ := ⟨rfl, r, rfl, haccepts⟩
      refine ⟨_ :: log, hspoke.trans hspoke', .next htaken hfollows, fun a ha => ?_⟩
      obtain ⟨hdone, hend⟩ := hok a ha
      exact ⟨.cons htaken hdone, hend⟩
    · -- The dialogue is the last one, and the step fails.
      obtain ⟨log, hspoke', hfollows, hok⟩ := hreject r haccepts b' hspoke.went.agrees hb'
      obtain rfl := hfollows.eq_nil
      exact ⟨_, hspoke.trans hspoke', .last _ p _ rfl, fun a ha => absurd (hok a ha).2 id⟩

end SessionM

end PgpCard
