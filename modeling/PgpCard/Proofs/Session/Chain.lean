import PgpCard.Proofs.Link.Framing
import PgpCard.Proofs.Session.Course
import PgpCard.Simulator.ScriptedLink
import PgpCard.Simulator.ToyChannel

/-!
# `PgpCard.Proofs.Session.Chain`: how far a chain goes

The segments of a chain go out one by one, each of them only after the one before it got
`90 00`. So a chain ends in one of four ways, and `ChainCourse` has one constructor for each:
there is nothing to send, the last segment is answered, a segment before it gets another status
than `90 00`, or the exchange of a segment fails. Each constructor says which segments have gone
out by then.

Every chain takes one of these courses over every link (`exists_chainCourse`), and the course
decides what is sent and what comes of it (`ChainCourse.run_transmitChain`). What carries both
is that sending goes on behind acknowledged segments as if the chain began there,
`run_transmitSegments_append`.

`chain_ends_with_course` puts this together for valid segments, and adds what an exchange of the
session makes of a refused segment: an error with the same numbers, and no further frame.
-/

set_option autoImplicit false

namespace PgpCard

open Step Command

namespace Link

variable {τ : Type} [Link τ]

/-- The ways in which the sending of a chain can end, with the segments that go out. -/
inductive ChainCourse (chain : List Command) (link : τ) :
    List Command → Except Error ChainOutcome → Prop where
  | empty (hchain : chain = []) : ChainCourse chain link [] (.error .cannotTransmit)
  /-- The last segment is answered, with whatever status. -/
  | completed {front : List Command} {last : Command} {r : Response}
      (hchain : chain = front ++ [last]) (hfront : Acknowledged front link)
      (hlast : (run (transmitPlain last) (after front link)).1 = .ok r) :
      ChainCourse chain link chain (.ok (.completed r))
  /-- A segment before the last gets another status than `90 00`. -/
  | refused {front rest : List Command} {c : Command} {r : Response}
      (hchain : chain = front ++ c :: rest) (hrest : rest ≠ []) (hfront : Acknowledged front link)
      (hc : (run (transmitPlain c) (after front link)).1 = .ok r)
      (hrefused : r.isSuccess = false) :
      ChainCourse chain link (front ++ [c])
        (.ok (.aborted (front.length + 1) chain.length r.status))
  | failed {front rest : List Command} {c : Command} {e : Error}
      (hchain : chain = front ++ c :: rest) (hfront : Acknowledged front link)
      (hc : (run (transmitPlain c) (after front link)).1 = .error e) :
      ChainCourse chain link (front ++ [c]) (.error e)

variable {chain sent : List Command} {link : τ} {o : Except Error ChainOutcome}

/-- The course decides what comes of the chain, and where it leaves the link. -/
theorem ChainCourse.run_transmitChain (h : ChainCourse chain link sent o) :
    run (transmitChain chain) link = (o, after sent link) := by
  unfold transmitChain
  cases h with
  | empty hchain =>
    subst hchain
    rfl
  | @completed front last r hchain hfront hlast =>
    subst hchain
    rw [run_transmitSegments_append _ last [] hfront, after_append]
    exact run_bind_of_ok (run_transmitPlain_of_answer hlast)
  | @refused front rest c r hchain hrest hfront hc hrefused =>
    subst hchain
    obtain ⟨d, rest, rfl⟩ := List.exists_cons_of_ne_nil hrest
    rw [run_transmitSegments_append _ c (d :: rest) hfront, after_append, Nat.zero_add]
    refine (run_bind_of_ok (run_transmitPlain_of_answer hc)).trans ?_
    rw [if_neg (ne_true_of_eq_false hrefused)]
    rfl
  | @failed front rest c e hchain hfront hc =>
    subst hchain
    have hfailed : run (transmitPlain c) (after front link) =
        (.error e, after [c] (after front link)) := Prod.ext hc rfl
    rw [run_transmitSegments_append _ c rest hfront, after_append]
    -- The last segment is sent differently, so the rest is looked at as well.
    cases rest <;> exact run_bind_of_error hfailed

/-- The segments that go out are the first ones of the chain. -/
theorem ChainCourse.sent_isPrefix (h : ChainCourse chain link sent o) : sent <+: chain := by
  cases h with
  | empty hchain => exact List.nil_prefix
  | completed hchain hfront hlast => exact List.prefix_rfl
  | @refused front rest c r hchain hrest hfront hc hrefused => exact ⟨rest, by simp [hchain]⟩
  | @failed front rest c e hchain hfront hc => exact ⟨rest, by simp [hchain]⟩

theorem Acknowledged.nil : Acknowledged [] link := ⟨[], by simp, trivial⟩

theorem Acknowledged.cons {c : Command} {cs : List Command} {ack : Response}
    (hc : (run (transmitPlain c) link).1 = .ok ack) (hack : ack.isSuccess = true)
    (hcs : Acknowledged cs (after [c] link)) : Acknowledged (c :: cs) link := by
  obtain ⟨acks, hacks, hanswers⟩ := hcs
  exact ⟨ack :: acks, List.forall_mem_cons.mpr ⟨hack, hacks⟩, hc, hanswers⟩

/-- In every chain there is a segment up to which all are acknowledged, and which is the last one
or is not acknowledged itself. -/
theorem exists_acknowledged (hne : chain ≠ []) :
    ∀ link : τ, ∃ front c rest, chain = front ++ c :: rest ∧ Acknowledged front link ∧
      (rest = [] ∨
        ∀ r, (run (transmitPlain c) (after front link)).1 = .ok r → r.isSuccess = false) := by
  induction chain with
  | nil => exact absurd rfl hne
  | cons c cs ih =>
    intro link
    by_cases hack : ∃ r, (run (transmitPlain c) link).1 = .ok r ∧ r.isSuccess = true
    · obtain ⟨ack, hc, hack⟩ := hack
      by_cases hlast : cs = []
      · exact ⟨[], c, [], by rw [hlast]; rfl, .nil, Or.inl rfl⟩
      · obtain ⟨front, d, rest, rfl, hfront, hd⟩ := ih hlast (after [c] link)
        exact ⟨c :: front, d, rest, rfl, .cons hc hack hfront, hd⟩
    · refine ⟨[], c, cs, rfl, .nil, Or.inr fun r hr => ?_⟩
      exact Bool.eq_false_iff.mpr fun hok => hack ⟨r, hr, hok⟩

/-- Every chain takes one of the courses. -/
theorem exists_chainCourse (chain : List Command) (link : τ) :
    ∃ sent o, ChainCourse chain link sent o := by
  by_cases hne : chain = []
  · exact ⟨[], _, .empty hne⟩
  obtain ⟨front, c, rest, hchain, hfront, hend⟩ := exists_acknowledged hne link
  cases hc : (run (transmitPlain c) (after front link)).1 with
  | error e => exact ⟨_, _, .failed hchain hfront hc⟩
  | ok r =>
    by_cases hrest : rest = []
    · subst hrest
      exact ⟨_, _, .completed hchain hfront hc⟩
    · have hrefused : r.isSuccess = false := hend.resolve_left hrest r hc
      exact ⟨_, _, .refused hchain hrest hfront hc hrefused⟩

/-- The segments of a chain that was refused were answered, so they are valid. -/
theorem ChainCourse.check_of_aborted {step total : Nat} {status : StatusWord}
    (h : ChainCourse chain link sent (.ok (.aborted step total status))) :
    ∀ c ∈ sent, c.check = .ok () := by
  cases h with
  | @refused front rest c r hchain hrest hfront hc hrefused =>
    obtain ⟨acks, -, hanswers⟩ := hfront
    exact List.forall_mem_append.mpr ⟨check_of_answers hanswers,
      List.forall_mem_singleton.mpr (check_of_run_transmitPlain hc)⟩

end Link

namespace Bench

variable {τ κ : Type}

/-- The command as it goes to the link: protected, where a channel is in use. -/
def outgoing? [Channel κ] (b : Bench τ κ) (c : Command) : Option Command :=
  match b.session.channelInUse? with
  | none => some c
  | some channel =>
    match Channel.wrap c channel.state with
    | .ok framed _ => some framed
    | .error _ _ => none

/-- The session sends this command as a chain: the card takes chains but no extended lengths,
and the command does not fit a short frame. -/
structure Chains (b : Bench τ κ) (framed : Command) : Prop where
  noExtended : b.session.cardOrBaseline.extendedLength = false
  long : b.session.setup.commands.fitsShort framed = false
  chaining : b.session.cardOrBaseline.chaining = true

/-- A refused segment ends the exchange on the link. Nothing is collected behind it. -/
theorem Chains.onWire_of_aborted [Link τ] {b : Bench τ κ} {framed : Command} (h : b.Chains framed)
    {sent : List Command} {step total : Nat} {status : StatusWord}
    (hcourse : Link.ChainCourse (b.session.setup.commands.chain framed) b.link sent
      (.ok (.aborted step total status))) :
    b.onWire framed = (.error (.chainAborted step total status), Link.after sent b.link) := by
  have hframed : run (Link.transmitFramed b.session.setup.commands b.session.cardOrBaseline framed)
      b.link = (.error (.chainAborted step total status), Link.after sent b.link) := by
    unfold Link.transmitFramed
    rw [if_neg (ne_true_of_eq_false h.noExtended), if_neg (ne_true_of_eq_false h.long),
      if_pos h.chaining, run_bind_of_ok hcourse.run_transmitChain]
    rfl
  exact run_bind_of_error hframed

end Bench

namespace SessionM

open Link

variable {τ κ : Type} [Channel κ]

theorem Prepared.outgoing? {c framed : Command} {tag : Option Nat} {b b₁ : Bench τ κ}
    (h : Prepared c b framed tag b₁) : b.outgoing? c = some framed := by
  unfold Bench.outgoing?
  cases h with
  | plain huse => rw [huse]
  | wrapped huse hwrap =>
    rw [huse]
    dsimp only
    rw [hwrap]

variable [Link τ]

/-- An exchange that fails on the link fails with the same error, and leaves the link there. -/
theorem Course.of_onWire_error {c framed : Command} {o : Except Error Response} {b b' : Bench τ κ}
    (h : Course c b o b') (hout : b.outgoing? c = some framed) {e : Error} {link : τ}
    (hwire : b.onWire framed = (.error e, link)) : o = .error e ∧ b'.link = link := by
  have hsame : ∀ {framed' tag b₁}, Prepared c b framed' tag b₁ → framed' = framed :=
    fun hprep => Option.some.inj (hprep.outgoing?.symm.trans hout)
  cases h with
  | notWrapped huse hwrap =>
    -- Nothing goes out of a channel that refuses the command.
    unfold Bench.outgoing? at hout
    rw [huse] at hout
    dsimp only at hout
    rw [hwrap] at hout
    exact nomatch hout
  | @failed framed' tag b₁ e' link' hprep hwire' =>
    obtain rfl := hsame hprep
    obtain ⟨he, rfl⟩ := Prod.mk.inj (hwire'.symm.trans hwire)
    exact ⟨he, link_afterExchange _ _⟩
  | answered hprep hwire' huse =>
    obtain rfl := hsame hprep
    exact nomatch (Prod.mk.inj (hwire'.symm.trans hwire)).1
  | unwrapped hprep hwire' huse hunwrap =>
    obtain rfl := hsame hprep
    exact nomatch (Prod.mk.inj (hwire'.symm.trans hwire)).1
  | notUnwrapped hprep hwire' huse hunwrap =>
    obtain rfl := hsame hprep
    exact nomatch (Prod.mk.inj (hwire'.symm.trans hwire)).1

/-- The sending of a chain of valid segments ends in one of the four ways, and in which one is
decided by the answers of the link. The frames that go out are exactly those of the segments that
the course names, which are the first ones of the chain, and what comes of the chain is what the
course says. An exchange of the session that sends a command as a chain, protected or not, fails
after a refused segment with the numbers of that segment, and sends no further frame, also where
the status of the refused segment announces more bytes. -/
theorem chain_ends_with_course {chain : List Command} (hvalid : ∀ c ∈ chain, c.check = .ok ())
    (t : Tapped τ) :
    (∃ sent o, ChainCourse chain t sent o) ∧
    (∀ sent o, ChainCourse chain t sent o →
      (run (transmitChain chain) t).1 = o ∧ sent <+: chain ∧
      (run (transmitChain chain) t).2.frames = t.frames ++ sent.map encode) ∧
    (∀ (b : Bench (Tapped τ) κ) (purpose : Purpose) (c framed : Command),
      b.outgoing? c = some framed → b.Chains framed →
      ∀ sent step total status, ChainCourse (b.session.setup.commands.chain framed) b.link sent
          (.ok (.aborted step total status)) →
        ((communicate purpose c).start b).1 = .error (.chainAborted step total status) ∧
        ((communicate purpose c).start b).2.link.frames = b.link.frames ++ sent.map encode) := by
  refine ⟨exists_chainCourse chain t, ?_, ?_⟩
  · intro sent o hcourse
    rw [hcourse.run_transmitChain]
    exact ⟨rfl, hcourse.sent_isPrefix,
      frames_after_of_check fun c hc => hvalid c (hcourse.sent_isPrefix.subset hc)⟩
  · intro b purpose c framed hout hchains sent step total status hcourse
    obtain ⟨o, b', hexchange, hrun⟩ := run_communicate_eq purpose c b
    obtain ⟨rfl, hlink⟩ := hexchange.of_onWire_error hout (hchains.onWire_of_aborted hcourse)
    rw [start_eq_run, hrun]
    refine ⟨rfl, ?_⟩
    show b'.link.frames = _
    rw [hlink]
    exact frames_after_of_check hcourse.check_of_aborted

open Simulator in
/-- The second of three segments is refused with a status that announces more bytes, and so is the
first segment of a command that a channel has protected. -/
theorem chain_ends_with_course_refused :
    let segment (cla byte : UInt8) : Command :=
      { cla, ins := 0x2A, p1 := 0x80, p2 := 0x86, data := some [byte] }
    let chain := [segment 0x10 0xAA, segment 0x10 0xBB, segment 0x00 0xCC]
    let link (turns : List Turn) : Tapped ScriptedLink := ⟨{ connected := true, turns }, []⟩
    let t := link [.answer [0x90, 0x00], .answer [0x61, 0x05]]
    let session : Session ToyChannel := { Session.new {} none with
      card := some { chaining := true }, channel := some ⟨0, { key := 0x33 }⟩ }
    let b : Bench (Tapped ScriptedLink) ToyChannel :=
      { session, link := link [.answer [0x61, 0x05], .answer [0x90, 0x00]] }
    let c := Command.decipher (List.replicate 300 0x55)
    ((run (transmitChain chain) t).1 = .ok (.aborted 2 3 ⟨0x61, 0x05⟩) ∧
      (run (transmitChain chain) t).2.frames =
        [[0x10, 0x2A, 0x80, 0x86, 0x01, 0xAA], [0x10, 0x2A, 0x80, 0x86, 0x01, 0xBB]]) ∧
    ((communicate .direct c).start b).1 = .error (.chainAborted 1 2 ⟨0x61, 0x05⟩) ∧
      ((communicate .direct c).start b).2.link.frames.length = 1 := by
  intro segment chain link t session b c
  have hvalid : ∀ c ∈ chain, c.check = .ok () := by
    simp [chain, segment, check, nc, payload, maxExtendedNc]
  obtain ⟨-, hcourse, hexchange⟩ := @chain_ends_with_course _ ToyChannel _ _ chain hvalid t
  constructor
  · have hfirst : (run (transmitPlain (segment 0x10 0xAA)) t).1 = .ok ⟨[], .success⟩ := rfl
    have hchain : chain = [segment 0x10 0xAA] ++ segment 0x10 0xBB :: [segment 0x00 0xCC] := rfl
    have hanswer : (run (transmitPlain (segment 0x10 0xBB)) (after [segment 0x10 0xAA] t)).1 =
        .ok ⟨[], ⟨0x61, 0x05⟩⟩ := rfl
    obtain ⟨hout, -, hframes⟩ := hcourse _ _
      (.refused hchain (List.cons_ne_nil _ _) (.cons hfirst rfl .nil) hanswer rfl)
    exact ⟨hout, hframes⟩
  · let masked := ToyChannel.mask 0x33 c.payload
    let framed := { c with cla := 0x0C, data := some (masked ++ [ToyChannel.mac 0x33 masked]) }
    let first := framed.toShort.segment (framed.payload.take maxShortNc)
    let last := { framed.toShort with data := some (framed.payload.drop maxShortNc) }
    have hchain : Command.chain framed = [] ++ first :: [last] := by decide +kernel
    have hout : b.outgoing? c = some framed := by decide +kernel
    have hlong : Command.fitsShort framed = false := by decide +kernel
    have hcheck : first.check = .ok () := check_segment framed.toShort framed.payload
    have hanswer : (run (transmitPlain first) (after [] b.link)).1 = .ok ⟨[], ⟨0x61, 0x05⟩⟩ := by
      rw [run_transmitPlain_of_check_ok hcheck]
      rfl
    have hrefused : ChainCourse (Command.chain framed) b.link [first]
        (.ok (.aborted 1 2 ⟨0x61, 0x05⟩)) := by
      rw [hchain]
      exact .refused rfl (List.cons_ne_nil _ _) .nil hanswer rfl
    obtain ⟨ho, hframes⟩ := hexchange b .direct c framed hout ⟨rfl, hlong, rfl⟩ _ _ _ _ hrefused
    rw [hframes]
    exact ⟨ho, rfl⟩

end SessionM

end PgpCard
