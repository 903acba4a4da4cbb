import PgpCard.Proofs.Apdu.Encoding
import PgpCard.Proofs.Link.Collecting
import PgpCard.Proofs.Session.Course
import PgpCard.Simulator.ScriptedLink
import PgpCard.Simulator.ToyChannel

/-!
# `PgpCard.Proofs.Session.Reassembly`: one answer out of many parts

A card can answer a command in parts, each of which announces a further one by SW1 `61`.
`Delivers` says that it does so, as far as the session goes along with it: `front` are the
parts that announce a further one and are followed, and `last` is the part after them.

`communicate_reassembles` says what the session makes of that. The caller sees one answer, with
all payloads and the last status, or the limit when that is used up. How the card has cut the
payload does not show. No card can keep the session busy for longer than the limit allows.
-/

set_option autoImplicit false

namespace PgpCard

open Step Command Link

namespace Bench

section Parts

variable {τ κ : Type} (b : Bench τ κ)

/-- The commands that go to the link for one logical command of the session. -/
def framing (c : Command) : List Command :=
  Link.framing b.session.setup.commands b.session.cardOrBaseline c

/-- The command that fetches what a part announces. -/
def fetching (part : Response) : Command :=
  b.session.setup.commands.getResponse part.status.sw2

/-- The card answers a command in these parts, the first of them to the last of its frames. -/
structure Delivers [Link τ] (c : Command) (front : List Response) (last : Response) : Prop where
  announced : ∀ part ∈ front, part.status.sw1 = 0x61
  within : front.length ≤ b.session.setup.config.maxRounds
  /-- The frames before the last one of the command were acknowledged. -/
  answered : ∃ acks : List Response, (∀ ack ∈ acks, ack.isSuccess = true) ∧
    Answers (b.framing c ++ front.map b.fetching) (acks ++ (front ++ [last])) b.link

end Parts

variable {τ κ : Type} [Link τ] {b : Bench τ κ} {c : Command} {front : List Response}
  {last : Response}

/-- What the link brings is collected from the last part on, with the payloads of the others in
front. -/
theorem Delivers.onWire (h : b.Delivers c front last) :
    b.onWire c = prepended (front.flatMap Response.data)
      (run (collect b.session.setup.commands.getResponse b.session.setup.config.maxRounds
          (b.session.setup.config.maxRounds - front.length) last)
        (after (b.framing c ++ front.map b.fetching) b.link)) := by
  obtain ⟨acks, hacks, hanswers⟩ := h.answered
  -- The first part is the answer to the last frame of the command.
  have hfirst : acks ++ (front ++ [last]) =
      (acks ++ [front.headD last]) ++ (front ++ [last]).tail := by
    cases front <;> simp
  -- There are as many answers as commands, so the first part comes where the framing ends.
  have hlength : (acks ++ [front.headD last]).length = (b.framing c).length := by
    have hall := length_of_answers hanswers
    simp only [List.length_append, List.length_map, List.length_singleton] at hall ⊢
    omega
  rw [hfirst] at hanswers
  obtain ⟨hcommand, hmore⟩ := answers_append hlength hanswers
  have hsent : run (transmitFramed b.session.setup.commands b.session.cardOrBaseline c) b.link =
      (.ok (front.headD last), after (b.framing c) b.link) :=
    run_transmitFramed_of_answers hacks hcommand
  show run (exchangePlain _ _ _ c) b.link = _
  rw [exchangePlain, run_bind_of_ok hsent, after_append]
  exact run_collect_of_answers _ _ last h.announced h.within hmore

/-- A part that announces nothing more completes the answer. -/
theorem Delivers.onWire_of_final (h : b.Delivers c front last) (hlast : last.status.sw1 ≠ 0x61) :
    b.onWire c = (.ok ⟨(front ++ [last]).flatMap Response.data, last.status⟩,
      after (b.framing c ++ front.map b.fetching) b.link) := by
  rw [h.onWire, run_collect_of_final _ _ _ hlast, List.flatMap_append, List.flatMap_singleton]
  rfl

/-- A further part is not fetched where the limit is used up. -/
theorem Delivers.onWire_of_exhausted (h : b.Delivers c front last)
    (hlast : last.status.sw1 = 0x61) (hall : front.length = b.session.setup.config.maxRounds) :
    b.onWire c = (.error (.continuationLimit b.session.setup.config.maxRounds),
      after (b.framing c ++ front.map b.fetching) b.link) := by
  rw [h.onWire, hall, Nat.sub_self, run_collect_of_exhausted _ _ hlast]
  rfl

/-- The frames of the command are on the tap, and then one for each part that was fetched. -/
theorem Delivers.frames {b : Bench (Tapped τ) κ} (h : b.Delivers c front last) :
    (after (b.framing c ++ front.map b.fetching) b.link).frames =
      b.link.frames ++ (b.framing c ++ front.map b.fetching).map encode := by
  obtain ⟨acks, -, hanswers⟩ := h.answered
  exact frames_after hanswers

end Bench

/-- GET RESPONSE is a short command whose last byte is the announced length. -/
theorem Command.encode_getResponse (sw2 : UInt8) :
    (getResponse sw2).encode = [0x00, 0xC0, 0x00, 0x00, sw2] := by
  have hshort : (getResponse sw2).isExtended = false := by
    have hne : ¬maxShortNe < (getResponse sw2).ne := Nat.not_lt.mpr (shortLe_le sw2)
    unfold isExtended
    rw [decide_eq_false hne]
    rfl
  have hle : encodeLe (getResponse sw2) = [UInt8.ofNat (shortLe sw2)] := by
    show (if (getResponse sw2).isExtended then _ else _) = _
    rw [hshort]
    rfl
  show [0x00, 0xC0, 0x00, 0x00] ++ [] ++ encodeLe (getResponse sw2) = _
  rw [hle, ofNat_shortLe]
  rfl

namespace SessionM

variable {τ κ : Type} [Link τ] [Channel κ]

/-- Without a channel in use, a card that answers in parts is asked for each further part in
turn. The answer has the payloads of all parts in order, and the status of the last. A card
that announces yet more after as many rounds as are allowed makes the exchange fail. Every
exchange ends with as many requests at most, after all frames of the command, and no answer
announces more bytes. Two cards that cut the same answer differently are not told apart. -/
theorem communicate_reassembles {b : Bench (Tapped τ) κ} (hplain : b.session.channelInUse? = none)
    (purpose : Purpose) (c : Command) :
    let o := ((communicate purpose c).start b).1
    let b' := ((communicate purpose c).start b).2
    let maxRounds := b.session.setup.config.maxRounds
    (∀ front last, b.Delivers c front last → last.status.sw1 ≠ 0x61 →
      o = .ok ⟨(front ++ [last]).flatMap Response.data, last.status⟩ ∧
      b'.link.frames = b.link.frames ++ ((b.framing c).map encode ++
        front.map fun part => (b.fetching part).encode)) ∧
    (∀ front last, b.Delivers c front last → last.status.sw1 = 0x61 → front.length = maxRounds →
      o = .error (.continuationLimit maxRounds) ∧
      b'.link.frames = b.link.frames ++ ((b.framing c).map encode ++
        front.map fun part => (b.fetching part).encode)) ∧
    (b.session.setup.commands.getResponse = .getResponse → ∀ part : Response,
      (b.fetching part).encode = [0x00, 0xC0, 0x00, 0x00, part.status.sw2] ∧
      (b.fetching part).ne = if part.status.sw2 = 0 then 256 else part.status.sw2.toNat) ∧
    (∃ (n : Nat) (fetched : List UInt8),
      b'.link.frames = b.link.frames ++ (((b.framing c).take n).map encode ++
        fetched.map fun sw2 => (b.session.setup.commands.getResponse sw2).encode) ∧
      fetched.length ≤ maxRounds ∧ (fetched ≠ [] → (b.framing c).length ≤ n)) ∧
    (∀ r, o = .ok r → r.status.sw1 ≠ 0x61) ∧
    (∀ (b₂ : Bench (Tapped τ) κ) (purpose₂ : Purpose) (c₂ : Command)
        (front front₂ : List Response) (last last₂ : Response),
      b₂.session.channelInUse? = none → b.Delivers c front last → b₂.Delivers c₂ front₂ last₂ →
      (front₂ ++ [last₂]).flatMap Response.data = (front ++ [last]).flatMap Response.data →
      last₂.status = last.status → last.status.sw1 ≠ 0x61 →
      ((communicate purpose₂ c₂).start b₂).1 = o) := by
  intro o b' maxRounds
  obtain ⟨ho, hlink⟩ := start_communicate_of_plain purpose c hplain
  have hframes : ∀ {front last}, b.Delivers c front last →
      b'.link = after (b.framing c ++ front.map b.fetching) b.link →
      b'.link.frames = b.link.frames ++ ((b.framing c).map encode ++
        front.map fun part => (b.fetching part).encode) := by
    intro front last h hafter
    rw [hafter, h.frames, List.map_append, List.map_map]
    rfl
  refine ⟨?final, ?exhausted, ?standard, ?within, ?status, ?cut⟩
  case final =>
    intro front last h hlast
    rw [h.onWire_of_final hlast] at ho hlink
    exact ⟨ho, hframes h hlink⟩
  case exhausted =>
    intro front last h hlast hall
    rw [h.onWire_of_exhausted hlast hall] at ho hlink
    exact ⟨ho, hframes h hlink⟩
  case standard =>
    intro hstandard part
    unfold Bench.fetching
    rw [hstandard]
    exact ⟨encode_getResponse _, rfl⟩
  case within =>
    obtain ⟨n, fetched, hall, hlength, horder, -⟩ :=
      exchangePlain_within b.session.setup.commands maxRounds b.session.cardOrBaseline c b.link
    refine ⟨n, fetched, ?_, hlength, horder⟩
    show ((communicate purpose c).start b).2.link.frames = _
    rw [hlink]
    exact hall
  case status =>
    intro r hr
    obtain ⟨n, -, -, -, -, hend⟩ :=
      exchangePlain_within b.session.setup.commands maxRounds b.session.cardOrBaseline c b.link
    exact (hend r (ho.symm.trans hr)).2
  case cut =>
    intro b₂ purpose₂ c₂ front front₂ last last₂ hplain₂ h h₂ hdata hstatus hlast
    -- Either answer is made of the payload as a whole and the final status.
    have hlast₂ : last₂.status.sw1 ≠ 0x61 := hstatus ▸ hlast
    show ((communicate purpose₂ c₂).start b₂).1 = ((communicate purpose c).start b).1
    rw [ho, h.onWire_of_final hlast, (start_communicate_of_plain purpose₂ c₂ hplain₂).1,
      h₂.onWire_of_final hlast₂, hdata, hstatus]

open Simulator in
/-- A card that sends three bytes in two parts. -/
theorem communicate_reassembles_two_parts :
    let link : ScriptedLink :=
      { connected := true,
        turns := [.answer [0xAA, 0xBB, 0x61, 0x01], .answer [0xCC, 0x90, 0x00]] }
    let b : Bench (Tapped ScriptedLink) ToyChannel := { session := .new {} none, link := ⟨link, []⟩ }
    let c : Command := .getData .url
    ((communicate .direct c).start b).1 = .ok ⟨[0xAA, 0xBB, 0xCC], .success⟩ ∧
      ((communicate .direct c).start b).2.link.frames =
        [[0x00, 0xCA, 0x5F, 0x50, 0x00], [0x00, 0xC0, 0x00, 0x00, 0x01]] := by
  intro link b c
  have hdelivers : b.Delivers c [⟨[0xAA, 0xBB], ⟨0x61, 0x01⟩⟩] ⟨[0xCC], .success⟩ :=
    ⟨by decide, by decide, [], by simp, And.intro rfl (And.intro rfl trivial)⟩
  exact (communicate_reassembles (b := b) rfl .direct c).1 _ _ hdelivers (by decide)

end SessionM

end PgpCard
