import PgpCard.Proofs.Link.ShortForm
import PgpCard.Proofs.Session.BringUp
import PgpCard.Simulator.ScriptedLink
import PgpCard.Simulator.ToyChannel

/-!
# `PgpCard.Proofs.Session.Baseline`: frames before a card has said what it understands

A card that has not been asked counts as the baseline, which has no extended lengths. So a
session sends short frames only, as long as it does not know better, and a bring-up does not
trust what an earlier card has said.

`Sent` says which frames went out. It needs a link with a tap. `Terse` is the invariant for a
session that does not know of extended lengths, and the first half of a bring-up keeps it:
losing the card drops the capabilities, which again leaves the baseline. `frames_short` is the
statement about exchanges, protected or not, and about bring-ups.
-/

set_option autoImplicit false

namespace PgpCard

open Step

/-- A short frame is not longer than a header, two lengths and the data. -/
theorem ShortFrame.length_le {frame : Bytes} (h : ShortFrame frame) : frame.length ≤ 261 := by
  obtain ⟨c, hshort, rfl⟩ := h
  exact hshort.length_shortForm_le

namespace SessionM

variable {τ κ : Type}

/-- From `start` on all frames on the tap are of this kind. -/
def Sent (kind : Bytes → Prop) (start : List Bytes) (b : Bench (Tapped τ) κ) : Prop :=
  ∃ frames, b.link.frames = start ++ frames ∧ ∀ f ∈ frames, kind f

theorem Sent.refl (kind : Bytes → Prop) (b : Bench (Tapped τ) κ) : Sent kind b.link.frames b :=
  ⟨[], (List.append_nil _).symm, by simp⟩

/-- The session speaks the standard commands and knows of no extended lengths, and from `start`
on only short frames went out. -/
structure Terse (start : List Bytes) (b : Bench (Tapped τ) κ) : Prop where
  stock : b.session.setup.commands = .standard
  noExtended : b.session.cardOrBaseline.extendedLength = false
  sent : Sent ShortFrame start b

variable [Link τ] [Channel κ]

/-- What the exchanges on the link send the exchanges of the session send, protected or not. -/
theorem sent_communicate {kind : Bytes → Prop} {start : List Bytes} {b : Bench (Tapped τ) κ}
    (h : Sent kind start b) (hwire : ∀ framed, Link.Emits (τ := τ) kind
      (Link.exchangePlain b.session.setup.commands b.session.setup.config.maxRounds
        b.session.cardOrBaseline framed)) (purpose : Purpose) (c : Command) :
    Sent kind start (run (communicate purpose c) b).2 := by
  obtain ⟨o, b', hcourse, hrun⟩ := run_communicate_eq purpose c b
  rw [hrun]
  show Sent kind start b'
  rcases hcourse.onLink with ⟨hlink, -⟩ | ⟨framed, wired, honWire, -, -⟩
  · -- Nothing was sent.
    rw [Sent, hlink]
    exact h
  · obtain ⟨frames, hframes, hkind⟩ := h
    obtain ⟨more, hmore, hmoreKind⟩ := hwire framed b.link
    have hlink : b'.link.frames = b.link.frames ++ more := by
      rw [← hmore]
      exact congrArg (·.2.frames) honWire.symm
    refine ⟨frames ++ more, ?_, List.forall_mem_append.mpr ⟨hkind, hmoreKind⟩⟩
    rw [hlink, hframes, List.append_assoc]

/-- No exchange takes a frame off the tap. -/
theorem sent_any_communicate (start : List Bytes) (purpose : Purpose) (c : Command) :
    Keeps (Sent (τ := τ) (κ := κ) (fun _ => True) start) (communicate purpose c) := by
  intro b hb
  refine sent_communicate hb (fun framed => ?_) purpose c
  exact (Link.emits_composable _).exchangePlain _ (fun s _ => Link.transmitPlain_emits fun _ => trivial)
    fun sw2 => Link.transmitPlain_emits fun _ => trivial

/-- An exchange of a session without extended lengths sends short frames, and the session does
not come to know of extended lengths by it. -/
theorem terse_communicate (start : List Bytes) (purpose : Purpose) (c : Command) :
    Keeps (Terse (τ := τ) (κ := κ) start) (communicate purpose c) := by
  intro b hb
  have hsent := sent_communicate hb.sent (fun framed => by
    rw [hb.stock]
    exact Link.exchangePlain_short hb.noExtended _ framed) purpose c
  obtain ⟨o, b', hexchanged, hrun⟩ := run_communicate purpose c b
  rw [hrun] at hsent ⊢
  refine ⟨?_, ?_, hsent⟩
  · show b'.session.setup.commands = _
    rw [hexchanged.setup_and_pin.1]
    exact hb.stock
  · show b'.session.cardOrBaseline.extendedLength = false
    rw [hexchanged.session]
    cases Outcome.lost o with
    | false => exact hb.noExtended
    | true => rfl

/-- The first half of a bring-up sends short frames. -/
theorem terse_reading (start : List Bytes) : Keeps (Terse (τ := τ) (κ := κ) start) reading :=
  (keeps_composable _).reading (fun purpose _ c => terse_communicate start purpose c)
    fun _ _ hb => ⟨hb.stock, hb.noExtended, hb.sent⟩

/-- Up to the application data a bring-up sends short frames, whatever was known of a card. -/
theorem sent_untilDescribed {b : Bench (Tapped τ) κ} (h : b.session.setup.commands = .standard) :
    Sent ShortFrame b.link.frames (run untilDescribed b).2 := by
  have hsession := (session_openLink b).1
  have hopened : Sent ShortFrame b.link.frames (run openLink b).2 := by
    have hsame : (run openLink b).2.link.frames = b.link.frames :=
      by rw [Tapped.frames, exchanges_openLink, Tapped.frames]
    rw [← hsame]
    exact .refl _ _
  rw [untilDescribed, run_bind]
  rcases hopen : run openLink b with ⟨e | ⟨⟩, b₀⟩
  all_goals rw [hopen] at hsession hopened
  · exact hopened
  · -- The session is clean, so the card counts as the baseline.
    have hclean : Terse b.link.frames (clean b₀) := by
      refine ⟨?_, rfl, ?_⟩
      · rw [session_clean, hsession]
        exact h
      · rw [Sent, link_clean]
        exact hopened
    exact (terse_reading _ _ hclean).sent

/-- The second half of a bring-up takes no frame off the tap. -/
theorem sent_any_settling (start : List Bytes) (data : Bytes) :
    Keeps (Sent (τ := τ) (κ := κ) (fun _ => True) start) (settling data) := by
  refine keeps_settling (sent_any_communicate start .handshake) (fun _ _ hb => hb) (fun _ hb => hb)
    (fun b hb => ?_) (fun b state hb => ?_) data
  · rw [Sent, Bench.link_clearChannel]
    exact hb
  · show ∃ frames, b.clearChannel.link.frames = _ ∧ _
    rw [Bench.link_clearChannel]
    exact hb

/-- A session with the standard commands that knows of no extended lengths sends none: all frames
of an exchange are short, whatever the command, protected or not, including the segments of a
chain and the frames that fetch more of the answer.

A bring-up knows nothing of the card until it has read the application data, and up to there all
its frames are short as well, whatever an earlier card has said. What it sends later is sent by
its second half, which it comes to only with the application data. -/
theorem frames_short {b : Bench (Tapped τ) κ} (hstock : b.session.setup.commands = .standard) :
    let described := untilDescribed.start b
    (∀ purpose c, (∀ card, b.session.card = some card → card.extendedLength = false) →
      ∃ frames, ((communicate purpose c).start b).2.link.frames = b.link.frames ++ frames ∧
        ∀ f ∈ frames, ShortFrame f ∧ f.length ≤ 261) ∧
    (∃ frames, described.2.link.frames = b.link.frames ++ frames ∧
      ∀ f ∈ frames, ShortFrame f ∧ f.length ≤ 261) ∧
    (∀ e, described.1 = .error e →
      (connect.start b).1 = .error e ∧ (connect.start b).2.link = described.2.link) ∧
    (∀ data, described.1 = .ok data →
      (connect.start b).2.link = ((settling data).start described.2).2.link ∧
      ∃ later, (connect.start b).2.link.frames = described.2.link.frames ++ later) := by
  refine ⟨?exchange, ?read, ?failed, ?settled⟩
  case exchange =>
    intro purpose c hcard
    have hnoExtended : b.session.cardOrBaseline.extendedLength = false := by
      unfold Session.cardOrBaseline
      cases hsome : b.session.card with
      | none => rfl
      | some card => exact hcard card hsome
    have hterse : Terse b.link.frames b := ⟨hstock, hnoExtended, .refl _ b⟩
    obtain ⟨frames, hframes, hshort⟩ := (terse_communicate _ purpose c b hterse).sent
    rw [start_eq_run]
    exact ⟨frames, hframes, fun f hf => ⟨hshort f hf, (hshort f hf).length_le⟩⟩
  all_goals simp only [start_eq_run]
  case read =>
    obtain ⟨frames, hframes, hshort⟩ := sent_untilDescribed hstock
    exact ⟨frames, hframes, fun f hf => ⟨hshort f hf, (hshort f hf).length_le⟩⟩
  case failed =>
    intro e he
    exact run_connect_of_undescribed (Prod.ext he rfl)
  case settled =>
    intro data hdata
    have hlink : (run connect b).2.link = (run (settling data) (run untilDescribed b).2).2.link := by
      rw [run_connect_of_described (Prod.ext hdata rfl)]
      cases (run (settling data) (run untilDescribed b).2).1 <;> rfl
    obtain ⟨later, hlater, -⟩ := sent_any_settling (run untilDescribed b).2.link.frames data _
      ⟨[], (List.append_nil _).symm, by simp⟩
    exact ⟨hlink, later, by rw [hlink, hlater]⟩

open Simulator in
/-- A protected command with more data than one short frame holds, and an answer in two parts;
and then a bring-up of the same session after another card has said that it understands extended
lengths, where the application data comes in two parts. -/
theorem frames_short_chained :
    let link : ScriptedLink :=
      { connected := true, tokenType := some .unknown,
        turns := [.answer [0x90, 0x00], .answer [0x99, 0x61, 0x02],
          .answer [0x88, 0x12, 0x90, 0x00]] }
    let session : Session ToyChannel := { Session.new {} none with
      card := some { chaining := true }, channel := some ⟨0, { key := 0x33 }⟩ }
    let before : Bench (Tapped ScriptedLink) ToyChannel := { session, link := ⟨link, []⟩ }
    let turns : List Turn :=
      [.answer [0x90, 0x00], .answer [0x5F, 0x52, 0x04, 0x61, 0x05],
        .answer [0x00, 0x05, 0x90, 0x00, 0x90, 0x00]]
    let after : Bench (Tapped ScriptedLink) ToyChannel :=
      { session := { session with card := some { extendedLength := true } }
        link := ⟨{ link with turns }, []⟩ }
    let c := Command.sign (List.replicate 300 0x55)
    let exchanged := ((communicate .direct c).start before).2.link.frames
    let connected := (connect.start after).2.link.frames
    (exchanged.length = 3 ∧ ∀ f ∈ exchanged, ShortFrame f ∧ f.length ≤ 261) ∧
    (connected.length = 3 ∧ ∀ f ∈ connected, ShortFrame f ∧ f.length ≤ 261) := by
  intro link session before turns after c exchanged connected
  refine ⟨⟨by decide +kernel, ?_⟩, ⟨by decide +kernel, ?_⟩⟩
  · obtain ⟨hexchange, -⟩ := frames_short (b := before) rfl
    obtain ⟨frames, hframes, hshort⟩ := hexchange .direct c (by rintro card ⟨⟩; rfl)
    have hframes : exchanged = frames := hframes
    rw [hframes]
    exact hshort
  · obtain ⟨-, ⟨frames, hframes, hshort⟩, -⟩ := frames_short (b := after) rfl
    -- Without a provider nothing is sent after the application data.
    have hsame : connected = (untilDescribed.start after).2.link.frames := by decide +kernel
    rw [hsame, hframes]
    exact hshort

end SessionM

end PgpCard
