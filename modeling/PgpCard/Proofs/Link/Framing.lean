import PgpCard.Proofs.Apdu.Encoding
import PgpCard.Proofs.Link.Sending
import PgpCard.Simulator.ScriptedLink

/-!
# `PgpCard.Proofs.Link.Framing`: a card reads the command that was meant

A logical command goes out in one or more frames (`Link.framing`), and these are all that the
card sees. `Inbox` is the card's side of the agreement: it decodes each frame, joins
the data of consecutive segments that carry the chaining bit, and has read a command when a
frame without that bit comes.

`read_segments` and `read_single` say what it reads. Together with what the sender is known to
send they give `read_transmitFramed`: the card never reads anything but the command that was
meant, and it has read it when the sending has succeeded.

The segments of a chain are read by induction on the data. The invariant says that the card
is in the middle of a chain whose data so far is what the segments before have carried
(`midChain`).
-/

set_option autoImplicit false

namespace PgpCard

open Step Command

/-! ### The card's side -/

/-- What a card has made of the frames so far. -/
structure Inbox where
  /-- The commands that are complete, in order. -/
  commands : List Command := []
  /-- The chain that is not complete yet: its header with the chaining bit, and its data. -/
  unfinished : Option Command := none
  deriving DecidableEq

namespace Inbox

/-- A frame with the data of the unfinished chain in front of its own. It must have the
header of that chain. -/
def joined? (inbox : Inbox) (c : Command) : Option Command :=
  match inbox.unfinished with
  | none => some { c with data := some c.payload }
  | some head =>
    if head.cla = c.cla ||| chainingBit ∧ head.ins = c.ins ∧ head.p1 = c.p1 ∧ head.p2 = c.p2 then
      some { c with data := some (head.payload ++ c.payload) }
    else none

/-- Takes a frame. The chaining bit tells whether the command goes on in the next one. -/
def take? (inbox : Inbox) (frame : Bytes) : Option Inbox :=
  match decode frame with
  | .error _ => none
  | .ok c =>
    (inbox.joined? c).map fun whole =>
      if c.cla &&& chainingBit ≠ 0 then { inbox with unfinished := some whole }
      else { commands := inbox.commands ++ [whole] }

/-- Takes frames one after another. -/
def read? (frames : List Bytes) : Option Inbox := frames.foldlM take? {}

/-- A valid command is taken as if it had not been encoded. -/
theorem take?_encode {c : Command} (h : c.check = .ok ()) (inbox : Inbox) :
    inbox.take? c.encode =
      (inbox.joined? c).map fun whole =>
        if c.cla &&& chainingBit ≠ 0 then { inbox with unfinished := some whole }
        else { commands := inbox.commands ++ [whole] } := by
  -- Absent data and empty data are joined alike.
  have hjoined : inbox.joined? c.normalize = inbox.joined? c := by
    unfold joined?
    rw [payload_normalize]
    rfl
  unfold take?
  rw [decode_encode h]
  show (inbox.joined? c.normalize).map _ = _
  rw [hjoined]
  rfl

/-- A valid command without the chaining bit is read from its one frame. -/
theorem read_single {c : Command} (h : c.check = .ok ()) (hclass : c.cla &&& chainingBit = 0) :
    read? [c.encode] = some { commands := [{ c with data := some c.payload }] } := by
  show (some ({} : Inbox) >>= fun inbox => inbox.take? c.encode >>= pure) = _
  show (take? {} c.encode >>= pure) = _
  rw [take?_encode h]
  simp [joined?, hclass]

end Inbox

/-! ### Segments -/

namespace Command

/-- Setting the chaining bit sets it. -/
theorem or_chainingBit_and (cla : UInt8) : (cla ||| chainingBit) &&& chainingBit ≠ 0 := by
  have habsorb : (cla ||| chainingBit) &&& chainingBit = chainingBit := by
    apply UInt8.toBitVec_inj.mp
    rw [UInt8.toBitVec_and, UInt8.toBitVec_or]
    ext i hi
    rw [BitVec.getElem_and, BitVec.getElem_or]
    cases cla.toBitVec[i] <;> cases chainingBit.toBitVec[i] <;> rfl
  rw [habsorb]
  decide

/-- A command whose lengths fit the short form is valid. -/
theorem check_of_short {c : Command} (hnc : c.nc ≤ maxShortNc)
    (hle : ∀ le ∈ c.le, 0 < le ∧ le ≤ maxShortNe) : c.check = .ok () := by
  rw [check_eq_ok_iff]
  refine ⟨Nat.le_trans hnc (by decide), ?_⟩
  intro le h
  exact ⟨(hle le h).1, Nat.le_trans (hle le h).2 (by decide)⟩

/-- A full segment is valid. -/
theorem check_segment (short : Command) (data : Bytes) :
    (short.segment (data.take maxShortNc)).check = .ok () := by
  apply check_of_short
  · show (data.take maxShortNc).length ≤ maxShortNc
    rw [List.length_take]
    exact Nat.min_le_left _ _
  · exact fun le h => nomatch h

/-- Data that fits one segment is one segment. -/
theorem segments_of_length_le (short : Command) {data : Bytes} (h : data.length ≤ maxShortNc) :
    segments short data = [{ short with data := some data }] := by
  rw [segments]
  exact if_pos (List.drop_eq_nil_iff.mpr h)

/-- Longer data is a full segment and the segments of the rest. -/
theorem segments_of_lt_length (short : Command) {data : Bytes} (h : maxShortNc < data.length) :
    segments short data
      = short.segment (data.take maxShortNc) :: segments short (data.drop maxShortNc) := by
  rw [segments]
  exact if_neg fun hrest => absurd (List.drop_eq_nil_iff.mp hrest) (Nat.not_le.mpr h)

/-- Induction along the segments of a chain: the data fits one segment, or the rest after
a full one is shorter. -/
@[elab_as_elim]
theorem segments_induction {motive : Bytes → Prop}
    (last : ∀ data, data.length ≤ maxShortNc → motive data)
    (further : ∀ data, maxShortNc < data.length → motive (data.drop maxShortNc) → motive data)
    (data : Bytes) : motive data := by
  induction data using segments.induct with
  | case1 data rest hrest => exact last data (List.drop_eq_nil_iff.mp hrest)
  | case2 data rest hrest ih =>
    refine further data ?_ ih
    rw [← Nat.not_le]
    exact fun h => hrest (List.drop_eq_nil_iff.mpr h)

/-- The data of a segment fits the short form, and a segment asks for no more than the command. -/
theorem lengths_of_mem_segments {short : Command} (data : Bytes) :
    ∀ s ∈ segments short data, s.nc ≤ maxShortNc ∧ ∀ le ∈ s.le, le ∈ short.le := by
  induction data using segments_induction with
  | last data hlength =>
    intro s hs
    rw [segments_of_length_le short hlength] at hs
    obtain rfl : s = { short with data := some data } := List.mem_singleton.mp hs
    exact ⟨hlength, fun le hle => hle⟩
  | further data hlength ih =>
    intro s hs
    rw [segments_of_lt_length short hlength] at hs
    rcases List.mem_cons.mp hs with rfl | hs
    · exact ⟨List.length_take_le _ _, nofun⟩
    · exact ih s hs

/-- The segments of a chain are for the instruction of the command. -/
theorem ins_of_mem_segments {short : Command} (data : Bytes) :
    ∀ s ∈ segments short data, s.ins = short.ins := by
  induction data using segments_induction with
  | last data hlength =>
    rw [segments_of_length_le short hlength]
    exact List.forall_mem_singleton.mpr rfl
  | further data hlength ih =>
    rw [segments_of_lt_length short hlength]
    exact List.forall_mem_cons.mpr ⟨rfl, ih⟩

/-- The segments of a chain are valid. -/
theorem check_of_mem_segments {short : Command} (hle : ∀ le ∈ short.le, 0 < le ∧ le ≤ maxShortNe)
    (data : Bytes) : ∀ s ∈ segments short data, s.check = .ok () := by
  intro s hs
  obtain ⟨hnc, hasks⟩ := lengths_of_mem_segments data s hs
  exact check_of_short hnc fun le h => hle le (hasks le h)

end Command

namespace Inbox

/-- The card has read the segments that carry `front` of a chain for `short`. -/
def midChain (short : Command) (front : Bytes) : Inbox :=
  if front = [] then {} else { unfinished := some (short.segment front) }

@[simp] theorem commands_midChain (short : Command) (front : Bytes) :
    (midChain short front).commands = [] := by
  unfold midChain
  split <;> rfl

/-- In the middle of a chain a further segment is put behind what came before. -/
theorem joined?_midChain_segment (short : Command) (front data : Bytes) :
    (midChain short front).joined? (short.segment data) = some (short.segment (front ++ data)) := by
  unfold midChain
  by_cases hfront : front = []
  · subst hfront
    rfl
  · rw [if_neg hfront]
    simp only [joined?, Command.segment, UInt8.or_assoc, UInt8.or_self, and_self, if_true]
    rfl

/-- In the middle of a chain the last segment completes the data. -/
theorem joined?_midChain_last (short : Command) (front data : Bytes) :
    (midChain short front).joined? { short with data := some data } =
      some { short with data := some (front ++ data) } := by
  unfold midChain
  by_cases hfront : front = []
  · subst hfront
    rfl
  · rw [if_neg hfront]
    simp only [joined?, Command.segment, and_self, if_true]
    rfl

/-- A further segment that is full leaves the card in the middle of the chain. -/
theorem take?_midChain_segment (short : Command) (front : Bytes) {data : Bytes}
    (hdata : data ≠ []) :
    (midChain short front).take? (short.segment (data.take maxShortNc)).encode
      = some (midChain short (front ++ data.take maxShortNc)) := by
  have hfront : front ++ data.take maxShortNc ≠ [] := by
    intro h
    rcases List.take_eq_nil_iff.mp (List.append_eq_nil_iff.mp h).2 with hzero | hnil
    · exact absurd hzero (by decide)
    · exact hdata hnil
  have hbit : (short.segment (data.take maxShortNc)).cla &&& chainingBit ≠ 0 :=
    or_chainingBit_and short.cla
  rw [take?_encode (check_segment short data), joined?_midChain_segment, Option.map_some,
    if_pos hbit, commands_midChain, midChain, if_neg hfront]

/-- The last segment makes the command complete. -/
theorem take?_midChain_last {short : Command} (hclass : short.cla &&& chainingBit = 0)
    (front : Bytes) {data : Bytes}
    (hcheck : ({ short with data := some data } : Command).check = .ok ()) :
    (midChain short front).take? ({ short with data := some data } : Command).encode
      = some { commands := [{ short with data := some (front ++ data) }] } := by
  rw [take?_encode hcheck, joined?_midChain_last, Option.map_some, commands_midChain]
  exact congrArg some (if_neg fun hbit => hbit hclass)

/-- A card that has read `front` of a chain and then takes the first `n` segments for `data`
reads nothing before the last of them, and with it the command with all the data. -/
theorem read_segments {short : Command} (hclass : short.cla &&& chainingBit = 0)
    (hle : ∀ le ∈ short.le, 0 < le ∧ le ≤ maxShortNe) (data : Bytes) :
    ∀ (n : Nat) (front : Bytes), ∃ inbox,
      (((segments short data).take n).map encode).foldlM take? (midChain short front)
        = some inbox ∧
      (n < (segments short data).length → inbox.commands = []) ∧
      ((segments short data).length ≤ n →
        inbox = { commands := [{ short with data := some (front ++ data) }] }) := by
  induction data using segments_induction with
  | last data hlength =>
    -- The data fits one segment, which is the last.
    intro n front
    rw [segments_of_length_le short hlength]
    cases n with
    | zero => exact ⟨midChain short front, rfl, fun _ => commands_midChain short front, by simp⟩
    | succ n =>
      have hlast := take?_midChain_last hclass front (check_of_short hlength hle)
      refine ⟨{ commands := [{ short with data := some (front ++ data) }] }, ?_, by simp, by simp⟩
      rw [List.take_succ_cons, List.take_nil, List.map_singleton, List.foldlM_cons, hlast]
      rfl
  | further data hlength ih =>
    -- A full segment goes first, and the others follow it.
    intro n front
    have hdata : data ≠ [] := by
      rintro rfl
      exact absurd hlength (by decide)
    rw [segments_of_lt_length short hlength]
    cases n with
    | zero => exact ⟨midChain short front, rfl, fun _ => commands_midChain short front, by simp⟩
    | succ n =>
      -- After the full segment the front of the chain is longer by its data.
      obtain ⟨inbox, hread, hpartial, hwhole⟩ := ih n (front ++ data.take maxShortNc)
      refine ⟨inbox, ?_, ?_, ?_⟩
      · rw [List.take_succ_cons, List.map_cons, List.foldlM_cons,
          take?_midChain_segment short front hdata]
        exact hread
      · intro h
        exact hpartial (Nat.lt_of_succ_lt_succ h)
      · intro h
        -- The segment and the rest make the data whole again.
        rw [hwhole (Nat.le_of_succ_le_succ h), List.append_assoc]
        show ({ commands := [{ short with data := some (front ++
          (data.take maxShortNc ++ data.drop maxShortNc)) }] } : Inbox) = _
        rw [List.take_append_drop]

end Inbox

/-! ### Both sides together -/

/-- What a card is to read for a command: its header and its data, which is empty if there
is none, and the expected length as far as the framing can say it. -/
def Command.received (card : CardCapabilities) (c : Command) : Command :=
  { c with
    data := some c.payload
    le := if card.extendedLength then c.le else c.le.map (min · maxShortNe) }

/-- A card that sees the first `n` frames of a command in one frame. -/
theorem Inbox.read_take_single {c : Command} (hclass : c.cla &&& chainingBit = 0) (n : Nat)
    (hvalid : ∀ s ∈ [c].take n, s.check = .ok ()) :
    ∃ inbox, read? (([c].take n).map encode) = some inbox ∧
      (n < 1 → inbox.commands = []) ∧
      (1 ≤ n → inbox = { commands := [{ c with data := some c.payload }] }) := by
  cases n with
  | zero => exact ⟨{}, rfl, fun _ => rfl, fun h => absurd h (by decide)⟩
  | succ n =>
    have hcheck : c.check = .ok () := hvalid c (by simp)
    refine ⟨_, ?_, fun h => absurd h (by simp), fun _ => rfl⟩
    rw [List.take_succ_cons, List.take_nil]
    exact read_single hcheck hclass

namespace Link

/-- Only a long command for a card with neither extended lengths nor chains has no
framing. -/
theorem framing_standard_eq_nil_iff (card : CardCapabilities) (c : Command) :
    framing .standard card c = [] ↔
      card.extendedLength = false ∧ card.chaining = false ∧ maxShortNc < c.nc := by
  have hchain : Command.chain c ≠ [] := by
    unfold Command.chain
    rw [segments]
    split
    · exact List.cons_ne_nil _ _
    · split <;> exact List.cons_ne_nil _ _
  unfold framing
  by_cases hnc : c.nc ≤ maxShortNc
  · have hfits : CommandSet.standard.fitsShort c = true := decide_eq_true hnc
    cases card.extendedLength <;> simp [hfits, hnc]
  · have hfits : CommandSet.standard.fitsShort c = false := decide_eq_false hnc
    cases card.extendedLength <;> cases card.chaining <;> simp [hfits, Nat.not_le.mp hnc]
    exact hchain

/-- All frames of a command are for its instruction. -/
theorem ins_of_mem_framing {card : CardCapabilities} {c s : Command}
    (hs : s ∈ framing .standard card c) : s.ins = c.ins := by
  have hchain : ∀ s ∈ c.chain, s.ins = c.ins := by
    unfold chain
    split
    · exact List.forall_mem_singleton.mpr rfl
    · exact ins_of_mem_segments c.payload
  unfold framing at hs
  split at hs
  · obtain rfl : s = c := List.mem_singleton.mp hs
    rfl
  · split at hs
    · obtain rfl : s = c.toShort := List.mem_singleton.mp hs
      rfl
    · split at hs
      · exact hchain s hs
      · exact absurd hs List.not_mem_nil

/-- The clamped expected length fits the short form. -/
theorem le_toShort {c : Command} (hle : ∀ le ∈ c.le, 0 < le ∧ le ≤ maxExtendedNe) :
    ∀ le ∈ c.toShort.le, 0 < le ∧ le ≤ maxShortNe := by
  intro le h
  obtain ⟨le', hmem, rfl⟩ : ∃ le' ∈ c.le, min le' maxShortNe = le := by
    simpa [toShort] using h
  have hpos : 0 < maxShortNe := by decide
  exact ⟨Nat.lt_min.mpr ⟨(hle le' hmem).1, hpos⟩, Nat.min_le_right _ _⟩

/-- A card that sees the first `n` frames of a framing reads nothing before the last of
them, and with it the command that was meant. -/
theorem read_framing (card : CardCapabilities) {c : Command} (hclass : c.cla &&& chainingBit = 0)
    (hle : ∀ le ∈ c.le, 0 < le ∧ le ≤ maxExtendedNe) (n : Nat)
    (hvalid : ∀ s ∈ (framing .standard card c).take n, s.check = .ok ()) :
    ∃ inbox, Inbox.read? (((framing .standard card c).take n).map encode) = some inbox ∧
      (n < (framing .standard card c).length → inbox.commands = []) ∧
      ((framing .standard card c).length ≤ n → framing .standard card c ≠ [] →
        inbox = { commands := [c.received card] }) := by
  by_cases hext : card.extendedLength = true
  · -- One frame with the command as it is.
    have hframing : framing .standard card c = [c] := if_pos hext
    have hreceived : c.received card = { c with data := some c.payload } := by
      simp only [Command.received, hext, if_true]
    rw [hframing] at hvalid ⊢
    rw [hreceived]
    obtain ⟨inbox, hread, hnone, hone⟩ := Inbox.read_take_single hclass n hvalid
    exact ⟨inbox, hread, hnone, fun h _ => hone h⟩
  have hreceived : c.received card = { c.toShort with data := some c.payload } := by
    simp only [Command.received, hext]
    rfl
  rw [hreceived]
  by_cases hshort : c.nc ≤ maxShortNc
  · -- One frame with the clamped command.
    have hframing : framing .standard card c = [c.toShort] := by
      unfold framing
      rw [if_neg hext]
      exact if_pos (decide_eq_true hshort)
    rw [hframing] at hvalid ⊢
    obtain ⟨inbox, hread, hnone, hone⟩ := Inbox.read_take_single (c := c.toShort) hclass n hvalid
    exact ⟨inbox, hread, hnone, fun h _ => hone h⟩
  have hfits : CommandSet.standard.fitsShort c ≠ true := fun h => hshort (of_decide_eq_true h)
  by_cases hchaining : card.chaining = true
  · -- The segments, read from the empty inbox, which is in the middle of an empty chain.
    have hframing : framing .standard card c = segments c.toShort c.payload := by
      unfold framing
      rw [if_neg hext, if_neg hfits, if_pos hchaining]
      exact if_neg hshort
    have hclass' : c.toShort.cla &&& chainingBit = 0 := hclass
    rw [hframing]
    obtain ⟨inbox, hread, hpartial, hwhole⟩ :=
      Inbox.read_segments hclass' (le_toShort hle) c.payload n []
    exact ⟨inbox, hread, hpartial, fun h _ => hwhole h⟩
  · -- No frame at all.
    have hframing : framing .standard card c = [] := by
      unfold framing
      rw [if_neg hext, if_neg hfits, if_neg hchaining]
    rw [hframing]
    exact ⟨{}, by rw [List.take_nil]; rfl, fun _ => rfl, fun _ h => absurd rfl h⟩

/-- Every frame of a command is valid, except that an extended one can be too long. -/
theorem check_of_mem_framing {card : CardCapabilities} {c : Command}
    (hle : ∀ le ∈ c.le, 0 < le ∧ le ≤ maxExtendedNe)
    (hnc : card.extendedLength = true → c.nc ≤ maxExtendedNc) :
    ∀ s ∈ framing .standard card c, s.check = .ok () := by
  intro s hs
  unfold framing at hs
  by_cases hext : card.extendedLength = true
  · rw [if_pos hext] at hs
    obtain rfl : s = c := List.mem_singleton.mp hs
    exact check_eq_ok_iff.mpr ⟨hnc hext, hle⟩
  rw [if_neg hext] at hs
  by_cases hfits : CommandSet.standard.fitsShort c = true
  · rw [if_pos hfits] at hs
    obtain rfl : s = c.toShort := List.mem_singleton.mp hs
    exact check_of_short (c := c.toShort) (of_decide_eq_true hfits) (le_toShort hle)
  rw [if_neg hfits] at hs
  by_cases hchaining : card.chaining = true
  · rw [if_pos hchaining] at hs
    -- The data is too long for the short form, so the chain is made of its segments.
    have hshort : ¬c.nc ≤ maxShortNc := fun h => hfits (decide_eq_true h)
    have hmem : s ∈ segments c.toShort c.payload := by
      have hchain : Command.chain c = segments c.toShort c.payload := if_neg hshort
      rw [← hchain]
      exact hs
    exact check_of_mem_segments (le_toShort hle) c.payload s hmem
  · rw [if_neg hchaining] at hs
    exact absurd hs List.not_mem_nil

variable {τ : Type} [Link τ]

/-- A long command is not sent to a card with neither extended lengths nor chains. -/
theorem run_transmitFramed_of_cannotTransmit {card : CardCapabilities} {c : Command}
    (hext : card.extendedLength = false) (hchaining : card.chaining = false)
    (hnc : maxShortNc < c.nc) (link : τ) :
    run (transmitFramed .standard card c) link = (.error .cannotTransmit, link) := by
  have hfits : CommandSet.standard.fitsShort c ≠ true :=
    fun h => absurd (of_decide_eq_true h) (Nat.not_le.mpr hnc)
  unfold transmitFramed
  rw [hext, hchaining, if_neg Bool.false_ne_true, if_neg hfits, if_neg Bool.false_ne_true]
  rfl

/-- Whatever the link answers, a card that decodes the frames of a command and joins its
segments reads nothing but that command: its header, its data, and its expected length as
far as the framing can say it. It has read it when all frames have come, and so it has when
the sending succeeded. A command that no framing fits is refused, and nothing is sent. Any
other is sent with success over a link that takes its frames, if an extended frame can hold
its data. -/
theorem read_transmitFramed (card : CardCapabilities) {c : Command}
    (hclass : c.cla &&& chainingBit = 0) (hle : ∀ le ∈ c.le, 0 < le ∧ le ≤ maxExtendedNe)
    (t : Tapped τ) :
    (∃ frames inbox,
      (run (transmitFramed .standard card c) t).2.frames = t.frames ++ frames ∧
      Inbox.read? frames = some inbox ∧
      (inbox.commands = [] ∨ inbox = { commands := [c.received card] }) ∧
      (frames = (framing .standard card c).map encode → frames ≠ [] →
        inbox = { commands := [c.received card] }) ∧
      ((∃ r, (run (transmitFramed .standard card c) t).1 = .ok r) →
        inbox = { commands := [c.received card] })) ∧
    (card.extendedLength = false → card.chaining = false → maxShortNc < c.nc →
      run (transmitFramed .standard card c) t = (.error .cannotTransmit, t)) ∧
    (card.extendedLength = true ∨ card.chaining = true ∨ c.nc ≤ maxShortNc →
      (card.extendedLength = true → c.nc ≤ maxExtendedNc) →
      Takes ((framing .standard card c).map encode) t →
      ∃ r, (run (transmitFramed .standard card c) t).1 = .ok r) := by
  refine ⟨?_, fun hext hchaining hnc => run_transmitFramed_of_cannotTransmit hext hchaining hnc t,
    ?progress⟩
  case progress =>
    intro hsome hnc htakes
    have hne : framing .standard card c ≠ [] := by
      intro hnil
      obtain ⟨hext, hchaining, hlong⟩ := (framing_standard_eq_nil_iff card c).mp hnil
      rcases hsome with h | h | h
      · exact Bool.false_ne_true (hext ▸ h)
      · exact Bool.false_ne_true (hchaining ▸ h)
      · exact Nat.not_lt.mpr h hlong
    exact ok_transmitFramed_of_takes .standard card c t hne (check_of_mem_framing hle hnc) htakes
  obtain ⟨n, hframes, hvalid, hcomplete⟩ := frames_transmitFramed .standard card c t
  obtain ⟨inbox, hread, hpartial, hwhole⟩ := read_framing card hclass hle n hvalid
  refine ⟨_, inbox, hframes, hread, ?_, ?_, ?_⟩
  · rcases Nat.lt_or_ge n (framing .standard card c).length with hlt | hge
    · exact Or.inl (hpartial hlt)
    · by_cases hnil : framing .standard card c = []
      · -- Nothing was sent, so nothing is read.
        rw [hnil, List.take_nil] at hread
        obtain rfl : {} = inbox := Option.some.inj hread
        exact Or.inl rfl
      · exact Or.inr (hwhole hge hnil)
  · intro hall hne
    -- All frames have come, so the last one has.
    have hnil : framing .standard card c ≠ [] := by
      intro h
      rw [h, List.take_nil] at hne
      exact hne rfl
    have hlength := congrArg List.length hall
    rw [List.length_map, List.length_map, List.length_take] at hlength
    exact hwhole (by omega) hnil
  · rintro ⟨r, hr⟩
    refine hwhole (hcomplete ⟨r, hr⟩) ?_
    intro hnil
    obtain ⟨hext, hchaining, hnc⟩ := (framing_standard_eq_nil_iff card c).mp hnil
    rw [run_transmitFramed_of_cannotTransmit hext hchaining hnc t] at hr
    exact nomatch hr

/-- A command with 300 bytes of data for a card that takes both of its segments. -/
theorem read_transmitFramed_two_segments :
    let c : Command :=
      { cla := 0x00, ins := 0x2A, p1 := 0x80, p2 := 0x86,
        data := some (List.replicate 300 0x55), le := some 65536 }
    let link : Simulator.ScriptedLink :=
      { connected := true, turns := List.replicate 2 (.answer [0x90, 0x00]) }
    Inbox.read? (run (transmitFramed .standard { chaining := true } c) (Tapped.mk link [])).2.frames
      = some { commands := [{ c with le := some 256 }] } := by
  intro c link
  obtain ⟨frames, inbox, hframes, hread, -, -, hok⟩ :=
    (read_transmitFramed { chaining := true } (c := c) (by decide) (by decide) (Tapped.mk link [])).1
  rw [hframes]
  refine hread.trans (congrArg some (hok ?_))
  have hrun : (run (transmitFramed .standard { chaining := true } c) (Tapped.mk link [])).1.isOk
      = true := by decide +kernel
  cases h : (run (transmitFramed .standard { chaining := true } c) (Tapped.mk link [])).1 with
  | ok r => exact ⟨r, rfl⟩
  | error e =>
    rw [h] at hrun
    cases hrun

end Link

end PgpCard
