import PgpCard.Proofs.Link.Framing
import PgpCard.Proofs.Link.Parts

/-!
# `PgpCard.Proofs.Link.ShortForm`: frames for a card without extended lengths

A card that does not understand extended lengths must not see them. Which form a frame has is
nowhere decided as such: the encoding takes the short one whenever both lengths fit it. So the
framing has to see to the lengths.

`Command.shortForm` is the short form by itself, without a choice, and a `ShortFrame` is the short
form of some command whose lengths fit. `exchangePlain_short` says that a whole exchange sends no
other frames to a card without extended lengths, whatever the command, and whatever the card
answers. It comes from what holds of the single frames: those of the framing
(`short_of_mem_framing`) and those that fetch more of an answer.
-/

set_option autoImplicit false

namespace PgpCard

open Step

namespace Command

/-- Both lengths fit the short form. -/
structure Short (c : Command) : Prop where
  nc : c.nc ≤ maxShortNc
  le : ∀ le ∈ c.le, 0 < le ∧ le ≤ maxShortNe

/-- The short form: the header, the data behind its length where there is some, and the expected
length. A length is one byte, and an expected length of 256 becomes zero. -/
def shortForm (c : Command) : Bytes :=
  [c.cla, c.ins, c.p1, c.p2] ++
    (if c.payload = [] then [] else UInt8.ofNat c.payload.length :: c.payload) ++
    (c.le.map UInt8.ofNat).toList

variable {c : Command}

theorem Short.not_isExtended (h : c.Short) : c.isExtended = false := by
  have hne : c.ne ≤ maxShortNe := by
    unfold ne
    cases hle : c.le with
    | none => exact Nat.zero_le _
    | some le => exact (h.le le hle).2
  exact isExtended_eq_false h.nc hne

/-- A command whose lengths fit the short form is encoded in it. -/
theorem Short.encode_eq (h : c.Short) : c.encode = c.shortForm := by
  have hdata : c.encodeData = if c.payload = [] then [] else
      UInt8.ofNat c.payload.length :: c.payload := by
    simp only [encodeData, nc_eq_zero_iff, h.not_isExtended]
    rfl
  have hle : c.encodeLe = (c.le.map UInt8.ofNat).toList := by
    unfold encodeLe
    cases c.le <;> simp [h.not_isExtended]
  rw [encode, shortForm, hdata, hle]

/-- A short frame has a header of four bytes, one length byte, 255 data bytes and one byte of
expected length at most. -/
theorem Short.length_shortForm_le (h : c.Short) : c.shortForm.length ≤ 261 := by
  have hnc : c.payload.length ≤ 255 := h.nc
  have hle : (c.le.map UInt8.ofNat).toList.length ≤ 1 := by cases c.le <;> simp
  have hdata : (if c.payload = [] then [] else
      UInt8.ofNat c.payload.length :: c.payload).length ≤ 256 := by
    split
    · exact Nat.zero_le _
    · exact Nat.succ_le_succ hnc
  simp only [shortForm, List.length_append, List.length_cons, List.length_nil]
  omega

/-- GET RESPONSE asks for 256 bytes at most, and has no data. -/
theorem short_getResponse (sw2 : UInt8) : (getResponse sw2).Short := by
  refine ⟨Nat.zero_le _, ?_⟩
  rintro le ⟨⟩
  exact ⟨shortLe_pos sw2, shortLe_le sw2⟩

end Command

/-- The frame is the short form of a command whose lengths fit it. -/
def ShortFrame (frame : Bytes) : Prop := ∃ c : Command, c.Short ∧ frame = c.shortForm

namespace Link

open Command

/-- The framing for a card without extended lengths consists of commands that fit the short form,
up to an expected length of zero, which is not sent. -/
theorem short_of_mem_framing {card : CardCapabilities} (hext : card.extendedLength = false)
    {c s : Command} (hs : s ∈ framing .standard card c) (hcheck : s.check = .ok ()) : s.Short := by
  have hpos : ∀ le ∈ s.le, 0 < le := fun le h => ((check_eq_ok_iff.mp hcheck).2 le h).1
  -- Nothing asks for more than the clamped command.
  have hclamped : ∀ le ∈ c.toShort.le, le ≤ maxShortNe := by
    intro le h
    obtain ⟨le', -, rfl⟩ : ∃ le' ∈ c.le, min le' maxShortNe = le := by simpa [toShort] using h
    exact Nat.min_le_right _ _
  unfold framing at hs
  rw [if_neg (ne_true_of_eq_false hext)] at hs
  by_cases hfits : CommandSet.standard.fitsShort c = true
  · rw [if_pos hfits] at hs
    obtain rfl : s = c.toShort := List.mem_singleton.mp hs
    exact ⟨of_decide_eq_true hfits, fun le h => ⟨hpos le h, hclamped le h⟩⟩
  rw [if_neg hfits] at hs
  by_cases hchaining : card.chaining = true
  · rw [if_pos hchaining] at hs
    have hchain : CommandSet.standard.chain c = segments c.toShort c.payload :=
      if_neg fun h => hfits (decide_eq_true h)
    rw [hchain] at hs
    obtain ⟨hnc, hasks⟩ := lengths_of_mem_segments c.payload s hs
    exact ⟨hnc, fun le h => ⟨hpos le h, hclamped le (hasks le h)⟩⟩
  · rw [if_neg hchaining] at hs
    exact absurd hs List.not_mem_nil

variable {τ : Type}

/-- All frames that the step sends are of this kind. -/
def Emits (kind : Bytes → Prop) {α : Type} (step : EStateM Error (Tapped τ) α) : Prop :=
  ∀ t, ∃ frames, (run step t).2.frames = t.frames ++ frames ∧ ∀ f ∈ frames, kind f

theorem emits_composable (kind : Bytes → Prop) :
    Composable (τ := Tapped τ) fun _ step => Emits kind step where
  pure _ t := ⟨[], (List.append_nil _).symm, by simp⟩
  giveUp _ t := ⟨[], (List.append_nil _).symm, by simp⟩
  bind {α β step next} hstep hnext t := by
    obtain ⟨frames, hframes, hkind⟩ := hstep t
    rcases hrun : run step t with ⟨e | a, t'⟩
    · rw [run_bind_of_error hrun]
      rw [hrun] at hframes
      exact ⟨frames, hframes, hkind⟩
    · rw [run_bind_of_ok hrun]
      rw [hrun] at hframes
      obtain ⟨frames', hframes', hkind'⟩ := hnext a t'
      refine ⟨frames ++ frames', ?_, List.forall_mem_append.mpr ⟨hkind, hkind'⟩⟩
      rw [hframes', hframes, List.append_assoc]

variable [Link τ]

/-- A command is sent at most once, and only if it is valid. -/
theorem transmitPlain_emits {kind : Bytes → Prop} {c : Command}
    (h : c.check = .ok () → kind c.encode) : Emits (τ := τ) kind (transmitPlain c) := by
  intro t
  cases hcheck : c.check with
  | error fault =>
    rw [run_transmitPlain_of_check_error hcheck]
    exact ⟨[], (List.append_nil _).symm, by simp⟩
  | ok u => exact ⟨[c.encode], frames_transmitPlain hcheck t, by simpa using h hcheck⟩

/-- An exchange with a card without extended lengths sends short frames only. -/
theorem exchangePlain_short {card : CardCapabilities} (hext : card.extendedLength = false)
    (maxRounds : Nat) (c : Command) :
    Emits (τ := τ) ShortFrame (exchangePlain .standard maxRounds card c) := by
  refine (emits_composable ShortFrame).exchangePlain maxRounds (fun s hs => ?_) fun sw2 => ?_
  · apply transmitPlain_emits
    intro hcheck
    have hshort := short_of_mem_framing hext hs hcheck
    exact ⟨s, hshort, hshort.encode_eq⟩
  · apply transmitPlain_emits
    intro _
    exact ⟨getResponse sw2, short_getResponse sw2, (short_getResponse sw2).encode_eq⟩

end Link

end PgpCard
