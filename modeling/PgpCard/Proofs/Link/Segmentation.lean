import PgpCard.Proofs.Link.Framing

/-!
# `PgpCard.Proofs.Link.Segmentation`: what a chain is made of

A command with more data than a short frame holds is cut into segments. A card puts these
together again, so no byte may get lost at a cut, and all segments but the last must say that they
are not the last. Lengths that are a multiple of 255 are where a cut goes wrong most easily: the
last segment is then a full one, and no empty one comes behind it.

`Segmentation` says what a chain for some data is made of. It holds of a single segment
(`Segmentation.single`), and a full segment in front of a chain makes a longer one
(`Segmentation.further`), so by induction on the data it holds of every chain. That all segments
are short, and which of them can be sent at all, is read off it. `standard_chain_segmented` is the
whole of it for the standard commands, also for data and expected lengths that no single frame
could hold.
-/

set_option autoImplicit false

namespace PgpCard.Command

/-- The chain carries the data for the command, in as few segments as possible. -/
structure Segmentation (c : Command) (data : Bytes) (chain : List Command) : Prop where
  /-- There are as many segments as the data fills or begins to fill, and one at least. -/
  count : chain.length = max 1 ((data.length + (maxShortNc - 1)) / maxShortNc)
  /-- Together the segments carry the data. -/
  joined : chain.flatMap payload = data
  header : ∀ s ∈ chain, s.ins = c.ins ∧ s.p1 = c.p1 ∧ s.p2 = c.p2
  /-- A segment that is not the last is full, says so, and asks for no answer. -/
  further : ∀ s ∈ chain.dropLast,
    s.nc = maxShortNc ∧ s.cla = c.cla ||| chainingBit ∧ s.le = none
  /-- The last segment has the class of the command, and asks for what the command does, as far as
  a short command can. It is empty only if there is no data at all. -/
  last : ∀ s ∈ chain.getLast?, s.nc ≤ maxShortNc ∧ (data ≠ [] → 0 < s.nc) ∧ s.cla = c.cla ∧
    s.le = c.le.map (min · maxShortNe)

namespace Segmentation

variable {c : Command} {data : Bytes} {chain : List Command}

/-- Data that fits a short command goes into one segment, be there any data or not. -/
theorem single (given : Option Bytes) (h : (given.getD []).length ≤ maxShortNc) :
    Segmentation c (given.getD []) [{ c.toShort with data := given }] := by
  refine ⟨?_, ?_, ?_, nofun, ?_⟩
  · simp only [maxShortNc, List.length_singleton] at h ⊢
    omega
  · rw [List.flatMap_singleton]
    rfl
  · exact List.forall_mem_singleton.mpr ⟨rfl, rfl, rfl⟩
  · rintro _ ⟨⟩
    exact ⟨h, List.length_pos_iff.mpr, rfl, rfl⟩

/-- There is always a segment, since even no data takes one. -/
theorem ne_nil (h : Segmentation c data chain) : chain ≠ [] := by
  rintro rfl
  have hcount := h.count
  rw [List.length_nil] at hcount
  omega

/-- A full segment in front of a chain for the rest of the data makes a chain for the data. -/
theorem further_cons (hdata : maxShortNc < data.length)
    (h : Segmentation c (data.drop maxShortNc) chain) :
    Segmentation c data (c.toShort.segment (data.take maxShortNc) :: chain) := by
  have hfull : (data.take maxShortNc).length = maxShortNc :=
    List.length_take_of_le (Nat.le_of_lt hdata)
  have hrest : data.drop maxShortNc ≠ [] :=
    fun hnil => absurd (List.drop_eq_nil_iff.mp hnil) (Nat.not_le.mpr hdata)
  refine ⟨?_, ?_, ?_, ?_, ?_⟩
  · -- The rest is not empty, so it takes as many segments as it fills or begins to fill.
    have hcount := h.count
    simp only [maxShortNc, List.length_drop, List.length_cons] at hdata hcount ⊢
    omega
  · rw [List.flatMap_cons, h.joined]
    exact List.take_append_drop maxShortNc data
  · exact List.forall_mem_cons.mpr ⟨⟨rfl, rfl, rfl⟩, h.header⟩
  · rw [List.dropLast_cons_of_ne_nil h.ne_nil]
    exact List.forall_mem_cons.mpr ⟨⟨hfull, rfl, rfl⟩, h.further⟩
  · intro s hs
    rw [List.getLast?_cons_of_ne_nil h.ne_nil] at hs
    obtain ⟨hnc, hpos, hlast⟩ := h.last s hs
    exact ⟨hnc, fun _ => hpos hrest, hlast⟩

/-- The segments are those before the last one, and the last one. -/
theorem exists_last (h : Segmentation c data chain) :
    ∃ last ∈ chain.getLast?, chain = chain.dropLast ++ [last] :=
  ⟨chain.getLast h.ne_nil, List.getLast?_eq_some_getLast h.ne_nil,
    (List.dropLast_concat_getLast h.ne_nil).symm⟩

/-- Every segment has little data, and asks for no more than the command and no more than a short
command can. -/
theorem lengths (h : Segmentation c data chain) {s : Command} (hs : s ∈ chain) :
    s.nc ≤ maxShortNc ∧ ∀ le ∈ s.le, le ∈ c.le.map (min · maxShortNe) := by
  obtain ⟨last, hlast, hchain⟩ := h.exists_last
  rw [hchain, List.mem_append, List.mem_singleton] at hs
  rcases hs with hs | rfl
  · obtain ⟨hnc, -, hle⟩ := h.further s hs
    rw [hle]
    exact ⟨Nat.le_of_eq hnc, nofun⟩
  · obtain ⟨hnc, -, -, hle⟩ := h.last s hlast
    rw [hle]
    exact ⟨hnc, fun le hle => hle⟩

/-- No segment needs the extended form. -/
theorem not_isExtended (h : Segmentation c data chain) {s : Command} (hs : s ∈ chain) :
    s.isExtended = false := by
  obtain ⟨hnc, hle⟩ := h.lengths hs
  refine isExtended_eq_false hnc ?_
  unfold ne
  cases hasked : s.le with
  | none => exact Nat.zero_le _
  | some le =>
    obtain ⟨asked, -, rfl⟩ := Option.map_eq_some_iff.mp (hle le hasked)
    exact Nat.min_le_right _ _

/-- All segments can be sent, unless the command asks for an answer of no bytes. Then the last one
can not. -/
theorem check_iff (h : Segmentation c data chain) :
    (∀ s ∈ chain, s.check = .ok ()) ↔ c.le ≠ some 0 := by
  constructor
  · intro hvalid hzero
    obtain ⟨last, hlast, hchain⟩ := h.exists_last
    have hcheck := hvalid last (List.mem_of_getLast? hlast)
    obtain ⟨-, -, -, hle⟩ := h.last last hlast
    rw [hzero] at hle
    exact absurd ((check_eq_ok_iff.mp hcheck).2 0 hle).1 (Nat.lt_irrefl 0)
  · intro hle s hs
    obtain ⟨hnc, hasks⟩ := h.lengths hs
    refine check_of_short hnc fun le hs => ?_
    obtain ⟨asked, hasked, rfl⟩ := Option.map_eq_some_iff.mp (hasks le hs)
    have hpos : asked ≠ 0 := by
      rintro rfl
      exact hle hasked
    exact ⟨Nat.lt_min.mpr ⟨Nat.pos_of_ne_zero hpos, by decide⟩, Nat.min_le_right _ _⟩

end Segmentation

/-- The segments for some data carry it. The induction is on the data. -/
theorem segmentation_segments (c : Command) (data : Bytes) :
    Segmentation c data (segments c.toShort data) := by
  induction data using segments_induction with
  | last data hdata =>
    rw [segments_of_length_le c.toShort hdata]
    exact .single (some data) hdata
  | further data hdata ih =>
    rw [segments_of_lt_length c.toShort hdata]
    exact .further_cons hdata ih

/-- A command without much data is its own chain, and any other is cut into segments. -/
theorem segmentation_chain (c : Command) : Segmentation c c.payload c.chain := by
  unfold chain
  split
  · next hnc => exact .single c.data hnc
  · exact segmentation_segments c c.payload

/-- A chain of the standard commands carries the data of the command, whatever its length. No
segment needs the extended form, and all of them can be sent unless the command asks for an answer
of no bytes. -/
theorem standard_chain_segmented (c : Command) :
    Segmentation c c.payload (CommandSet.standard.chain c) ∧
      (∀ s ∈ CommandSet.standard.chain c, s.isExtended = false) ∧
      ((∀ s ∈ CommandSet.standard.chain c, s.check = .ok ()) ↔ c.le ≠ some 0) := by
  have h : Segmentation c c.payload (CommandSet.standard.chain c) := segmentation_chain c
  exact ⟨h, fun s hs => h.not_isExtended hs, h.check_iff⟩

/-- Data that fills its segments leaves no empty one at the end. -/
example : (chain (sign (List.replicate 510 0x55))).map nc = [255, 255] := by decide +kernel

end PgpCard.Command
