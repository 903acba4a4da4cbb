import PgpCard.Proofs.Session.Connected
import PgpCard.Proofs.Session.Parts

/-!
# `PgpCard.Proofs.Session.Fingerprints`: two readings of the fingerprints

A card sends the fingerprints of its keys as one block, and there are two ways to read it. The
token information cuts the block into fingerprints from its beginning, and a single key is looked
up where its position says that it must be. The two never differ, whatever the length of the block
(`Fingerprint.getElem?_split`). What is left behind the last whole fingerprint is in neither.

The token information takes its fingerprints from before two exchanges, and what a key has may be
asked after them. So it also matters that exchanges leave the session as it is. A step is
`Undisturbing` if it does so whenever it succeeds, and `readings_agree` puts both together.
-/

set_option autoImplicit false

namespace PgpCard

open Step

/-! ### A block and its fingerprints -/

namespace Fingerprint

/-- Too few bytes for one fingerprint are none. -/
theorem split_of_lt {block : Bytes} (h : block.length < length) : split block = [] := by
  have hcut : Bytes.cut? length block = none := Bytes.cut?_eq_none_iff.mpr h
  rw [split]
  split
  · rfl
  · next hsome => cases hcut.symm.trans hsome

/-- A block that begins with a fingerprint has that one first, and then those of the rest. -/
theorem split_append {one : Bytes} (h : one.length = length) (rest : Bytes) :
    split (one ++ rest) = one :: split rest := by
  have hcut : Bytes.cut? length (one ++ rest) = some (one, rest) :=
    Bytes.cut?_eq_some_iff.mpr ⟨rfl, h⟩
  rw [split]
  split
  · next hnone => cases hcut.symm.trans hnone
  · next one' rest' hsome =>
    obtain ⟨rfl, rfl⟩ := Prod.mk.inj (Option.some.inj (hcut.symm.trans hsome))
    rfl

/-- Induction along the fingerprints of a block: there are too few bytes for one, or one comes
first. -/
@[elab_as_elim]
theorem block_induction {motive : Bytes → Prop}
    (short : ∀ block : Bytes, block.length < length → motive block)
    (further : ∀ one rest : Bytes, one.length = length → motive rest → motive (one ++ rest))
    (block : Bytes) : motive block := by
  induction block using split.induct with
  | case1 block hcut => exact short block (Bytes.cut?_eq_none_iff.mp hcut)
  | case2 block one rest hcut _ ih =>
    obtain ⟨rfl, hone⟩ := Bytes.cut?_eq_some_iff.mp hcut
    exact further one rest hone ih

/-- There are as many fingerprints as fit the block. -/
theorem length_split (block : Bytes) : (split block).length = block.length / length := by
  induction block using block_induction with
  | short block hshort => rw [split_of_lt hshort, Nat.div_eq_of_lt hshort, List.length_nil]
  | further one rest hone ih =>
    rw [split_append hone, List.length_cons, ih, List.length_append, hone]
    simp only [length]
    omega

theorem length_of_mem_split (block : Bytes) : ∀ f ∈ split block, f.length = length := by
  induction block using block_induction with
  | short block hshort =>
    rw [split_of_lt hshort]
    exact List.forall_mem_nil _
  | further one rest hone ih =>
    rw [split_append hone]
    exact List.forall_mem_cons.mpr ⟨hone, ih⟩

/-- The fingerprints make up the block again, up to the bytes that are too few for one more. -/
theorem flatten_split (block : Bytes) :
    (split block).flatten = block.take (length * (split block).length) := by
  induction block using block_induction with
  | short block hshort =>
    rw [split_of_lt hshort]
    rfl
  | further one rest hone ih =>
    rw [split_append hone, List.flatten_cons, ih, List.length_cons, Nat.mul_succ, Nat.add_comm,
      ← hone, List.take_length_add_append]

/-- A block without a whole fingerprint has none at any position. -/
theorem at?_of_lt {block : Bytes} (h : block.length < length) (position : Nat) :
    at? block position = none := by
  refine if_neg ?_
  rw [List.length_take, List.length_drop]
  omega

/-- The first position is that of the first fingerprint. -/
theorem at?_append_zero {one : Bytes} (h : one.length = length) (rest : Bytes) :
    at? (one ++ rest) 0 = some one := by
  simp [at?, ← h]

/-- The positions behind the first fingerprint are those of the rest. -/
theorem at?_append_succ {one : Bytes} (h : one.length = length) (rest : Bytes) (position : Nat) :
    at? (one ++ rest) (position + 1) = at? rest position := by
  have hdrop : (one ++ rest).drop ((position + 1) * length) = rest.drop (position * length) := by
    rw [Nat.succ_mul, Nat.add_comm, ← h, List.drop_length_add_append]
  rw [at?, hdrop]
  rfl

/-- Cutting a block into fingerprints and looking at one position in it come to the same. -/
theorem getElem?_split (block : Bytes) : ∀ position, (split block)[position]? = at? block position := by
  induction block using block_induction with
  | short block hshort =>
    intro position
    rw [split_of_lt hshort, at?_of_lt hshort]
    rfl
  | further one rest hone ih =>
    intro position
    rw [split_append hone]
    cases position with
    | zero => rw [at?_append_zero hone, List.getElem?_cons_zero]
    | succ position => rw [at?_append_succ hone, List.getElem?_cons_succ, ih]

end Fingerprint

/-! ### What a session reports -/

/-- The session reads these fingerprints in its application data. -/
structure Session.Reads {κ : Type} (s : Session κ) (fingerprints : List Bytes) : Prop where
  /-- Without a block there are none, for no key. -/
  absent : s.fingerprints? = none →
    fingerprints = [] ∧ ∀ slot, s.keyFingerprint? slot = none
  /-- There are as many as fit the block. -/
  count : ∀ block ∈ s.fingerprints?, fingerprints.length = block.length / Fingerprint.length
  whole : ∀ f ∈ fingerprints, f.length = Fingerprint.length
  /-- Together they are what the block begins with. -/
  joined : ∀ block ∈ s.fingerprints?,
    fingerprints.flatten = block.take (Fingerprint.length * fingerprints.length)
  /-- A key has the fingerprint at its position, if there is one. -/
  slots : ∀ slot : KeySlot, s.keyFingerprint? slot = fingerprints[slot.index]?

namespace Session

variable {κ : Type}

/-- The fingerprints of the block are what the session reads. -/
theorem reads_split (s : Session κ) : s.Reads (Fingerprint.split (s.fingerprints?.getD [])) := by
  cases hblock : s.fingerprints? with
  | none =>
    have hnone : Fingerprint.split [] = [] := Fingerprint.split_of_lt (by decide)
    have hslots : ∀ slot, s.keyFingerprint? slot = none := by
      intro slot
      rw [keyFingerprint?, hblock]
      rfl
    rw [Option.getD_none, hnone]
    have hblocks : ∀ block, block ∉ s.fingerprints? := fun block h => nomatch hblock.symm.trans h
    exact ⟨fun _ => ⟨rfl, hslots⟩, fun block h => absurd h (hblocks block),
      List.forall_mem_nil _, fun block h => absurd h (hblocks block), hslots⟩
  | some block =>
    have honly : ∀ block' ∈ s.fingerprints?, block = block' :=
      fun block' h => Option.some.inj (hblock.symm.trans h)
    refine ⟨?_, ?_, Fingerprint.length_of_mem_split _, ?_, ?_⟩
    · intro h
      exact nomatch hblock.symm.trans h
    · intro block' h
      rw [← honly block' h]
      exact Fingerprint.length_split block
    · intro block' h
      rw [← honly block' h]
      exact Fingerprint.flatten_split block
    · intro slot
      rw [keyFingerprint?, hblock]
      exact (Fingerprint.getElem?_split block slot.index).symm

/-- Nothing but the application data matters. -/
theorem Reads.congr {s s' : Session κ} (h : s'.application = s.application)
    {fingerprints : List Bytes} (hreads : s.Reads fingerprints) : s'.Reads fingerprints := by
  have hblock : s'.fingerprints? = s.fingerprints? := by rw [fingerprints?, h, fingerprints?]
  have hslot : s'.keyFingerprint? = s.keyFingerprint? := by
    funext slot
    rw [keyFingerprint?, hblock, keyFingerprint?]
  obtain ⟨habsent, hcount, hwhole, hjoined, hslots⟩ := hreads
  refine ⟨?_, ?_, hwhole, ?_, ?_⟩
  · rwa [hblock, hslot]
  · rwa [hblock]
  · rwa [hblock]
  · rwa [hslot]

end Session

/-! ### The token information -/

namespace SessionM

variable {τ κ : Type}

/-- Where the step succeeds it has left the session as it was, up to the channel. -/
def Undisturbing {α : Type} (step : SessionM τ κ α) : Prop :=
  ∀ b a b', run step b = (.ok a, b') →
    b'.session = { b.session with channel := b'.session.channel }

theorem undisturbing_composable :
    Composable (τ := τ) (κ := κ) fun _ step => Undisturbing step where
  pure := by
    rintro α a b _ _ ⟨⟩
    rfl
  refuse := by
    rintro α e - b a b' ⟨⟩
  session := by
    rintro b _ _ ⟨⟩
    rfl
  link := by
    rintro b _ _ ⟨⟩
    rfl
  bind := by
    intro α β step next hstep hnext b a b'' h
    obtain ⟨a', b', hfirst, hsecond⟩ := run_bind_eq_ok h
    rw [hnext a' b' a b'' hsecond, hstep b a' b' hfirst]

variable [Link τ] [Channel κ]

/-- An exchange that succeeds has not lost the card, so there was nothing to forget. -/
theorem undisturbing_communicate (purpose : Purpose) (c : Command) :
    Undisturbing (τ := τ) (κ := κ) (communicate purpose c) := by
  intro b r b' h
  obtain ⟨events, hpassed, hloss, -⟩ := communicate_eq_ok h
  exact hpassed.session_of_no_loss hloss

theorem undisturbing_tokenInfo : Undisturbing (τ := τ) (κ := κ) tokenInfo :=
  undisturbing_composable.tokenInfo fun _ c => undisturbing_communicate _ c

omit [Link τ] [Channel κ] in
/-- A snapshot has the fingerprints of the session before. -/
theorem fingerprints_snapshot {before after : Session κ} {kind : LinkKind} {holder url : String}
    {info : TokenInfo} (h : snapshot before after kind holder url = .ok info) :
    info.fingerprints = Fingerprint.split (before.fingerprints?.getD []) := by
  unfold snapshot at h
  split at h
  · cases h
  · cases h
    rfl

/-- Only a session that has application data can report on its token. What it reports comes from
those. -/
theorem tokenInfo_eq_ok {b b' : Bench τ κ} {info : TokenInfo}
    (h : run tokenInfo b = (.ok info, b')) : b.session.application.isSome = true ∧
      info.fingerprints = Fingerprint.split (b.session.fingerprints?.getD []) := by
  rw [tokenInfo, run_session_bind] at h
  obtain ⟨u, b₀, hensure, h⟩ := run_bind_eq_ok h
  obtain ⟨hsome, rfl⟩ := ensure_eq_ok hensure
  refine ⟨hsome, ?_⟩
  obtain ⟨name, b₁, -, h⟩ := run_bind_eq_ok h
  obtain ⟨address, b₂, -, h⟩ := run_bind_eq_ok h
  rw [run_session_bind, run_link_bind] at h
  split at h
  · cases h
  · next hsnapshot =>
    cases h
    exact fingerprints_snapshot hsnapshot

/-- Whenever a session reports on its token, it has application data and keeps them. What the report
says about fingerprints is what the session reads for each key, before the report and after it. -/
theorem readings_agree {b b' : Bench τ κ} {info : TokenInfo}
    (h : tokenInfo.start b = (.ok info, b')) :
    b.session.application.isSome = true ∧ b'.session.application = b.session.application ∧
      b.session.Reads info.fingerprints ∧ b'.session.Reads info.fingerprints := by
  rw [start_eq_run] at h
  obtain ⟨hsome, hfingerprints⟩ := tokenInfo_eq_ok h
  have hkept : b'.session.application = b.session.application := by
    rw [undisturbing_tokenInfo b info b' h]
  have hreads : b.session.Reads info.fingerprints := by
    rw [hfingerprints]
    exact b.session.reads_split
  exact ⟨hsome, hkept, hreads, hreads.congr hkept⟩

open Simulator in
/-- A block of 87 bytes has room for a fourth fingerprint behind those of the three keys, and for
seven more bytes. -/
theorem readings_agree_odd_block :
    let block : Bytes := (List.range 87).map UInt8.ofNat
    let data : ApplicationData :=
      { aid := [], historicalBytes := [], card := {}, extended := none,
        pinStatus := some [0x00, 0x7F, 0x7F, 0x7F, 0x03, 0x00, 0x03], fingerprints := some block }
    let b : Bench ScriptedLink ToyChannel :=
      { session := (Session.new {} none).describe data
        link := { connected := true, turns := [.answer [0x90, 0x00], .answer [0x90, 0x00]] } }
    ∃ info b', tokenInfo.start b = (.ok info, b') ∧ info.fingerprints.length = 4 ∧
      info.fingerprints.flatten = block.take 80 ∧
      b'.session.keyFingerprint? .authentication = info.fingerprints[2]? := by
  intro block data b
  have hok : (tokenInfo.start b).1.isOk = true := by decide +kernel
  rcases h : tokenInfo.start b with ⟨e | info, b'⟩
  · rw [h] at hok
    exact nomatch hok
  · obtain ⟨-, -, hbefore, hafter⟩ := readings_agree h
    have hcount : info.fingerprints.length = 4 := (hbefore.count block rfl).trans (by decide)
    have hjoined := hbefore.joined block rfl
    rw [hcount] at hjoined
    exact ⟨info, b', rfl, hcount, hjoined, hafter.slots .authentication⟩

end SessionM

end PgpCard
