import PgpCard.Proofs.Apdu.Encoding

/-!
# `PgpCard.Proofs.Apdu.Forms`: the forms of a frame, and the shortest of them

ISO/IEC 7816-4 knows seven forms of what follows the header of a command: data and expected
length are each there or not, and with either of them the lengths are short or extended.
`Form.Spells` lists them together with what they mean. `decodeBody` tells them apart by the number
of bytes and by the first one, and `decodeBody_eq_some_iff` says that it reads those forms and
nothing else.

A command can have two frames, since small lengths may be written in extended form as well.
`decode_canonical` adds that the encoder writes the shorter one. Two things are behind that. The
width of a form tells it from the others with the same parts (`Form.eq_of_width`), and within one
form nothing can be written in two ways (`Form.Spells.injective`).
-/

set_option autoImplicit false

namespace PgpCard.Command

/-- What can follow the header of a frame. -/
inductive Form where
  /-- Nothing. -/
  | bare
  /-- An expected length. -/
  | le
  /-- Data behind its length. -/
  | data
  /-- Data behind its length, and an expected length. -/
  | dataLe
  /-- A zero byte and an extended expected length. -/
  | extendedLe
  /-- A zero byte, and data behind its extended length. -/
  | extendedData
  /-- A zero byte, data behind its extended length, and an extended expected length. -/
  | extendedDataLe

namespace Form

/-- The bytes have this form, and this is what they say. A length of data is that of the data that
follows, and not zero. -/
inductive Spells : Form → Bytes → Body → Prop where
  | bare : Spells .bare [] (none, none)
  | le (le : UInt8) : Spells .le [le] (none, some (shortLe le))
  | data (lc : UInt8) (data : Bytes) :
    lc ≠ 0 → data.length = lc.toNat → Spells .data (lc :: data) (some data, none)
  | dataLe (lc : UInt8) (data : Bytes) (le : UInt8) :
    lc ≠ 0 → data.length = lc.toNat →
    Spells .dataLe (lc :: (data ++ [le])) (some data, some (shortLe le))
  | extendedLe (hi lo : UInt8) :
    Spells .extendedLe [0x00, hi, lo] (none, some (Command.extendedLe hi lo))
  | extendedData (hi lo : UInt8) (data : Bytes) :
    data ≠ [] → data.length = hi.toNat * 256 + lo.toNat →
    Spells .extendedData (0x00 :: hi :: lo :: data) (some data, none)
  | extendedDataLe (hi lo : UInt8) (data : Bytes) (leHi leLo : UInt8) :
    data ≠ [] → data.length = hi.toNat * 256 + lo.toNat →
    Spells .extendedDataLe (0x00 :: hi :: lo :: (data ++ [leHi, leLo]))
      (some data, some (Command.extendedLe leHi leLo))

/-- The frame is a header and a body of this form, and this is the command that it encodes. -/
def Writes (form : Form) (frame : Bytes) (c : Command) : Prop :=
  ∃ body, frame = c.cla :: c.ins :: c.p1 :: c.p2 :: body ∧ form.Spells body (c.data, c.le)

/-- The form has a data field. -/
def hasData : Form → Bool
  | .bare | .le | .extendedLe => false
  | .data | .dataLe | .extendedData | .extendedDataLe => true

/-- The form has an expected length. -/
def hasLe : Form → Bool
  | .bare | .data | .extendedData => false
  | .le | .dataLe | .extendedLe | .extendedDataLe => true

/-- The number of bytes of the form around `nc` bytes of data. -/
def width (nc : Nat) : Form → Nat
  | .bare => 0
  | .le => 1
  | .data => 1 + nc
  | .dataLe => 2 + nc
  | .extendedLe => 3
  | .extendedData => 3 + nc
  | .extendedDataLe => 5 + nc

/-- Forms with the same parts have different widths. -/
theorem eq_of_width {form form' : Form} {nc : Nat} (hdata : form.hasData = form'.hasData)
    (hle : form.hasLe = form'.hasLe) (hwidth : form.width nc = form'.width nc) : form = form' := by
  cases form <;> cases form' <;> simp [hasData, hasLe, width] at hdata hle hwidth ⊢

/-- What is said is there in the form, and the form has nothing else. -/
theorem Spells.parts {form : Form} {body : Bytes} {r : Body} (h : form.Spells body r) :
    r.1.isSome = form.hasData ∧ r.2.isSome = form.hasLe ∧
      body.length = form.width (r.1.getD []).length := by
  cases h <;> simp [hasData, hasLe, width] <;> omega

end Form

/-! ### Lengths that are read -/

theorem extendedLe_pos (hi lo : UInt8) : 0 < extendedLe hi lo := by
  unfold extendedLe
  dsimp only
  split
  · decide
  · omega

theorem extendedLe_le (hi lo : UInt8) : extendedLe hi lo ≤ maxExtendedNe := by
  have hhi := hi.toNat_lt
  have hlo := lo.toNat_lt
  unfold extendedLe maxExtendedNe
  dsimp only
  split <;> omega

/-- Two bytes are those of the number that they write. -/
theorem twoBytes_toNat_add (hi lo : UInt8) : twoBytes (hi.toNat * 256 + lo.toNat) = [hi, lo] := by
  have hlo := lo.toNat_lt
  have hquotient : (hi.toNat * 256 + lo.toNat) / 256 = hi.toNat := by omega
  have hrest : UInt8.ofNat (hi.toNat * 256 + lo.toNat) = lo := by
    rw [← UInt8.toNat_inj, UInt8.toNat_ofNat']
    omega
  rw [twoBytes, hquotient, UInt8.ofNat_toNat, hrest]

/-- The bytes of an extended expected length are those that it was read from. -/
theorem twoBytes_extendedLe (hi lo : UInt8) : twoBytes (extendedLe hi lo) = [hi, lo] := by
  unfold extendedLe
  dsimp only
  split
  · next h =>
    -- 65536 is written as zero.
    rw [← twoBytes_toNat_add hi lo, h]
    rfl
  · exact twoBytes_toNat_add hi lo

theorem shortLe_inj {b b' : UInt8} (h : shortLe b = shortLe b') : b = b' := by
  rw [← ofNat_shortLe b, h, ofNat_shortLe]

theorem extendedLe_inj {hi lo hi' lo' : UInt8} (h : extendedLe hi lo = extendedLe hi' lo') :
    hi = hi' ∧ lo = lo' := by
  have hbytes : [hi, lo] = [hi', lo'] := by
    rw [← twoBytes_extendedLe hi lo, h, twoBytes_extendedLe]
  simpa using hbytes

theorem count_inj {hi lo hi' lo' : UInt8}
    (h : hi.toNat * 256 + lo.toNat = hi'.toNat * 256 + lo'.toNat) : hi = hi' ∧ lo = lo' := by
  have hbytes : [hi, lo] = [hi', lo'] := by
    rw [← twoBytes_toNat_add hi lo, h, twoBytes_toNat_add]
  simpa using hbytes

/-! ### What the forms say -/

namespace Form.Spells

variable {form form' : Form} {body body' : Bytes} {r r' : Body}

/-- In one form a body is written in one way. -/
theorem injective (h : form.Spells body r) (h' : form.Spells body' r') (hr : r = r') :
    body = body' := by
  cases h with
  | bare =>
    cases h'
    rfl
  | le le =>
    cases h' with | le le' =>
    obtain rfl := shortLe_inj (by simpa using hr)
    rfl
  | data lc data _ hlc =>
    cases h' with | data lc' data' _ hlc' =>
    obtain rfl : data = data' := by simpa using hr
    obtain rfl := UInt8.toNat_inj.mp (hlc.symm.trans hlc')
    rfl
  | dataLe lc data le _ hlc =>
    cases h' with | dataLe lc' data' le' _ hlc' =>
    obtain ⟨rfl, hle⟩ : data = data' ∧ shortLe le = shortLe le' := by simpa using hr
    obtain rfl := UInt8.toNat_inj.mp (hlc.symm.trans hlc')
    obtain rfl := shortLe_inj hle
    rfl
  | extendedLe hi lo =>
    cases h' with | extendedLe hi' lo' =>
    obtain ⟨rfl, rfl⟩ := extendedLe_inj (by simpa using hr)
    rfl
  | extendedData hi lo data _ hlc =>
    cases h' with | extendedData hi' lo' data' _ hlc' =>
    obtain rfl : data = data' := by simpa using hr
    obtain ⟨rfl, rfl⟩ := count_inj (hlc.symm.trans hlc')
    rfl
  | extendedDataLe hi lo data leHi leLo _ hlc =>
    cases h' with | extendedDataLe hi' lo' data' leHi' leLo' _ hlc' =>
    obtain ⟨rfl, hle⟩ : data = data' ∧
        Command.extendedLe leHi leLo = Command.extendedLe leHi' leLo' := by simpa using hr
    obtain ⟨rfl, rfl⟩ := count_inj (hlc.symm.trans hlc')
    obtain ⟨rfl, rfl⟩ := extendedLe_inj hle
    rfl

/-- Data that is said is not empty, and both lengths are in the range of the extended form. -/
theorem inRange (h : form.Spells body r) :
    (∀ data ∈ r.1, data ≠ [] ∧ data.length ≤ maxExtendedNc) ∧
      ∀ le ∈ r.2, 0 < le ∧ le ≤ maxExtendedNe := by
  have hshort : ∀ b, shortLe b ≤ maxExtendedNe := fun b =>
    Nat.le_trans (shortLe_le b) (by decide)
  have hlc : ∀ (lc : UInt8) (data : Bytes), lc ≠ 0 → data.length = lc.toNat →
      data ≠ [] ∧ data.length ≤ maxExtendedNc := by
    rintro lc data hne hlength
    have hlt := lc.toNat_lt
    refine ⟨?_, by unfold maxExtendedNc; omega⟩
    rintro rfl
    exact toNat_ne_zero hne hlength.symm
  have hcount : ∀ (hi lo : UInt8) (data : Bytes), data.length = hi.toNat * 256 + lo.toNat →
      data.length ≤ maxExtendedNc := by
    intro hi lo data hlength
    have hhi := hi.toNat_lt
    have hlo := lo.toNat_lt
    unfold maxExtendedNc
    omega
  cases h with
  | bare => simp
  | le le => simp [shortLe_pos, hshort]
  | data lc data hne hlength => simpa using hlc lc data hne hlength
  | dataLe lc data le hne hlength => simpa [shortLe_pos, hshort] using hlc lc data hne hlength
  | extendedLe hi lo => simp [extendedLe_pos, extendedLe_le]
  | extendedData hi lo data hne hlength => simpa [hne] using hcount hi lo data hlength
  | extendedDataLe hi lo data leHi leLo hne hlength =>
    simpa [hne, extendedLe_pos, extendedLe_le] using hcount hi lo data hlength

end Form.Spells

/-! ### Reading the forms -/

/-- Behind the length of short data come that data and possibly an expected length. -/
theorem decodeShortBody_eq_some_iff {nc : Nat} {rest : Bytes} {r : Body} :
    decodeShortBody nc rest = some r ↔
      (rest.length = nc ∧ r = (some rest, none)) ∨
      ∃ data le, rest = data ++ [le] ∧ data.length = nc ∧ r = (some data, some (shortLe le)) := by
  constructor
  · intro h
    unfold decodeShortBody at h
    split at h
    · split at h
      · next hlength =>
        cases h
        exact Or.inl ⟨hlength, rfl⟩
      · cases h
    · next le hdrop =>
      cases h
      have hlength : rest.length - nc = 1 := by
        simpa using congrArg List.length hdrop
      refine Or.inr ⟨rest.take nc, le, ?_, by simp; omega, rfl⟩
      rw [← hdrop, List.take_append_drop]
    · cases h
  · rintro (⟨rfl, rfl⟩ | ⟨data, le, rfl, rfl, rfl⟩)
    · simpa using decodeShortBody_append rest (Or.inl ⟨rfl, rfl⟩)
    · exact decodeShortBody_append data (Or.inr ⟨le, rfl, rfl⟩)

/-- Behind the length of extended data come that data, if there is some, and possibly an
expected length. -/
theorem decodeExtendedBody_eq_some_iff {nc : Nat} {rest : Bytes} {r : Body} :
    decodeExtendedBody nc rest = some r ↔
      (rest ≠ [] ∧ rest.length = nc ∧ r = (some rest, none)) ∨
      ∃ data hi lo, rest = data ++ [hi, lo] ∧ data ≠ [] ∧ data.length = nc ∧
        r = (some data, some (extendedLe hi lo)) := by
  constructor
  · intro h
    unfold decodeExtendedBody at h
    split at h
    · cases h
    next hnc =>
    have hne : ∀ data : Bytes, data.length = nc → data ≠ [] := by
      rintro data hlength rfl
      exact hnc hlength.symm
    split at h
    · split at h
      · next hlength =>
        cases h
        exact Or.inl ⟨hne rest hlength, hlength, rfl⟩
      · cases h
    · next hi lo hdrop =>
      cases h
      have hlength : rest.length - nc = 2 := by
        simpa using congrArg List.length hdrop
      have htake : (rest.take nc).length = nc := by simp; omega
      refine Or.inr ⟨rest.take nc, hi, lo, ?_, hne _ htake, htake, rfl⟩
      rw [← hdrop, List.take_append_drop]
    · cases h
  · rintro (⟨hne, rfl, rfl⟩ | ⟨data, hi, lo, rfl, hne, rfl, rfl⟩)
    · simpa using decodeExtendedBody_append hne (Or.inl ⟨rfl, rfl⟩)
    · exact decodeExtendedBody_append hne (Or.inr ⟨hi, lo, rfl, rfl⟩)

/-- Each form is read as what it says. -/
theorem Form.Spells.decodeBody {form : Form} {body : Bytes} {r : Body} (h : form.Spells body r) :
    decodeBody body = some r := by
  have hne : ∀ data ∈ r.1, data ≠ [] := fun data hdata => (h.inRange.1 data hdata).1
  cases h with
  | bare => rfl
  | le le => rfl
  | data lc data hlc hlength =>
    rw [decodeBody_of_ne_zero hlc (hne data rfl)]
    exact decodeShortBody_eq_some_iff.mpr (Or.inl ⟨hlength, rfl⟩)
  | dataLe lc data le hlc hlength =>
    rw [decodeBody_of_ne_zero hlc (by simp)]
    exact decodeShortBody_eq_some_iff.mpr (Or.inr ⟨data, le, rfl, hlength, rfl⟩)
  | extendedLe hi lo => rfl
  | extendedData hi lo data hdata hlength =>
    rw [decodeBody_of_zero hi lo hdata]
    exact decodeExtendedBody_eq_some_iff.mpr (Or.inl ⟨hdata, hlength, rfl⟩)
  | extendedDataLe hi lo data leHi leLo hdata hlength =>
    rw [decodeBody_of_zero hi lo (by simp)]
    exact decodeExtendedBody_eq_some_iff.mpr (Or.inr ⟨data, leHi, leLo, rfl, hdata, hlength, rfl⟩)

/-- What is read has one of the forms. -/
theorem decodeBody_eq_some_iff {body : Bytes} {r : Body} :
    decodeBody body = some r ↔ ∃ form : Form, form.Spells body r := by
  refine ⟨fun h => ?_, fun ⟨form, h⟩ => h.decodeBody⟩
  match body with
  | [] =>
    cases h
    exact ⟨_, .bare⟩
  | [le] =>
    cases h
    exact ⟨_, .le le⟩
  | lc :: b :: rest =>
    by_cases hlc : lc = 0
    · subst hlc
      match rest with
      | [] => exact nomatch h
      | [lo] =>
        cases h
        exact ⟨_, .extendedLe b lo⟩
      | lo :: d :: rest =>
        rw [decodeBody_of_zero b lo (by simp)] at h
        rcases decodeExtendedBody_eq_some_iff.mp h with
          ⟨hne, hlength, rfl⟩ | ⟨data, leHi, leLo, hrest, hne, hlength, rfl⟩
        · exact ⟨_, .extendedData b lo _ hne hlength⟩
        · rw [hrest]
          exact ⟨_, .extendedDataLe b lo data leHi leLo hne hlength⟩
    · rw [decodeBody_of_ne_zero hlc (by simp)] at h
      rcases decodeShortBody_eq_some_iff.mp h with
        ⟨hlength, rfl⟩ | ⟨data, le, hrest, hlength, rfl⟩
      · exact ⟨_, .data lc _ hlc hlength⟩
      · rw [hrest]
        exact ⟨_, .dataLe lc data le hlc hlength⟩

/-- No bytes have two forms, or say two things. -/
theorem Form.Spells.unique {form form' : Form} {body : Bytes} {r r' : Body}
    (h : form.Spells body r) (h' : form'.Spells body r') : form = form' ∧ r = r' := by
  obtain rfl : r = r' := Option.some.inj (h.decodeBody.symm.trans h'.decodeBody)
  obtain ⟨hdata, hle, hwidth⟩ := h.parts
  obtain ⟨hdata', hle', hwidth'⟩ := h'.parts
  exact ⟨Form.eq_of_width (hdata.symm.trans hdata') (hle.symm.trans hle')
    (hwidth.symm.trans hwidth'), rfl⟩

/-! ### Frames -/

variable {frame : Bytes} {c : Command}

/-- A frame is read as a command when it has one of the forms for it. -/
theorem decode_eq_ok_iff : decode frame = .ok c ↔ ∃ form : Form, form.Writes frame c := by
  constructor
  · intro h
    unfold decode at h
    split at h
    · next cla ins p1 p2 body =>
      split at h
      · next data le hbody =>
        cases h
        obtain ⟨form, hspells⟩ := decodeBody_eq_some_iff.mp hbody
        exact ⟨form, body, rfl, hspells⟩
      · cases h
    · cases h
  · rintro ⟨form, body, rfl, hspells⟩
    simp only [decode, hspells.decodeBody]

/-- What is refused is refused by its length. -/
theorem eq_invalidLength_of_decode {e : CommandFault} (h : decode frame = .error e) :
    e = .invalidLength frame.length := by
  unfold decode at h
  split at h
  · split at h
    · cases h
    · cases h
      rfl
  · cases h
    rfl

/-- A frame is refused when it has none of the forms. -/
theorem decode_eq_error_iff {e : CommandFault} :
    decode frame = .error e ↔
      e = .invalidLength frame.length ∧ ∀ (form : Form) (c : Command), ¬ form.Writes frame c := by
  constructor
  · intro h
    refine ⟨eq_invalidLength_of_decode h, fun form c hwrites => ?_⟩
    have hread := decode_eq_ok_iff.mpr ⟨form, hwrites⟩
    exact nomatch h.symm.trans hread
  · rintro ⟨rfl, hnone⟩
    cases hread : decode frame with
    | ok c =>
      obtain ⟨form, hwrites⟩ := decode_eq_ok_iff.mp hread
      exact absurd hwrites (hnone form c)
    | error e => rw [eq_invalidLength_of_decode hread]

/-- No frame has two forms, or encodes two commands. -/
theorem Form.Writes.unique {form form' : Form} {c' : Command} (h : form.Writes frame c)
    (h' : form'.Writes frame c') : form = form' ∧ c = c' := by
  obtain ⟨cla, ins, p1, p2, data, le⟩ := c
  obtain ⟨cla', ins', p1', p2', data', le'⟩ := c'
  obtain ⟨body, rfl, hspells⟩ := h
  obtain ⟨body', hframe, hspells'⟩ := h'
  simp only [List.cons.injEq] at hframe
  obtain ⟨rfl, rfl, rfl, rfl, rfl⟩ := hframe
  obtain ⟨hform, hbody⟩ := hspells.unique hspells'
  simp only [Prod.mk.injEq] at hbody
  obtain ⟨rfl, rfl⟩ := hbody
  exact ⟨hform, rfl⟩

/-! ### The form that is written -/

/-- What is read passes the check, and has no empty data. -/
theorem check_of_decode (h : decode frame = .ok c) : c.check = .ok () ∧ c.normalize = c := by
  obtain ⟨form, body, -, hspells⟩ := decode_eq_ok_iff.mp h
  obtain ⟨hdata, hle⟩ := hspells.inRange
  rw [check_eq_ok_iff]
  obtain ⟨cla, ins, p1, p2, data, le⟩ := c
  cases data with
  | none => exact ⟨⟨Nat.zero_le _, hle⟩, rfl⟩
  | some data =>
    obtain ⟨hne, hlength⟩ := hdata data rfl
    refine ⟨⟨hlength, hle⟩, ?_⟩
    simp [normalize, payload, hne]

/-- So the encoding of what is read is read back as the same. -/
theorem decode_encode_of_decode (h : decode frame = .ok c) : decode c.encode = .ok c := by
  obtain ⟨hcheck, hnormal⟩ := check_of_decode h
  rw [decode_encode hcheck, hnormal]

/-- The length that is counted is not more than that of any form in which the command can be
written. -/
theorem Form.Writes.encodedLength_le {form : Form} (h : form.Writes frame c) :
    c.encodedLength ≤ frame.length := by
  have hlc : ∀ lc : UInt8, lc.toNat ≤ maxShortNc := fun lc => Nat.le_of_lt_succ lc.toNat_lt
  obtain ⟨cla, ins, p1, p2, data, le⟩ := c
  obtain ⟨body, rfl, hspells⟩ := h
  cases hspells with
  | bare => exact Nat.le_refl 4
  | le le =>
    have hshort : isExtended ⟨cla, ins, p1, p2, none, some (shortLe le)⟩ = false :=
      isExtended_eq_false (Nat.zero_le _) (shortLe_le le)
    simp [encodedLength, dataLength, leLength, hshort, nc, payload]
  | data lc data hne hlength =>
    have hshort : isExtended ⟨cla, ins, p1, p2, some data, none⟩ = false :=
      isExtended_eq_false (Nat.le_trans (Nat.le_of_eq hlength) (hlc lc)) (Nat.zero_le _)
    simp [encodedLength, dataLength, leLength, hshort, nc, payload]
    split <;> omega
  | dataLe lc data le hne hlength =>
    have hshort : isExtended ⟨cla, ins, p1, p2, some data, some (shortLe le)⟩ = false :=
      isExtended_eq_false (Nat.le_trans (Nat.le_of_eq hlength) (hlc lc)) (shortLe_le le)
    simp [encodedLength, dataLength, leLength, hshort, nc, payload]
    split <;> omega
  -- An extended form is the widest that the encoder has.
  | extendedLe hi lo =>
    simp [encodedLength, dataLength, leLength, nc, payload]
    split <;> omega
  | extendedData hi lo data hne hlength =>
    simp [encodedLength, dataLength, leLength, nc, payload, hne]
    split <;> omega
  | extendedDataLe hi lo data leHi leLo hne hlength =>
    simp [encodedLength, dataLength, leLength, nc, payload, hne]
    split <;> omega

/-- Two frames of one command that have the same length are the same. -/
theorem Form.Writes.eq_of_length {form form' : Form} {frame' : Bytes} (h : form.Writes frame c)
    (h' : form'.Writes frame' c) (hlength : frame.length = frame'.length) : frame = frame' := by
  obtain ⟨body, rfl, hspells⟩ := h
  obtain ⟨body', rfl, hspells'⟩ := h'
  have hbody : body.length = body'.length := by simpa using hlength
  obtain ⟨hdata, hle, hwidth⟩ := hspells.parts
  obtain ⟨hdata', hle', hwidth'⟩ := hspells'.parts
  obtain rfl : form = form' := Form.eq_of_width (hdata.symm.trans hdata') (hle.symm.trans hle')
    (hwidth.symm.trans (hbody.trans hwidth'))
  rw [hspells.injective hspells' rfl]

/-- A frame is accepted when it is a header and one of the seven forms, which exclude each other,
and it is read as what that form says. Every other frame is refused by its length.

What is accepted passes the check. Its encoding is read as the same command again, and it is
shorter than all other frames that are. -/
theorem decode_canonical (frame : Bytes) :
    (∀ c, decode frame = .ok c ↔ ∃ form : Form, form.Writes frame c) ∧
    (∀ e, decode frame = .error e ↔
      e = .invalidLength frame.length ∧ ∀ (form : Form) (c : Command), ¬ form.Writes frame c) ∧
    (∀ (form form' : Form) (c c' : Command), form.Writes frame c → form'.Writes frame c' →
      form = form' ∧ c = c') ∧
    ∀ c, decode frame = .ok c →
      c.check = .ok () ∧ decode c.encode = .ok c ∧
      ∀ frame', decode frame' = .ok c → frame' ≠ c.encode → c.encode.length < frame'.length := by
  refine ⟨fun c => decode_eq_ok_iff, fun e => decode_eq_error_iff,
    fun form form' c c' h h' => h.unique h', fun c hread => ?_⟩
  have hencode := decode_encode_of_decode hread
  refine ⟨(check_of_decode hread).1, hencode, fun frame' hread' hne => ?_⟩
  obtain ⟨form, hwrites⟩ := decode_eq_ok_iff.mp hencode
  obtain ⟨form', hwrites'⟩ := decode_eq_ok_iff.mp hread'
  refine Nat.lt_of_le_of_ne ?_ fun hlength => hne (hwrites'.eq_of_length hwrites hlength.symm)
  rw [length_encode]
  exact hwrites'.encodedLength_le

/-- One byte of data and a full short answer, in extended form: the frame is accepted, and the
encoding of what it says is shorter. -/
theorem decode_canonical_roundabout :
    let frame : Bytes := [0x00, 0xCA, 0x00, 0x6E, 0x00, 0x00, 0x01, 0x5C, 0x01, 0x00]
    let c : Command :=
      { cla := 0x00, ins := 0xCA, p1 := 0x00, p2 := 0x6E, data := some [0x5C], le := some 256 }
    Form.extendedDataLe.Writes frame c ∧ decode frame = .ok c ∧ c.check = .ok () ∧
      c.encode = [0x00, 0xCA, 0x00, 0x6E, 0x01, 0x5C, 0x00] ∧ decode c.encode = .ok c ∧
      c.encode.length < frame.length ∧ ¬ Form.dataLe.Writes frame c := by
  intro frame c
  have hle : extendedLe 0x01 0x00 = 256 := by decide
  have hspells := Form.Spells.extendedDataLe 0x00 0x01 [0x5C] 0x01 0x00 (by decide) (by decide)
  rw [hle] at hspells
  have hwrites : Form.extendedDataLe.Writes frame c := ⟨_, rfl, hspells⟩
  obtain ⟨haccepted, -, hunique, hcanonical⟩ := decode_canonical frame
  have hread : decode frame = .ok c := (haccepted c).mpr ⟨_, hwrites⟩
  obtain ⟨hcheck, hencode, hshortest⟩ := hcanonical c hread
  refine ⟨hwrites, hread, hcheck, by decide, hencode, hshortest frame hread (by decide), fun h => ?_⟩
  exact nomatch (hunique _ _ c c hwrites h).1

end PgpCard.Command
