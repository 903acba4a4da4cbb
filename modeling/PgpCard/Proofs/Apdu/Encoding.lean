import PgpCard.Apdu.Command

/-!
# `PgpCard.Proofs.Apdu.Encoding`: what is read back from an encoded command

`encode` writes lengths modulo the width of their fields, and `decode` reads a zero length
as the full one. `decode_encode` shows that the two fit together: a command that passes
`check` is read back as it was, except that empty data and absent data, which have the same
encoding, both come back as absent. `normalize` names that one change.

The proof follows the encoder. The bytes after the header are a data field (`encodeData`)
and an expected length (`encodeLe`), each of them absent, short or extended.
`decodeBody_encode` goes through these shapes. What each of them needs is a statement about
one length field, and those stand first.

So different commands have different encodings (`encode_faithful`). The length of an encoding is
counted in a place of its own, and `length_encode` says that the count is right for every command,
also for one that does not pass.
-/

set_option autoImplicit false

namespace PgpCard.Command

variable {c : Command}

/-- The command with its empty data field taken away. -/
def normalize (c : Command) : Command :=
  { c with data := if c.payload = [] then none else some c.payload }

theorem nc_eq_zero_iff : c.nc = 0 ↔ c.payload = [] := List.length_eq_zero_iff

/-- Normalizing keeps the data bytes. -/
@[simp] theorem payload_normalize (c : Command) : c.normalize.payload = c.payload := by
  by_cases h : c.payload = []
  · rw [normalize, if_pos h]
    exact h.symm
  · rw [normalize, if_neg h]
    rfl

/-- A command passes the check when both of its lengths fit the extended form. -/
theorem check_eq_ok_iff :
    c.check = .ok () ↔
      c.nc ≤ maxExtendedNc ∧ ∀ le ∈ c.le, 0 < le ∧ le ≤ maxExtendedNe := by
  unfold check
  by_cases hnc : maxExtendedNc < c.nc
  · simp only [hnc, if_true, reduceCtorEq, false_iff]
    omega
  · cases hle : c.le with
    | none => simp [hnc]; omega
    | some le =>
      by_cases hout : le = 0 ∨ maxExtendedNe < le
      · simp only [hnc, if_false, hout, if_true, reduceCtorEq, Option.mem_some_iff,
          forall_eq', false_iff]
        omega
      · simp only [hnc, if_false, hout, Option.mem_some_iff, forall_eq', true_iff]
        omega

/-! ### The length fields -/

/-- A short expected length comes back from its one byte, where 256 is written as zero. -/
theorem shortLe_ofNat {le : Nat} (h0 : 0 < le) (h : le ≤ maxShortNe) :
    shortLe (UInt8.ofNat le) = le := by
  unfold maxShortNe at h
  unfold shortLe maxShortNe
  by_cases hle : le = 256
  · -- 256 is written as zero, and read back from it.
    subst hle
    rfl
  · have hlt : le < 256 := by omega
    have hne : UInt8.ofNat le ≠ 0 := by
      intro hzero
      have : (UInt8.ofNat le).toNat = 0 := by rw [hzero]; rfl
      rw [UInt8.toNat_ofNat_of_lt' hlt] at this
      omega
    rw [if_neg hne, UInt8.toNat_ofNat_of_lt' hlt]

theorem toNat_ne_zero {b : UInt8} (h : b ≠ 0) : b.toNat ≠ 0 :=
  fun hzero => h (UInt8.toNat_inj.mp hzero)

theorem shortLe_pos (b : UInt8) : 0 < shortLe b := by
  unfold shortLe
  split
  · decide
  · next h => exact Nat.pos_of_ne_zero (toNat_ne_zero h)

theorem shortLe_le (b : UInt8) : shortLe b ≤ maxShortNe := by
  unfold shortLe
  split
  · exact Nat.le_refl _
  · exact Nat.le_of_lt b.toNat_lt

/-- The byte of an expected length is the one that it was read from. -/
theorem ofNat_shortLe (b : UInt8) : UInt8.ofNat (shortLe b) = b := by
  unfold shortLe
  split
  · next h => rw [h]; rfl
  · exact UInt8.ofNat_toNat

/-- The two bytes of a number below 65536 write that number, and those of 65536 write
zero. -/
theorem twoBytes_toNat (n : Nat) :
    (UInt8.ofNat (n / 256)).toNat * 256 + (UInt8.ofNat n).toNat = n % 65536 := by
  rw [UInt8.toNat_ofNat', UInt8.toNat_ofNat']
  omega

/-- An extended expected length comes back from its two bytes, where 65536 is written as
zero. -/
theorem extendedLe_twoBytes {le : Nat} (h0 : 0 < le) (h : le ≤ maxExtendedNe) :
    extendedLe (UInt8.ofNat (le / 256)) (UInt8.ofNat le) = le := by
  unfold maxExtendedNe at h
  unfold extendedLe maxExtendedNe
  rw [twoBytes_toNat]
  by_cases hle : le = 65536
  · -- The low 16 bits of 65536 are zero.
    subst hle
    rfl
  · have hmod : le % 65536 = le := Nat.mod_eq_of_lt (by omega)
    have hne : le % 65536 ≠ 0 := by omega
    rw [hmod] at hne ⊢
    exact if_neg hne

/-- A count of 1 to 255 data bytes comes back from its one byte, which is not zero. -/
theorem ofNat_nc_toNat {nc : Nat} (h0 : nc ≠ 0) (h : nc ≤ maxShortNc) :
    UInt8.ofNat nc ≠ 0 ∧ (UInt8.ofNat nc).toNat = nc := by
  unfold maxShortNc at h
  have hnat : (UInt8.ofNat nc).toNat = nc := UInt8.toNat_ofNat_of_lt' (show nc < 256 by omega)
  refine ⟨?_, hnat⟩
  intro hzero
  rw [hzero] at hnat
  exact h0 hnat.symm

/-! ### The data field and what follows it -/

/-- In short form both lengths fit one byte. -/
theorem le_maxShort_of_not_isExtended (h : c.isExtended = false) :
    c.nc ≤ maxShortNc ∧ ∀ le ∈ c.le, le ≤ maxShortNe := by
  simp only [isExtended, Bool.or_eq_false_iff, decide_eq_false_iff_not, Nat.not_lt] at h
  refine ⟨h.1, ?_⟩
  intro le hle
  have hne : c.ne = le := by rw [ne, Option.mem_def.mp hle, Option.getD_some]
  exact hne ▸ h.2

/-- Lengths that fit one byte are not written in extended form. -/
theorem isExtended_eq_false (hnc : c.nc ≤ maxShortNc) (hne : c.ne ≤ maxShortNe) :
    c.isExtended = false := by
  simp [isExtended, hnc, hne]

/-- A first byte that is not zero and not the last one is a short length of data. -/
theorem decodeBody_of_ne_zero {lc : UInt8} {rest : Bytes} (hlc : lc ≠ 0) (hrest : rest ≠ []) :
    decodeBody (lc :: rest) = decodeShortBody lc.toNat rest := by
  cases rest with
  | nil => exact absurd rfl hrest
  | cons b rest => simp [decodeBody, hlc]

/-- Behind a first zero byte the first two of more than two bytes are an extended length of
data. -/
theorem decodeBody_of_zero (hi lo : UInt8) {rest : Bytes} (hrest : rest ≠ []) :
    decodeBody (0x00 :: hi :: lo :: rest) = decodeExtendedBody (hi.toNat * 256 + lo.toNat) rest := by
  cases rest with
  | nil => exact absurd rfl hrest
  | cons b rest => simp [decodeBody]

/-- Without data the body is an expected length alone, or nothing. -/
theorem decodeBody_encodeLe (hnc : c.nc = 0) (hle : ∀ le ∈ c.le, 0 < le ∧ le ≤ maxExtendedNe) :
    decodeBody c.encodeLe = some (none, c.le) := by
  unfold encodeLe
  cases hc : c.le with
  | none => rfl
  | some le =>
    have hrange := hle le hc
    cases hext : c.isExtended with
    | false =>
      have hshort := (le_maxShort_of_not_isExtended hext).2 le hc
      simp [decodeBody, shortLe_ofNat hrange.1 hshort]
    | true =>
      simp [decodeBody, twoBytes, hnc, extendedLe_twoBytes hrange.1 hrange.2]

/-- A short data field is read back together with what follows it. -/
theorem decodeShortBody_append (data : Bytes) {le : Option Nat} {tail : Bytes}
    (htail : (tail = [] ∧ le = none) ∨ ∃ b, tail = [b] ∧ le = some (shortLe b)) :
    decodeShortBody data.length (data ++ tail) = some (some data, le) := by
  unfold decodeShortBody
  rcases htail with ⟨rfl, rfl⟩ | ⟨b, rfl, rfl⟩
  · simp
  · simp

/-- An extended data field that is not empty is read back together with what follows it. -/
theorem decodeExtendedBody_append {data : Bytes} (hdata : data ≠ []) {le : Option Nat}
    {tail : Bytes}
    (htail : (tail = [] ∧ le = none) ∨
      ∃ hi lo, tail = [hi, lo] ∧ le = some (extendedLe hi lo)) :
    decodeExtendedBody data.length (data ++ tail) = some (some data, le) := by
  unfold decodeExtendedBody
  have hlength : data.length ≠ 0 := by simpa using hdata
  rcases htail with ⟨rfl, rfl⟩ | ⟨hi, lo, rfl, rfl⟩
  · simp [hlength]
  · simp [hlength]

/-- A body with data in short form. -/
theorem decodeBody_short (hdata : c.payload ≠ []) (hext : c.isExtended = false)
    (hle : ∀ le ∈ c.le, 0 < le ∧ le ≤ maxExtendedNe) :
    decodeBody (UInt8.ofNat c.nc :: (c.payload ++ c.encodeLe)) = some (some c.payload, c.le) := by
  obtain ⟨hshort, hle'⟩ := le_maxShort_of_not_isExtended hext
  obtain ⟨hne, hcount⟩ := ofNat_nc_toNat (mt nc_eq_zero_iff.mp hdata) hshort
  -- The data is not empty, so the body has at least two bytes.
  rw [decodeBody_of_ne_zero hne (by simp [hdata]), hcount]
  apply decodeShortBody_append
  unfold encodeLe
  cases hc : c.le with
  | none => exact Or.inl ⟨rfl, rfl⟩
  | some le =>
    refine Or.inr ⟨UInt8.ofNat le, by simp [hext], ?_⟩
    rw [shortLe_ofNat (hle le hc).1 (hle' le hc)]

/-- A body with data in extended form. -/
theorem decodeBody_extended (hdata : c.payload ≠ []) (hext : c.isExtended = true)
    (hnc : c.nc ≤ maxExtendedNc) (hle : ∀ le ∈ c.le, 0 < le ∧ le ≤ maxExtendedNe) :
    decodeBody (0x00 :: (twoBytes c.nc ++ c.payload ++ c.encodeLe))
      = some (some c.payload, c.le) := by
  have hnc0 : c.nc ≠ 0 := mt nc_eq_zero_iff.mp hdata
  have hcount : (UInt8.ofNat (c.nc / 256)).toNat * 256 + (UInt8.ofNat c.nc).toNat
      = c.payload.length := by
    rw [twoBytes_toNat]
    exact Nat.mod_eq_of_lt (by unfold maxExtendedNc at hnc; omega)
  show decodeBody (0x00 :: UInt8.ofNat (c.nc / 256) :: UInt8.ofNat c.nc ::
    (c.payload ++ c.encodeLe)) = _
  rw [decodeBody_of_zero _ _ (by simp [hdata]), hcount]
  -- The expected length follows without a zero byte, since the data had one in front.
  apply decodeExtendedBody_append hdata
  unfold encodeLe
  cases hc : c.le with
  | none => exact Or.inl ⟨rfl, rfl⟩
  | some le =>
    refine Or.inr ⟨UInt8.ofNat (le / 256), UInt8.ofNat le, by simp [hext, hnc0, twoBytes], ?_⟩
    rw [extendedLe_twoBytes (hle le hc).1 (hle le hc).2]

/-! ### The whole command -/

/-- The bytes after the header of a command that passes the check are read back as its data
and its expected length. -/
theorem decodeBody_encode (h : c.check = .ok ()) :
    decodeBody (c.encodeData ++ c.encodeLe) = some (c.normalize.data, c.le) := by
  obtain ⟨hnc, hle⟩ := check_eq_ok_iff.mp h
  unfold encodeData normalize
  by_cases hdata : c.payload = []
  · have hnc0 : c.nc = 0 := nc_eq_zero_iff.mpr hdata
    simp only [hnc0, if_true, hdata, List.nil_append]
    exact decodeBody_encodeLe hnc0 hle
  · have hnc0 : c.nc ≠ 0 := mt nc_eq_zero_iff.mp hdata
    simp only [hnc0, hdata, if_false]
    cases hext : c.isExtended with
    | false => exact decodeBody_short hdata hext hle
    | true => exact decodeBody_extended hdata hext hnc hle

/-- A command that passes the check is read back from its encoding, up to empty data. -/
theorem decode_encode (h : c.check = .ok ()) : decode c.encode = .ok c.normalize := by
  simp only [encode, List.cons_append, List.nil_append, decode, decodeBody_encode h]
  rfl

/-! ### Different commands, different frames -/

theorem length_encodeData (c : Command) : c.encodeData.length = c.dataLength := by
  have hlength : c.payload.length = c.nc := rfl
  unfold encodeData dataLength
  by_cases hnc : c.nc = 0
  · simp [hnc]
  · cases hext : c.isExtended with
    | false => simp [hnc, hlength]; omega
    | true => simp [hnc, hlength, twoBytes]; omega

theorem length_encodeLe (c : Command) : c.encodeLe.length = c.leLength := by
  unfold encodeLe leLength
  cases c.le with
  | none => rfl
  | some le =>
    cases hext : c.isExtended with
    | false => simp
    | true => by_cases hnc : c.nc = 0 <;> simp [hnc, twoBytes]

/-- The length that is counted is the one that is written, also for a command that the
encoding does not hold. -/
theorem length_encode (c : Command) : c.encode.length = c.encodedLength := by
  simp only [encode, encodedLength, List.length_append, List.length_cons, List.length_nil,
    length_encodeData, length_encodeLe]

/-- The encoder looks at the data bytes only, so it does not see empty data. -/
theorem encode_normalize (c : Command) : c.normalize.encode = c.encode := by
  simp only [encode, encodeData, encodeLe, isExtended, nc, ne, payload_normalize]
  rfl

/-- Normalizing two commands makes them the same when they differ in empty and absent data at
most. -/
theorem normalize_eq_iff {c c' : Command} :
    c'.normalize = c.normalize ↔ c' = { c with data := c'.data } ∧ c'.payload = c.payload := by
  constructor
  · intro h
    have hpayload : c'.payload = c.payload := by
      rw [← payload_normalize c', h, payload_normalize]
    obtain ⟨cla, ins, p1, p2, data, le⟩ := c'
    simp only [normalize, mk.injEq] at h
    obtain ⟨rfl, rfl, rfl, rfl, -, rfl⟩ := h
    exact ⟨rfl, hpayload⟩
  · rintro ⟨hrest, hpayload⟩
    unfold normalize
    rw [hpayload, hrest]

/-- The counted length of a command is that of its encoding. A command that passes the check is
read back from its encoding as it was, except that empty data comes back as absent. So two such
commands with the same encoding differ in nothing but that. -/
theorem encode_faithful (c : Command) :
    c.encode.length = c.encodedLength ∧
    (c.check = .ok () → decode c.encode = .ok c.normalize ∧
      ∀ c' : Command, c'.check = .ok () →
        (c'.encode = c.encode ↔ c' = { c with data := c'.data } ∧ c'.payload = c.payload)) := by
  refine ⟨length_encode c, fun h => ⟨decode_encode h, fun c' h' => ?_⟩⟩
  rw [← normalize_eq_iff]
  constructor
  · intro heq
    have hdecode := decode_encode h'
    rw [heq, decode_encode h] at hdecode
    exact (Except.ok.inj hdecode).symm
  · intro heq
    rw [← encode_normalize c', heq, encode_normalize]

/-- A command with one byte of data that asks for a full extended answer needs the extended form
for its answer only. -/
theorem encode_faithful_mixed :
    let c : Command :=
      { cla := 0x00, ins := 0xCB, p1 := 0x3F, p2 := 0xFF, data := some [0x5C], le := some 65536 }
    let bare : Command := { c with data := none }
    let hollow : Command := { c with data := some [] }
    c.encode = [0x00, 0xCB, 0x3F, 0xFF, 0x00, 0x00, 0x01, 0x5C, 0x00, 0x00] ∧
      c.encode.length = c.encodedLength ∧ decode c.encode = .ok c ∧ c.encode ≠ bare.encode ∧
      decode hollow.encode = .ok bare ∧ hollow.encode = bare.encode := by
  intro c bare hollow
  have hcheck : c.check = .ok () := rfl
  have hbare : bare.check = .ok () := rfl
  have hhollow : hollow.check = .ok () := rfl
  obtain ⟨hlength, hfaithful⟩ := encode_faithful c
  obtain ⟨hread, hsame⟩ := hfaithful hcheck
  obtain ⟨-, hfaithful⟩ := encode_faithful hollow
  obtain ⟨hreadHollow, hsameHollow⟩ := hfaithful hhollow
  refine ⟨by decide, hlength, hread, fun heq => ?_, hreadHollow, ?_⟩
  · exact absurd ((hsame bare hbare).mp heq.symm).2 (by decide)
  · exact ((hsameHollow bare hbare).mpr ⟨rfl, rfl⟩).symm

end PgpCard.Command
