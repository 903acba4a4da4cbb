import Mathlib.Data.List.Forall2
import PgpCard.Proofs.Text.Utf8

/-!
# `PgpCard.Proofs.Text.Hex`: what counts as hexadecimal digits

A text spells a byte string when it consists of two digits for each byte, the high half first, in
either letter case for each digit. The reader works on the UTF-8 of a text, byte by byte, and looks
at the parity of the length first. `decode_encode_eq_ok_iff` says that it accepts exactly the texts
that spell something, and reads what they spell.

A digit is told by its code (`IsCode`), as a character and as a byte alike. A character outside of
the ASCII range is written in bytes the first of which is no code of a digit, so that no such
character is ever taken for digits.
-/

set_option autoImplicit false

namespace PgpCard.Hex

/-! ### Digits -/

/-- The character is the digit for a number, in either letter case. -/
def Writes (c : Char) (n : Nat) : Prop := n < 16 ∧ (c = lowerDigit n ∨ c = upperDigit n)

/-- What the digits of a byte string stand for, two for each byte, high half first. -/
def halves (bytes : Bytes) : List Nat := bytes.flatMap fun b => [b.toNat / 16, b.toNat % 16]

theorem halves_cons (b : UInt8) (bytes : Bytes) :
    halves (b :: bytes) = b.toNat / 16 :: b.toNat % 16 :: halves bytes := rfl

theorem length_halves (bytes : Bytes) : (halves bytes).length = 2 * bytes.length := by
  induction bytes with
  | nil => rfl
  | cons b bytes ih =>
    rw [halves_cons, List.length_cons, List.length_cons, List.length_cons, ih]
    omega

/-- The number is the ASCII code of the digit for `n`. -/
def IsCode (n code : Nat) : Prop :=
  n < 10 ∧ code = 48 + n ∨ (10 ≤ n ∧ n < 16) ∧ (code = 55 + n ∨ code = 87 + n)

theorem IsCode.lt {n code : Nat} (h : IsCode n code) : n < 16 ∧ code < 0x80 := by
  unfold IsCode at h
  omega

/-- Digits are told by their codes. -/
theorem writes_iff {c : Char} {n : Nat} : Writes c n ↔ IsCode n c.toNat := by
  have hcode : ∀ code < 0x80, c = Char.ofNat code ↔ c.toNat = code := by
    intro code hcode
    rw [← Char.toNat_inj, Utf8.toNat_charOfNat (Or.inl (by omega))]
  unfold Writes IsCode lowerDigit upperDigit
  by_cases hn : n < 10
  · rw [if_pos hn, if_pos hn, hcode (48 + n) (by omega)]
    omega
  · rw [if_neg hn, if_neg hn]
    by_cases hlt : n < 16
    · rw [hcode (87 + n) (by omega), hcode (55 + n) (by omega)]
      omega
    · omega

/-! ### Reading digits -/

/-- A difference of bytes that does not wrap around. -/
theorem sub_eq_iff {b v k : UInt8} {n : Nat} (hk : k.toNat = n) (h : n ≤ b.toNat) :
    b - k = v ↔ b.toNat = n + v.toNat := by
  subst hk
  rw [← UInt8.toNat_inj, UInt8.toNat_sub_of_le _ _ (UInt8.le_iff_toNat_le.mpr h)]
  omega

/-- The reader knows the digits by their codes, too. -/
theorem digitValue?_eq_some_iff {b v : UInt8} :
    digitValue? b = some v ↔ IsCode v.toNat b.toNat := by
  unfold digitValue? IsCode
  simp only [UInt8.le_iff_toNat_le, UInt8.reduceToNat]
  split_ifs
  · rw [Option.some_inj, sub_eq_iff (n := 48) rfl (by omega)]
    omega
  · rw [Option.some_inj, sub_eq_iff (n := 55) rfl (by omega)]
    omega
  · rw [Option.some_inj, sub_eq_iff (n := 87) rfl (by omega)]
    omega
  · rw [false_iff]
    omega

/-- Two digits are read as the byte whose halves they stand for. -/
theorem digitValue?_pair {hi lo b : UInt8} :
    (∃ h l, digitValue? hi = some h ∧ digitValue? lo = some l ∧ h * 16 + l = b) ↔
      IsCode (b.toNat / 16) hi.toNat ∧ IsCode (b.toNat % 16) lo.toNat := by
  simp only [digitValue?_eq_some_iff]
  constructor
  · rintro ⟨h, l, hh, hl, rfl⟩
    have hb : (h * 16 + l).toNat = (h.toNat * 16 % 2 ^ 8 + l.toNat) % 2 ^ 8 := by
      rw [UInt8.toNat_add, UInt8.toNat_mul]
      rfl
    -- The sum of two halves is a byte, so nothing is lost to the two remainders.
    have hlt := hh.lt
    have hlt' := hl.lt
    rw [hb, show (h.toNat * 16 % 2 ^ 8 + l.toNat) % 2 ^ 8 / 16 = h.toNat by omega,
      show (h.toNat * 16 % 2 ^ 8 + l.toNat) % 2 ^ 8 % 16 = l.toNat by omega]
    exact ⟨hh, hl⟩
  · rintro ⟨hh, hl⟩
    have hb := b.toNat_lt
    have hh' : (UInt8.ofNat (b.toNat / 16)).toNat = b.toNat / 16 := Utf8.toNat_ofNat (by omega)
    have hl' : (UInt8.ofNat (b.toNat % 16)).toNat = b.toNat % 16 := Utf8.toNat_ofNat (by omega)
    refine ⟨.ofNat (b.toNat / 16), .ofNat (b.toNat % 16), by rwa [hh'], by rwa [hl'], ?_⟩
    rw [← UInt8.toNat_inj, UInt8.toNat_add, UInt8.toNat_mul, hh', hl']
    show (b.toNat / 16 * 16 % 2 ^ 8 + b.toNat % 16) % 2 ^ 8 = b.toNat
    omega

/-- A pair of digits in front is one byte in front. -/
theorem decodeFrom_cons_cons_eq_ok_iff {position : Nat} {hi lo b : UInt8} {rest bytes : Bytes} :
    decodeFrom position (hi :: lo :: rest) = .ok (b :: bytes) ↔
      (∃ h l, digitValue? hi = some h ∧ digitValue? lo = some l ∧ h * 16 + l = b) ∧
        decodeFrom (position + 2) rest = .ok bytes := by
  rw [decodeFrom]
  unfold readDigit
  cases digitValue? hi with
  | none => simp
  | some h =>
    cases digitValue? lo with
    | none => simp
    | some l => cases decodeFrom (position + 2) rest <;> simp

theorem decodeFrom_cons_cons_ne_nil {position : Nat} {hi lo : UInt8} {rest : Bytes} :
    decodeFrom position (hi :: lo :: rest) ≠ .ok [] := by
  rw [decodeFrom]
  split
  · nofun
  split
  · nofun
  split <;> nofun

/-- What is read from digits are the bytes whose halves they stand for, wherever they stand. -/
theorem decodeFrom_eq_ok_iff (position : Nat) (text bytes : Bytes) :
    decodeFrom position text = .ok bytes ↔
      List.Forall₂ (fun code n => IsCode n code.toNat) text (halves bytes) := by
  -- The text loses two digits where the byte string loses one byte.
  match text, bytes with
  | [], [] => exact ⟨fun _ => .nil, fun _ => rfl⟩
  | [], b :: bytes => exact ⟨nofun, nofun⟩
  | [code], [] => exact ⟨nofun, nofun⟩
  | [code], b :: bytes =>
    refine ⟨nofun, fun h => ?_⟩
    rw [halves_cons, List.forall₂_cons] at h
    exact nomatch h.2
  | hi :: lo :: rest, [] => exact ⟨fun h => absurd h decodeFrom_cons_cons_ne_nil, nofun⟩
  | hi :: lo :: rest, b :: bytes =>
    rw [decodeFrom_cons_cons_eq_ok_iff, digitValue?_pair, decodeFrom_eq_ok_iff (position + 2) rest,
      halves_cons, List.forall₂_cons, List.forall₂_cons, and_assoc]

/-- Digits come in pairs, so to look at the parity first refuses nothing that could be read. -/
theorem decode_eq_ok_iff {text bytes : Bytes} :
    decode text = .ok bytes ↔
      List.Forall₂ (fun code n => IsCode n code.toNat) text (halves bytes) := by
  rw [decode, ← decodeFrom_eq_ok_iff 0]
  split
  case isTrue hodd =>
    refine ⟨nofun, fun h => ?_⟩
    have hlength := ((decodeFrom_eq_ok_iff 0 text bytes).mp h).length_eq
    rw [length_halves] at hlength
    omega
  case isFalse => rfl

/-! ### Digits in UTF-8 -/

theorem utf8EncodeChar_of_ascii {c : Char} (h : c.toNat < 0x80) :
    ∃ b : UInt8, String.utf8EncodeChar c = [b] ∧ b.toNat = c.toNat := by
  have hn : c.val.toNat ≤ 127 := Nat.le_of_lt_succ h
  refine ⟨.ofNat c.val.toNat, ?_, Utf8.toNat_ofNat (by omega)⟩
  rw [String.utf8EncodeChar.eq_1]
  exact if_pos hn

theorem utf8EncodeChar_of_not_ascii {c : Char} (h : 0x80 ≤ c.toNat) :
    ∃ b rest, String.utf8EncodeChar c = b :: rest ∧ 0x80 ≤ b.toNat := by
  have hn : ¬ c.val.toNat ≤ 127 := Nat.not_le_of_lt h
  rw [String.utf8EncodeChar.eq_1]
  simp only [if_neg hn]
  split_ifs
  all_goals
    refine ⟨_, _, rfl, ?_⟩
    rw [Utf8.toNat_ofNat] <;> omega

/-- The UTF-8 of a text consists of the codes of digits exactly when the text consists of the
digits. -/
theorem forall₂_encode_iff {cs : List Char} {ns : List Nat} :
    List.Forall₂ (fun (code : UInt8) n => IsCode n code.toNat) (cs.flatMap String.utf8EncodeChar)
      ns ↔ List.Forall₂ Writes cs ns := by
  induction cs generalizing ns with
  | nil => exact ⟨fun h => by cases h; exact .nil, fun h => by cases h; exact .nil⟩
  | cons c cs ih =>
    rw [List.flatMap_cons]
    by_cases hc : c.toNat < 0x80
    · obtain ⟨b, hbytes, hb⟩ := utf8EncodeChar_of_ascii hc
      rw [hbytes, List.singleton_append, List.forall₂_cons_left_iff, List.forall₂_cons_left_iff]
      simp only [hb, ih, writes_iff]
    · -- Neither the character nor the first of its bytes is a digit.
      obtain ⟨b, bytes, hbytes, hb⟩ := utf8EncodeChar_of_not_ascii (Nat.le_of_not_lt hc)
      rw [hbytes, List.cons_append, List.forall₂_cons_left_iff, List.forall₂_cons_left_iff]
      constructor
      · rintro ⟨n, ns, h, -⟩
        exact absurd h.lt.2 (Nat.not_lt_of_le hb)
      · rintro ⟨n, ns, h, -⟩
        exact absurd (writes_iff.mp h).lt.2 hc

/-- The texts that are read are those that spell bytes, and they are read as these bytes. -/
theorem decode_encode_eq_ok_iff {cs : List Char} {bytes : Bytes} :
    decode (Utf8.encode (String.ofList cs)) = .ok bytes ↔
      List.Forall₂ Writes cs (halves bytes) := by
  rw [decode_eq_ok_iff, Utf8.encode, String.toList_ofList, forall₂_encode_iff]

end PgpCard.Hex
