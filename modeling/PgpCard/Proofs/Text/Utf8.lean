import Mathlib.Algebra.Group.Nat.Defs
import Mathlib.Tactic.SplitIfs
import PgpCard.Text.Utf8

/-!
# `PgpCard.Proofs.Text.Utf8`: what the lossy decoder reads

Two facts about `decodeLossy`. On the UTF-8 of a text it reads that text
(`decodeLossy_encode`). And on whatever bytes it is given, ASCII characters may be replaced by
other ASCII characters before it or after it (`decodeLossy_map`).

The second fact has nothing to do with the bytes being well formed. A byte of the ASCII range
never goes on with a sequence, so another one in its place ends the same sequences at the same
place. The other way round, a sequence never comes to an ASCII character. `Pending.Scalar` is the
invariant that says so. It confines the values that a sequence can still come to, from the least
to the greatest, to scalar values outside of the ASCII range.
-/

set_option autoImplicit false

namespace PgpCard.Utf8

/-! ### First bytes -/

theorem lead_of_ascii {b : UInt8} (h : b < 0x80) : lead b = .char (Char.ofNat b.toNat) := if_pos h

theorem lead_of_two {b : UInt8} (hlow : 0xC2 ≤ b.toNat) (hhigh : b.toNat < 0xE0) :
    lead b = .opens ⟨0, 0x80, 0xBF, b.toNat - 0xC0⟩ := by
  simp only [lead, UInt8.lt_iff_toNat_lt, UInt8.reduceToNat]
  rw [if_neg (by omega), if_neg (by omega), if_pos hhigh]

/-- After `E0` the second byte must not spell a value of two bytes, and after `ED` no surrogate. -/
theorem lead_of_three {b : UInt8} (hlow : 0xE0 ≤ b.toNat) (hhigh : b.toNat < 0xF0) :
    lead b = .opens ⟨1, if b.toNat = 0xE0 then 0xA0 else 0x80,
      if b.toNat = 0xED then 0x9F else 0xBF, b.toNat - 0xE0⟩ := by
  simp only [lead, UInt8.lt_iff_toNat_lt, ← UInt8.toNat_inj, UInt8.reduceToNat]
  rw [if_neg (by omega), if_neg (by omega), if_neg (by omega)]
  by_cases hE0 : b.toNat = 0xE0
  · simp [hE0]
  · by_cases hED : b.toNat = 0xED <;> simp [hE0, hED, hhigh]

/-- After `F0` the second byte must not spell a value of three bytes, and after `F4` none above
the last code point. -/
theorem lead_of_four {b : UInt8} (hlow : 0xF0 ≤ b.toNat) (hhigh : b.toNat ≤ 0xF4) :
    lead b = .opens ⟨2, if b.toNat = 0xF0 then 0x90 else 0x80,
      if b.toNat = 0xF4 then 0x8F else 0xBF, b.toNat - 0xF0⟩ := by
  simp only [lead, UInt8.lt_iff_toNat_lt, ← UInt8.toNat_inj, UInt8.reduceToNat]
  rw [if_neg (by omega), if_neg (by omega), if_neg (by omega), if_neg (by omega),
    if_neg (by omega), if_neg (by omega)]
  by_cases hF0 : b.toNat = 0xF0
  · simp [hF0]
  · by_cases hF4 : b.toNat = 0xF4
    · simp [hF4]
    · simp [hF0, hF4, show b.toNat < 0xF4 by omega]

/-- All other bytes begin no character. -/
theorem lead_of_invalid {b : UInt8} (h : 0x80 ≤ b.toNat ∧ b.toNat < 0xC2 ∨ 0xF4 < b.toNat) :
    lead b = .invalid := by
  simp only [lead, UInt8.lt_iff_toNat_lt, ← UInt8.toNat_inj, UInt8.reduceToNat]
  rw [if_neg (by omega)]
  rcases h with h | h
  · rw [if_pos h.2]
  · rw [if_neg (by omega), if_neg (by omega), if_neg (by omega), if_neg (by omega),
      if_neg (by omega), if_neg (by omega), if_neg (by omega), if_neg (by omega)]

/-- A first byte is an ASCII character, begins no character, or begins one of two, three or four
bytes. -/
theorem lead_cases (b : UInt8) :
    b < 0x80 ∨ (0x80 ≤ b.toNat ∧ b.toNat < 0xC2 ∨ 0xF4 < b.toNat) ∨
      (0xC2 ≤ b.toNat ∧ b.toNat < 0xE0) ∨ (0xE0 ≤ b.toNat ∧ b.toNat < 0xF0) ∨
      (0xF0 ≤ b.toNat ∧ b.toNat ≤ 0xF4) := by
  simp only [UInt8.lt_iff_toNat_lt, UInt8.reduceToNat]
  omega

/-- A character of one byte is an ASCII character. -/
theorem ascii_of_lead {b : UInt8} {c : Char} (h : lead b = .char c) : b < 0x80 := by
  rcases lead_cases b with hb | hb | ⟨hlow, hhigh⟩ | ⟨hlow, hhigh⟩ | ⟨hlow, hhigh⟩
  · exact hb
  · exact nomatch (lead_of_invalid hb).symm.trans h
  · exact nomatch (lead_of_two hlow hhigh).symm.trans h
  · exact nomatch (lead_of_three hlow hhigh).symm.trans h
  · exact nomatch (lead_of_four hlow hhigh).symm.trans h

/-! ### Sequences -/

/-- The byte can come next. -/
def Pending.Takes (p : Pending) (b : UInt8) : Prop := p.low ≤ b ∧ b ≤ p.high

/-- The value with the bits of one more byte. -/
def Pending.valueWith (p : Pending) (b : UInt8) : Nat := p.value * 64 + (b.toNat - 0x80)

theorem Pending.valueWith_eq (p : Pending) (b : UInt8) :
    p.valueWith b = p.value * 64 + (b.toNat - 0x80) := rfl

theorem decodeFrom_last {p : Pending} {b : UInt8} (h : p.Takes b) (hmore : p.more = 0)
    (rest : Bytes) :
    decodeFrom (some p) (b :: rest) = Char.ofNat (p.valueWith b) :: decodeFrom none rest := by
  unfold Pending.Takes at h
  rw [decodeFrom, if_pos h, hmore]
  rfl

theorem decodeFrom_next {p : Pending} {b : UInt8} (h : p.Takes b) {more : Nat}
    (hmore : p.more = more + 1) (rest : Bytes) :
    decodeFrom (some p) (b :: rest) =
      decodeFrom (some ⟨more, 0x80, 0xBF, p.valueWith b⟩) rest := by
  unfold Pending.Takes at h
  rw [decodeFrom, if_pos h, hmore]
  rfl

/-- A byte that cannot come next ends the sequence, and is looked at again. -/
theorem decodeFrom_broken {p : Pending} {b : UInt8} (h : ¬ p.Takes b) (rest : Bytes) :
    decodeFrom (some p) (b :: rest) = replacement :: decodeFrom none (b :: rest) := by
  unfold Pending.Takes at h
  simp only [decodeFrom, if_neg h]
  cases lead b <;> rfl

theorem decodeFrom_char {b : UInt8} {c : Char} (h : lead b = .char c) (rest : Bytes) :
    decodeFrom none (b :: rest) = c :: decodeFrom none rest := by
  rw [decodeFrom, h]

theorem decodeFrom_opened {b : UInt8} {p : Pending} (h : lead b = .opens p) (rest : Bytes) :
    decodeFrom none (b :: rest) = decodeFrom (some p) rest := by
  rw [decodeFrom, h]

theorem decodeFrom_invalid {b : UInt8} (h : lead b = .invalid) (rest : Bytes) :
    decodeFrom none (b :: rest) = replacement :: decodeFrom none rest := by
  rw [decodeFrom, h]

/-! ### The UTF-8 of a text -/

/-- The number of a byte that is given by its number. -/
theorem toNat_ofNat {n : Nat} (h : n < 256) : (UInt8.ofNat n).toNat = n := by
  rw [UInt8.toNat_ofNat']
  exact Nat.mod_eq_of_lt h

/-- A byte that is given by its number comes next. -/
theorem takes_ofNat {p : Pending} {n : Nat} (hlow : p.low.toNat ≤ n) (hhigh : n ≤ p.high.toNat) :
    p.Takes (UInt8.ofNat n) ∧ p.valueWith (UInt8.ofNat n) = p.value * 64 + (n - 0x80) := by
  have hn : (UInt8.ofNat n).toNat = n := toNat_ofNat (Nat.lt_of_le_of_lt hhigh p.high.toNat_lt)
  constructor
  · rw [Pending.Takes, UInt8.le_iff_toNat_le, UInt8.le_iff_toNat_le, hn]
    exact ⟨hlow, hhigh⟩
  · rw [Pending.valueWith_eq, hn]

/-- A last byte completes the value. -/
theorem decodeFrom_ofNat_last {low high : UInt8} {value n : Nat} (hlow : low.toNat ≤ n)
    (hhigh : n ≤ high.toNat) (rest : Bytes) :
    decodeFrom (some ⟨0, low, high, value⟩) (UInt8.ofNat n :: rest) =
      Char.ofNat (value * 64 + (n - 0x80)) :: decodeFrom none rest := by
  obtain ⟨htakes, hvalue⟩ := takes_ofNat (p := ⟨0, low, high, value⟩) hlow hhigh
  rw [decodeFrom_last htakes rfl, hvalue]

theorem decodeFrom_ofNat_next {more : Nat} {low high : UInt8} {value n : Nat}
    (hlow : low.toNat ≤ n) (hhigh : n ≤ high.toNat) (rest : Bytes) :
    decodeFrom (some ⟨more + 1, low, high, value⟩) (UInt8.ofNat n :: rest) =
      decodeFrom (some ⟨more, 0x80, 0xBF, value * 64 + (n - 0x80)⟩) rest := by
  obtain ⟨htakes, hvalue⟩ := takes_ofNat (p := ⟨more + 1, low, high, value⟩) hlow hhigh
  rw [decodeFrom_next htakes rfl, hvalue]

/-- A continuation byte lies in the range that is common to most. -/
theorem continuation_le (m : Nat) : 0x80 ≤ m % 64 + 128 ∧ m % 64 + 128 ≤ 0xBF := by omega

/-- The bytes of one character are read as that character. -/
theorem decodeFrom_utf8EncodeChar (c : Char) (rest : Bytes) :
    decodeFrom none (String.utf8EncodeChar c ++ rest) = c :: decodeFrom none rest := by
  have hvalid : c.val.toNat < 0xD800 ∨ 0xDFFF < c.val.toNat ∧ c.val.toNat < 0x110000 := c.valid
  have hc : Char.ofNat c.val.toNat = c := c.ofNat_toNat
  rw [String.utf8EncodeChar.eq_1]
  generalize c.val.toNat = n at hvalid hc ⊢
  subst hc
  split
  case isTrue h =>
    have hn : (UInt8.ofNat n).toNat = n := toNat_ofNat (by omega)
    have hascii : UInt8.ofNat n < 0x80 := by
      rw [UInt8.lt_iff_toNat_lt, hn]
      exact Nat.lt_succ_of_le h
    rw [List.singleton_append, decodeFrom_char (lead_of_ascii hascii), hn]
  split
  case isTrue h =>
    have hn : (UInt8.ofNat (n / 64 % 32 + 192)).toNat = n / 64 % 32 + 192 := toNat_ofNat (by omega)
    have hvalue : (n / 64 % 32 + 192 - 0xC0) * 64 + (n % 64 + 128 - 0x80) = n := by omega
    have hlead := lead_of_two (b := UInt8.ofNat (n / 64 % 32 + 192)) (by omega) (by omega)
    rw [hn] at hlead
    simp only [List.cons_append, List.nil_append]
    rw [decodeFrom_opened hlead, decodeFrom_ofNat_last (continuation_le n).1 (continuation_le n).2,
      hvalue]
  split
  case isTrue h =>
    have hn : (UInt8.ofNat (n / 4096 % 16 + 224)).toNat = n / 4096 % 16 + 224 :=
      toNat_ofNat (by omega)
    have hlead := lead_of_three (b := UInt8.ofNat (n / 4096 % 16 + 224)) (by omega) (by omega)
    rw [hn] at hlead
    have hlow : (if n / 4096 % 16 + 224 = 0xE0 then (0xA0 : UInt8) else 0x80).toNat ≤
        n / 64 % 64 + 128 := by
      split <;> simp only [UInt8.reduceToNat] <;> omega
    have hhigh : n / 64 % 64 + 128 ≤
        (if n / 4096 % 16 + 224 = 0xED then (0x9F : UInt8) else 0xBF).toNat := by
      split <;> simp only [UInt8.reduceToNat] <;> omega
    have hvalue : ((n / 4096 % 16 + 224 - 0xE0) * 64 + (n / 64 % 64 + 128 - 0x80)) * 64 +
        (n % 64 + 128 - 0x80) = n := by omega
    simp only [List.cons_append, List.nil_append]
    rw [decodeFrom_opened hlead, decodeFrom_ofNat_next hlow hhigh,
      decodeFrom_ofNat_last (continuation_le n).1 (continuation_le n).2, hvalue]
  case isFalse h =>
    have hn : (UInt8.ofNat (n / 262144 % 8 + 240)).toNat = n / 262144 % 8 + 240 :=
      toNat_ofNat (by omega)
    have hlead := lead_of_four (b := UInt8.ofNat (n / 262144 % 8 + 240)) (by omega) (by omega)
    rw [hn] at hlead
    have hlow : (if n / 262144 % 8 + 240 = 0xF0 then (0x90 : UInt8) else 0x80).toNat ≤
        n / 4096 % 64 + 128 := by
      split <;> simp only [UInt8.reduceToNat] <;> omega
    have hhigh : n / 4096 % 64 + 128 ≤
        (if n / 262144 % 8 + 240 = 0xF4 then (0x8F : UInt8) else 0xBF).toNat := by
      split <;> simp only [UInt8.reduceToNat] <;> omega
    have hvalue : (((n / 262144 % 8 + 240 - 0xF0) * 64 + (n / 4096 % 64 + 128 - 0x80)) * 64 +
        (n / 64 % 64 + 128 - 0x80)) * 64 + (n % 64 + 128 - 0x80) = n := by omega
    simp only [List.cons_append, List.nil_append]
    rw [decodeFrom_opened hlead, decodeFrom_ofNat_next hlow hhigh,
      decodeFrom_ofNat_next (continuation_le _).1 (continuation_le _).2,
      decodeFrom_ofNat_last (continuation_le n).1 (continuation_le n).2, hvalue]

/-- The UTF-8 of a text is read as that text. -/
theorem decodeLossy_encode (text : String) : decodeLossy (encode text) = text.toList := by
  unfold decodeLossy encode
  induction text.toList with
  | nil => rfl
  | cons c rest ih => rw [List.flatMap_cons, decodeFrom_utf8EncodeChar, ih]

/-! ### What a sequence can come to -/

/-- A scalar value is the number of its character. -/
theorem toNat_charOfNat {n : Nat} (h : n.isValidChar) : (Char.ofNat n).toNat = n := by
  rw [Char.ofNat, dif_pos h]
  rfl

namespace Pending

/-- The least value that the sequence can come to. -/
def least (p : Pending) : Nat := (p.value * 64 + (p.low.toNat - 0x80)) * 64 ^ p.more

/-- One more than the greatest value that the sequence can come to. -/
def bound (p : Pending) : Nat := (p.value * 64 + (p.high.toNat - 0x80) + 1) * 64 ^ p.more

/-- The sequence goes on with no ASCII character, and comes to a scalar value that is none. -/
structure Scalar (p : Pending) : Prop where
  low : 0x80 ≤ p.low.toNat
  high : p.high.toNat ≤ 0xBF
  ascii : 0x80 ≤ p.least
  valid : p.bound ≤ 0xD800 ∨ 0xE000 ≤ p.least ∧ p.bound ≤ 0x110000

/-- Every sequence is of this kind when it opens. -/
theorem Scalar.of_lead {b : UInt8} {p : Pending} (h : lead b = .opens p) : p.Scalar := by
  rcases lead_cases b with hb | hb | ⟨hlow, hhigh⟩ | ⟨hlow, hhigh⟩ | ⟨hlow, hhigh⟩
  · exact nomatch (lead_of_ascii hb).symm.trans h
  · exact nomatch (lead_of_invalid hb).symm.trans h
  · obtain rfl := Lead.opens.inj ((lead_of_two hlow hhigh).symm.trans h)
    constructor <;> simp only [least, bound, UInt8.reduceToNat] <;> omega
  · obtain rfl := Lead.opens.inj ((lead_of_three hlow hhigh).symm.trans h)
    constructor <;> simp only [least, bound] <;> split_ifs <;> simp only [UInt8.reduceToNat] <;>
      omega
  · obtain rfl := Lead.opens.inj ((lead_of_four hlow hhigh).symm.trans h)
    constructor <;> simp only [least, bound] <;> split_ifs <;> simp only [UInt8.reduceToNat] <;>
      omega

variable {p : Pending} {b : UInt8}

theorem Scalar.not_ascii (h : p.Scalar) (hb : p.Takes b) : ¬ b < 0x80 := by
  have hle := UInt8.le_iff_toNat_le.mp hb.1
  have hlow := h.low
  simp only [UInt8.lt_iff_toNat_lt, UInt8.reduceToNat]
  omega

/-- Each byte narrows the range of values. -/
theorem Scalar.next (h : p.Scalar) (hb : p.Takes b) {more : Nat} (hmore : p.more = more + 1) :
    Scalar ⟨more, 0x80, 0xBF, p.valueWith b⟩ := by
  have hlow : p.low.toNat ≤ b.toNat := UInt8.le_iff_toNat_le.mp hb.1
  have hhigh : b.toNat ≤ p.high.toNat := UInt8.le_iff_toNat_le.mp hb.2
  have hleast : p.least ≤ least ⟨more, 0x80, 0xBF, p.valueWith b⟩ := by
    simp only [least, valueWith_eq, hmore, Nat.pow_succ', ← Nat.mul_assoc]
    refine Nat.mul_le_mul_right _ ?_
    omega
  have hbound : bound ⟨more, 0x80, 0xBF, p.valueWith b⟩ ≤ p.bound := by
    simp only [bound, valueWith_eq, hmore, Nat.pow_succ', ← Nat.mul_assoc, UInt8.reduceToNat]
    refine Nat.mul_le_mul_right _ ?_
    omega
  refine ⟨Nat.le_refl _, Nat.le_refl _, Nat.le_trans h.ascii hleast, ?_⟩
  exact h.valid.imp (Nat.le_trans hbound) fun hv =>
    ⟨Nat.le_trans hv.1 hleast, Nat.le_trans hbound hv.2⟩

/-- The last byte makes a character outside of the ASCII range. -/
theorem Scalar.last (h : p.Scalar) (hb : p.Takes b) (hmore : p.more = 0) :
    0x80 ≤ (Char.ofNat (p.valueWith b)).toNat := by
  have hlow : p.low.toNat ≤ b.toNat := UInt8.le_iff_toNat_le.mp hb.1
  have hhigh : b.toNat ≤ p.high.toNat := UInt8.le_iff_toNat_le.mp hb.2
  obtain ⟨-, -, hascii, hvalid⟩ := h
  simp only [least, bound, hmore, Nat.pow_zero, Nat.mul_one] at hascii hvalid
  have hscalar : (p.valueWith b).isValidChar := by
    rw [valueWith_eq]
    unfold Nat.isValidChar
    omega
  rw [toNat_charOfNat hscalar, valueWith_eq]
  omega

end Pending

/-! ### Other ASCII characters -/

/-- The two replace ASCII characters by ASCII characters, the one in bytes and the other in a
text, and leave everything else. -/
structure Substitutes (f : UInt8 → UInt8) (g : Char → Char) : Prop where
  ascii : ∀ b < 0x80, f b < 0x80 ∧ g (Char.ofNat b.toNat) = Char.ofNat (f b).toNat
  byte : ∀ b, ¬ b < 0x80 → f b = b
  char : ∀ c : Char, 0x80 ≤ c.toNat → g c = c

namespace Substitutes

variable {f : UInt8 → UInt8} {g : Char → Char}

/-- The same bytes go on with a sequence. -/
theorem takes_iff (h : Substitutes f g) {p : Pending} (hp : p.Scalar) (b : UInt8) :
    p.Takes (f b) ↔ p.Takes b := by
  by_cases hb : b < 0x80
  · have hf : f b < 0x80 := (h.ascii b hb).1
    exact ⟨fun ht => absurd hf (hp.not_ascii ht), fun ht => absurd hb (hp.not_ascii ht)⟩
  · rw [h.byte b hb]

/-- Where decoding goes on between characters, a replaced byte makes the replaced character. -/
theorem decodeFrom_none_cons (h : Substitutes f g) (b : UInt8) {rest rest' : Bytes}
    (hnone : decodeFrom none rest' = (decodeFrom none rest).map g)
    (hsome : ∀ p : Pending, p.Scalar →
      decodeFrom (some p) rest' = (decodeFrom (some p) rest).map g) :
    decodeFrom none (f b :: rest') = (decodeFrom none (b :: rest)).map g := by
  by_cases hb : b < 0x80
  · obtain ⟨hf, hg⟩ := h.ascii b hb
    rw [decodeFrom_char (lead_of_ascii hf), decodeFrom_char (lead_of_ascii hb), List.map_cons, hg,
      hnone]
  · rw [h.byte b hb]
    cases hlead : lead b with
    | char c => exact absurd (ascii_of_lead hlead) hb
    | opens p => rw [decodeFrom_opened hlead, decodeFrom_opened hlead, hsome p (.of_lead hlead)]
    | invalid =>
      rw [decodeFrom_invalid hlead, decodeFrom_invalid hlead, List.map_cons, hnone,
        h.char replacement (by decide)]

end Substitutes

/-- Replacing ASCII characters before decoding is replacing them after it, wherever the decoder
stands. -/
theorem decodeFrom_map {f : UInt8 → UInt8} {g : Char → Char} (h : Substitutes f g) (bytes : Bytes) :
    decodeFrom none (bytes.map f) = (decodeFrom none bytes).map g ∧
    ∀ p : Pending, p.Scalar →
      decodeFrom (some p) (bytes.map f) = (decodeFrom (some p) bytes).map g := by
  have hreplacement : g replacement = replacement := h.char replacement (by decide)
  induction bytes with
  | nil => exact ⟨rfl, fun p _ => by simp [decodeFrom, hreplacement]⟩
  | cons b rest ih =>
    obtain ⟨hnone, hsome⟩ := ih
    have hbetween := h.decodeFrom_none_cons b hnone hsome
    refine ⟨hbetween, fun p hp => ?_⟩
    show decodeFrom (some p) (f b :: rest.map f) = _
    by_cases ht : p.Takes b
    · -- A byte that goes on with the sequence is not replaced.
      rw [h.byte b (hp.not_ascii ht)]
      cases hmore : p.more with
      | zero =>
        rw [decodeFrom_last ht hmore, decodeFrom_last ht hmore, List.map_cons,
          h.char _ (hp.last ht hmore), hnone]
      | succ more =>
        rw [decodeFrom_next ht hmore, decodeFrom_next ht hmore, hsome _ (hp.next ht hmore)]
    · rw [decodeFrom_broken (mt (h.takes_iff hp b).mp ht), decodeFrom_broken ht, List.map_cons,
        hreplacement, hbetween]

/-- Replacing ASCII characters before decoding is replacing them after it. -/
theorem decodeLossy_map {f : UInt8 → UInt8} {g : Char → Char} (h : Substitutes f g)
    (bytes : Bytes) : decodeLossy (bytes.map f) = (decodeLossy bytes).map g :=
  (decodeFrom_map h bytes).1

end PgpCard.Utf8
