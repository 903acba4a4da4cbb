import PgpCard.Card.TokenInfo
import PgpCard.Proofs.Text.Utf8

/-!
# `PgpCard.Proofs.Card.HolderName`: the name in the cardholder related data

The card pads names with the filler `<`, which is to become a space. The rule is about bytes, but
the library decodes the name first and replaces characters of the text. The two come to the same
(`fillerToSpace_decodeLossy`), also where the bytes are no UTF-8, since a filler byte never hides
inside of a sequence and no sequence comes to a filler.

`holderName_of_short` and `holderName_of_long` are the two halves of the rule about the declared
length, and `holderName_faithful` puts all together.
-/

set_option autoImplicit false

namespace PgpCard.TokenInfo

/-- The byte with the filler `<` as a space. -/
def blankFiller (b : UInt8) : UInt8 := if b = 0x3C then 0x20 else b

theorem substitutes_blankFiller :
    Utf8.Substitutes blankFiller fun c => if c = '<' then ' ' else c where
  ascii b hb := by
    have hfiller : Char.ofNat b.toNat = '<' ↔ b = 0x3C := by
      constructor
      · intro h
        have hnumber := congrArg Char.toNat h
        rw [Utf8.toNat_charOfNat (Or.inl (Nat.lt_trans b.toNat_lt (by decide)))] at hnumber
        exact UInt8.toNat_inj.mp hnumber
      · rintro rfl
        rfl
    unfold blankFiller
    by_cases hb' : b = 0x3C
    · rw [if_pos hb', if_pos (hfiller.mpr hb')]
      exact ⟨by decide, rfl⟩
    · rw [if_neg hb', if_neg (mt hfiller.mp hb')]
      exact ⟨hb, rfl⟩
  byte b hb := by
    refine if_neg ?_
    rintro rfl
    exact hb (by decide)
  char c hc := by
    refine if_neg ?_
    rintro rfl
    exact absurd hc (by decide)

/-- To replace the filler in the text is to replace it in the bytes of the text. -/
theorem fillerToSpace_decodeLossy (bytes : Bytes) :
    fillerToSpace (Utf8.decodeLossy bytes) = Utf8.decodeLossy (bytes.map blankFiller) :=
  (Utf8.decodeLossy_map substitutes_blankFiller bytes).symm

/-- No filler is left. -/
theorem notMem_fillerToSpace (name : List Char) : '<' ∉ fillerToSpace name := by
  intro h
  obtain ⟨c, -, hc⟩ := List.mem_map.mp h
  split at hc
  · exact absurd hc (by decide)
  · next hne => exact hne hc

theorem notMem_holderName (data : Bytes) : '<' ∉ (holderName data).toList := by
  unfold holderName
  split
  · dsimp only
    split
    · rw [String.toList_ofList]
      exact notMem_fillerToSpace _
    · exact List.not_mem_nil
  · exact List.not_mem_nil

/-- Data that has its fourth byte has three bytes before that one. -/
theorem eq_cons_of_getElem? {data : Bytes} {n : UInt8} (h : data[3]? = some n) :
    ∃ x y z, data = x :: y :: z :: n :: data.drop 4 := by
  match data, h with
  | x :: y :: z :: _ :: rest, rfl => exact ⟨x, y, z, rfl⟩

/-- The declared length counts the bytes of the name, which must all be there. -/
theorem holderName_of_declared {data : Bytes} {n : UInt8} (h : data[3]? = some n) :
    holderName data =
      if ((data.drop 4).take n.toNat).length = n.toNat then
        String.ofList (Utf8.decodeLossy (((data.drop 4).take n.toNat).map blankFiller))
      else "" := by
  obtain ⟨x, y, z, hdata⟩ := eq_cons_of_getElem? h
  generalize data.drop 4 = rest at hdata ⊢
  subst hdata
  rw [← fillerToSpace_decodeLossy]
  rfl

/-- Data without a declared length has no name. -/
theorem holderName_of_undeclared {data : Bytes} (h : data[3]? = none) : holderName data = "" := by
  match data, h with
  | [], _ | [_], _ | [_, _], _ | [_, _, _], _ => rfl

/-- A name that is not there in full is empty. -/
theorem holderName_of_short {data : Bytes} {n : UInt8} (h : data[3]? = some n)
    (hshort : data.length < 4 + n.toNat) : holderName data = "" := by
  have hdeclared : 3 < data.length := (List.getElem?_eq_some_iff.mp h).1
  rw [holderName_of_declared h, if_neg]
  rw [List.length_take, List.length_drop]
  omega

theorem holderName_of_long {data : Bytes} {n : UInt8} (h : data[3]? = some n)
    (hlong : 4 + n.toNat ≤ data.length) : holderName data =
      String.ofList (Utf8.decodeLossy (((data.drop 4).take n.toNat).map blankFiller)) := by
  rw [holderName_of_declared h, if_pos]
  rw [List.length_take, List.length_drop]
  omega

/-- Nothing counts but the declared length and as many bytes behind it. -/
theorem holderName_congr {data data' : Bytes} (hlength : data'[3]? = data[3]?)
    (hname : ∀ n, data[3]? = some n →
      (data'.drop 4).take n.toNat = (data.drop 4).take n.toNat) :
    holderName data' = holderName data := by
  cases h : data[3]? with
  | none => rw [holderName_of_undeclared h, holderName_of_undeclared (hlength.trans h)]
  | some n => rw [holderName_of_declared h, holderName_of_declared (hlength.trans h), hname n h]

/-- A name in UTF-8 is read as that name. -/
theorem holderName_encode (text : String) (x y z : UInt8) (rest : Bytes)
    (h : (Utf8.encode text).length ≤ 255) :
    holderName (x :: y :: z :: UInt8.ofNat (Utf8.encode text).length ::
      (Utf8.encode text ++ rest)) = text.map fun c => if c = '<' then ' ' else c := by
  have hn : (UInt8.ofNat (Utf8.encode text).length).toNat = (Utf8.encode text).length :=
    Utf8.toNat_ofNat (Nat.lt_succ_of_le h)
  simp only [holderName, hn, List.take_left, if_pos, Utf8.decodeLossy_encode]
  rw [← String.toList_inj, String.toList_ofList, String.toList_map]
  rfl

/-- A name is read in full where it is there in full, with each filler byte as a space before it
is decoded, and in every other case it is empty. -/
theorem holderName_faithful (data : Bytes) :
    (data.length < 4 ∨ (∃ n, data[3]? = some n ∧ data.length < 4 + n.toNat) →
      holderName data = "") ∧
    (∀ n, data[3]? = some n → 4 + n.toNat ≤ data.length → holderName data =
      String.ofList (Utf8.decodeLossy (((data.drop 4).take n.toNat).map blankFiller))) ∧
    '<' ∉ (holderName data).toList ∧
    (∀ data' : Bytes, data'[3]? = data[3]? →
      (∀ n, data[3]? = some n → (data'.drop 4).take n.toNat = (data.drop 4).take n.toNat) →
      holderName data' = holderName data) ∧
    ∀ (text : String) (x y z : UInt8) (rest : Bytes), (Utf8.encode text).length ≤ 255 →
      holderName (x :: y :: z :: UInt8.ofNat (Utf8.encode text).length ::
        (Utf8.encode text ++ rest)) = text.map fun c => if c = '<' then ' ' else c := by
  refine ⟨?short, fun n h hlong => holderName_of_long h hlong, notMem_holderName data,
    fun data' hlength hname => holderName_congr hlength hname, holderName_encode⟩
  case short =>
    rintro (hshort | ⟨n, h, hshort⟩)
    · refine holderName_of_undeclared (List.getElem?_eq_none ?_)
      omega
    · exact holderName_of_short h hshort

/-- A filler that breaks a sequence of two bytes off is a space after the replacement character.
Without its last byte the name is empty, and the same bytes behind another tag are the same name. -/
theorem holderName_faithful_broken :
    let name : Bytes := [0x44, 0xC3, 0x3C, 0x4A]
    holderName (0x65 :: 0x06 :: 0x5B :: 0x04 :: name) =
        String.ofList ['D', Utf8.replacement, ' ', 'J'] ∧
      holderName (0x65 :: 0x06 :: 0x5B :: 0x04 :: name.take 3) = "" ∧
      holderName (0x00 :: 0x00 :: 0x00 :: 0x04 :: (name ++ [0x90])) =
        holderName (0x65 :: 0x06 :: 0x5B :: 0x04 :: name) ∧
      holderName (0x65 :: 0x0C :: 0x5B :: UInt8.ofNat (Utf8.encode "Doe<<Jörg").length ::
        (Utf8.encode "Doe<<Jörg" ++ [])) = "Doe  Jörg" := by
  intro name
  obtain ⟨-, hlong, -, hsame, hencode⟩ :=
    holderName_faithful (0x65 :: 0x06 :: 0x5B :: 0x04 :: name)
  obtain ⟨hshort, -⟩ := holderName_faithful (0x65 :: 0x06 :: 0x5B :: 0x04 :: name.take 3)
  refine ⟨hlong 4 rfl (by decide), hshort (Or.inr ⟨4, rfl, by decide⟩), hsame _ rfl ?_, ?_⟩
  · rintro n ⟨⟩
    rfl
  · rw [hencode "Doe<<Jörg" 0x65 0x0C 0x5B [] (by decide), ← String.toList_inj, String.toList_map]
    decide

end PgpCard.TokenInfo
