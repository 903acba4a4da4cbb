import Mathlib.Data.List.Basic
import Mathlib.Data.List.Induction
import Mathlib.Data.Nat.Bitwise
import PgpCard.Card.Capabilities

/-!
# `PgpCard.Proofs.Card.HistoricalBytes`: which historical bytes are read, and as what

Historical bytes are a category byte, compact-TLV objects, and three status bytes. `Laid` says so
of a byte string, and `Tells` says what the card reports with it. `ofHistoricalBytes_grammar` is
the theorem: the byte strings that are read are those that are laid out like that, and they are
read as what they tell.

The status bytes are cut off before the objects are looked at, so an object that reaches into them
is one that is cut off. `readAll_eq_some_iff` says what the objects in front of them can be.

The reading collects all objects and then looks for the last one with the card capabilities.
`scan` goes over the bytes once instead. It changes the capabilities with each object that has
them, and checks every access: where it would look at a byte that is not there, it gives no result
at all. That it always gives the result of the reading, `scan_eq`, says that there is no such
access on any input.
-/

set_option autoImplicit false

namespace PgpCard

namespace CompactObject

/-- The bytes of an object. -/
def encode (o : CompactObject) : Bytes := o.header :: o.value

/-- The value has the length that the header announces. -/
def WellFormed (o : CompactObject) : Prop := o.value.length = lengthOf o.header

theorem readAll_of_cut?_eq_none {header : UInt8} {rest : Bytes}
    (h : Bytes.cut? (lengthOf header) rest = none) : readAll (header :: rest) = none := by
  rw [readAll]
  split
  · rfl
  · rename_i h'
    cases h.symm.trans h'

theorem readAll_of_cut?_eq_some {header : UInt8} {rest value rest' : Bytes}
    (h : Bytes.cut? (lengthOf header) rest = some (value, rest')) :
    readAll (header :: rest) = (readAll rest').map (⟨header, value⟩ :: ·) := by
  rw [readAll]
  split
  · rename_i h'
    cases h.symm.trans h'
  · rename_i h'
    obtain ⟨rfl, rfl⟩ := Prod.mk.inj (Option.some.inj (h.symm.trans h'))
    rfl

/-- A byte string is read as these objects just if it is made of them. -/
theorem readAll_eq_some_iff {bytes : Bytes} {objects : List CompactObject} :
    readAll bytes = some objects ↔
      bytes = objects.flatMap encode ∧ ∀ o ∈ objects, o.WellFormed := by
  induction bytes using readAll.induct generalizing objects with
  | case1 =>
    rw [readAll, Option.some.injEq]
    constructor
    · rintro rfl
      exact ⟨rfl, by simp⟩
    · rintro ⟨hbytes, -⟩
      -- An object has at least its header.
      cases objects with
      | nil => rfl
      | cons o os => exact nomatch hbytes
  | case2 header rest hcut =>
    rw [readAll_of_cut?_eq_none hcut]
    refine ⟨nofun, ?_⟩
    rintro ⟨hbytes, hwell⟩
    cases objects with
    | nil => exact nomatch hbytes
    | cons o os =>
      obtain ⟨rfl, hrest⟩ := List.cons.inj hbytes
      -- The value is there, so it could have been cut off.
      have hvalue : o.value.length = lengthOf o.header := hwell o List.mem_cons_self
      have hcut' := Bytes.cut?_eq_some_iff.mpr ⟨hrest, hvalue⟩
      exact nomatch hcut.symm.trans hcut'
  | case3 header rest value rest' hcut hlength ih =>
    rw [readAll_of_cut?_eq_some hcut, Option.map_eq_some_iff]
    obtain ⟨rfl, hvalue⟩ := Bytes.cut?_eq_some_iff.mp hcut
    constructor
    · rintro ⟨os, hos, rfl⟩
      obtain ⟨rfl, hwell⟩ := ih.mp hos
      exact ⟨rfl, List.forall_mem_cons.mpr ⟨hvalue, hwell⟩⟩
    · rintro ⟨hbytes, hwell⟩
      cases objects with
      | nil => exact nomatch hbytes
      | cons o os =>
        obtain ⟨ho, hos⟩ := List.forall_mem_cons.mp hwell
        obtain ⟨rfl, hrest⟩ := List.cons.inj hbytes
        -- Both values have the announced length, so they are the same.
        obtain ⟨rfl, rfl⟩ := List.append_inj hrest (hvalue.trans ho.symm)
        exact ⟨os, ih.mpr ⟨rfl, hos⟩, rfl⟩

end CompactObject

namespace CardCapabilities

open CompactObject

/-! ### The card capabilities object -/

/-- The third byte of the last card capabilities object counts. -/
theorem flags_of_last {before later : List CompactObject} {o : CompactObject}
    (ho : o.header = header) (hlater : ∀ o' ∈ later, o'.header ≠ header) :
    flags (before ++ o :: later) = o.value.getD 2 0 := by
  have hfind : (before ++ o :: later).reverse.find? (·.header == header) = some o := by
    have hnone : later.reverse.find? (·.header == header) = none :=
      List.find?_eq_none.mpr fun o' ho' => by simpa using hlater o' (List.mem_reverse.mp ho')
    simp [List.find?_append, hnone, ho]
  rw [flags, hfind]

/-- Without such an object there are no flags. -/
theorem flags_of_none {objects : List CompactObject} (h : ∀ o ∈ objects, o.header ≠ header) :
    flags objects = 0 := by
  have hfind : objects.reverse.find? (·.header == header) = none :=
    List.find?_eq_none.mpr fun o ho => by simpa using h o (List.mem_reverse.mp ho)
  rw [flags, hfind]

/-- A card capabilities object has a third byte. -/
theorem exists_third {o : CompactObject} (hwell : o.WellFormed) (ho : o.header = header) :
    ∃ b, o.value[2]? = some b := by
  have hlength : 2 < o.value.length := by
    rw [hwell, ho]
    decide
  exact ⟨_, List.getElem?_eq_getElem hlength⟩

/-- A byte combined with one bit is not zero just if that bit is set. -/
theorem and_bit_ne_zero (b : UInt8) {k : Nat} (hk : k < 8) :
    (b &&& UInt8.ofNat (2 ^ k) != 0) = b.toNat.testBit k := by
  have hand : (b &&& UInt8.ofNat (2 ^ k)).toNat = (b.toNat.testBit k).toNat * 2 ^ k := by
    have hlt : 2 ^ k < 2 ^ 8 := Nat.pow_lt_pow_right (by decide) hk
    rw [UInt8.toNat_and, UInt8.toNat_ofNat_of_lt' hlt, Nat.and_two_pow]
  have hzero : b &&& UInt8.ofNat (2 ^ k) = 0 ↔ b.toNat.testBit k = false := by
    rw [← UInt8.toNat_inj, hand]
    simp
  rw [Bool.eq_iff_iff, bne_iff_ne, ne_eq, hzero, Bool.not_eq_false]

/-! ### One pass with checked accesses -/

/-- The capabilities after one more object: the card capabilities replace what was said before. -/
def absorb (card : CardCapabilities) (o : CompactObject) : CardCapabilities :=
  if o.header = header then
    { card with
      chaining := o.value.getD 2 0 &&& 0x80 != 0
      extendedLength := o.value.getD 2 0 &&& 0x40 != 0 }
  else card

/-- Object by object, the last card capabilities win. -/
theorem foldl_absorb (objects : List CompactObject) (lifeCycleStatus : UInt8) :
    objects.foldl absorb { lifeCycleStatus } = ofObjects objects lifeCycleStatus := by
  induction objects using List.reverseRecOn with
  | nil => rfl
  | append_singleton objects o ih =>
    rw [List.foldl_append, ih, List.foldl_cons, List.foldl_nil, absorb]
    by_cases ho : o.header = header
    · have hflags : flags (objects ++ [o]) = o.value.getD 2 0 := flags_of_last ho (by simp)
      rw [if_pos ho, ofObjects, ofObjects, hflags]
    · have hflags : flags (objects ++ [o]) = flags objects := by simp [flags, ho]
      rw [if_neg ho, ofObjects, ofObjects, hflags]

/-- Goes over the objects once. There is no result where a byte is looked at that is not there. -/
def scanObjects (card : CardCapabilities) : Bytes → Option (Except DataFault CardCapabilities)
  | [] => some (.ok card)
  | first :: tail =>
    if tail.length < lengthOf first then some (.error .truncatedObject)
    else
      match h : Bytes.cut? (lengthOf first) tail with
      | none => none
      | some (value, next) =>
        have : next.length + lengthOf first = tail.length := Bytes.length_cut? h
        if first = header then
          match (value[2]? : Option UInt8) with
          | none => none
          | some b =>
            scanObjects { card with
              chaining := b &&& 0x80 != 0, extendedLength := b &&& 0x40 != 0 } next
        else scanObjects card next
termination_by bytes => bytes.length

/-- Goes over historical bytes once. There is no result where a byte is looked at that is not
there. -/
def scan : Bytes → Option (Except DataFault CardCapabilities)
  | [] => some (.error .emptyHistoricalBytes)
  | category :: rest =>
    if category ≠ 0 then some (.error .unknownCategory)
    else if rest.length < 3 then some (.error .missingStatusIndicator)
    else
      match Bytes.cut? (rest.length - 3) rest with
      | none => none
      | some (objects, status) =>
        match status[0]? with
        | none => none
        | some lifeCycleStatus => scanObjects { lifeCycleStatus } objects

/-- An object that is there is taken in, and the pass goes on behind it. -/
theorem scanObjects_of_cut? {card : CardCapabilities} {first : UInt8} {tail value next : Bytes}
    (hcut : Bytes.cut? (lengthOf first) tail = some (value, next)) :
    scanObjects card (first :: tail) = scanObjects (card.absorb ⟨first, value⟩) next := by
  have hlength := Bytes.length_cut? hcut
  have hwell : WellFormed ⟨first, value⟩ := (Bytes.cut?_eq_some_iff.mp hcut).2
  rw [scanObjects, if_neg (by omega)]
  split
  · rename_i h
    cases hcut.symm.trans h
  rename_i value' next' h
  obtain ⟨rfl, rfl⟩ := Prod.mk.inj (Option.some.inj (hcut.symm.trans h))
  by_cases hfirst : first = header
  · -- The header says that there are three bytes.
    obtain ⟨b, hb⟩ := exists_third hwell hfirst
    have hthird : value[2]? = some b := hb
    have hget : value.getD 2 0 = b := by simp [List.getD_eq_getElem?_getD, hthird]
    rw [if_pos hfirst, absorb, if_pos hfirst, hget]
    simp only [hthird]
  · rw [if_neg hfirst, absorb, if_neg hfirst]

/-- The pass over the objects takes them in as they are read, or finds the one that is cut off. The
induction follows the reading. -/
theorem scanObjects_eq (bytes : Bytes) :
    ∀ card : CardCapabilities, scanObjects card bytes =
      match readAll bytes with
      | some objects => some (.ok (objects.foldl absorb card))
      | none => some (.error .truncatedObject) := by
  induction bytes using readAll.induct with
  | case1 =>
    intro card
    rw [scanObjects, readAll]
    rfl
  | case2 first rest hcut =>
    intro card
    rw [scanObjects, if_pos (Bytes.cut?_eq_none_iff.mp hcut), readAll_of_cut?_eq_none hcut]
  | case3 first rest value rest' hcut hlength ih =>
    intro card
    rw [scanObjects_of_cut? hcut, ih, readAll_of_cut?_eq_some hcut]
    cases readAll rest' <;> rfl

/-- Three bytes from the end there is a status, where there are three bytes. -/
theorem exists_status {rest : Bytes} (h : ¬rest.length < 3) :
    ∃ lifeCycle sw1 sw2, rest.drop (rest.length - 3) = [lifeCycle, sw1, sw2] := by
  have hlength : (rest.drop (rest.length - 3)).length = 3 := by
    rw [List.length_drop]
    omega
  exact List.length_eq_three.mp hlength

/-- The pass gives the result of the reading on every input, so it never looks at a byte that is
not there. -/
theorem scan_eq (bytes : Bytes) : scan bytes = some (ofHistoricalBytes bytes) := by
  cases bytes with
  | nil => rfl
  | cons category rest =>
    rw [scan, ofHistoricalBytes]
    by_cases hcategory : category = 0
    · rw [if_neg (not_not.mpr hcategory), if_neg (not_not.mpr hcategory)]
      by_cases hshort : rest.length < 3
      · have hdrop : rest.drop (rest.length - 3) = rest := by
          rw [show rest.length - 3 = 0 by omega, List.drop_zero]
        rw [if_pos hshort, hdrop]
        rcases rest with _ | ⟨a, _ | ⟨b, _ | ⟨c, rest⟩⟩⟩
        · rfl
        · rfl
        · rfl
        · exact absurd hshort (by simp)
      · obtain ⟨lifeCycle, sw1, sw2, hstatus⟩ := exists_status hshort
        have hcut : Bytes.cut? (rest.length - 3) rest =
            some (rest.take (rest.length - 3), [lifeCycle, sw1, sw2]) :=
          Bytes.cut?_eq_some_iff.mpr ⟨by rw [← hstatus, List.take_append_drop], by simp⟩
        rw [if_neg hshort, hcut, hstatus]
        dsimp only [List.getElem?_cons_zero]
        rw [scanObjects_eq]
        cases readAll (rest.take (rest.length - 3)) with
        | none => rfl
        | some objects => exact congrArg (some ∘ Except.ok) (foldl_absorb objects lifeCycle)
    · rw [if_pos hcategory, if_pos hcategory]

/-! ### What is read, and as what -/

/-- The byte string is a zero byte, these objects one after another, and exactly three status
bytes, the first of which is the life cycle status. -/
structure Laid (bytes : Bytes) (objects : List CompactObject) (lifeCycle : UInt8) : Prop where
  bytes_eq : ∃ sw1 sw2, bytes = 0x00 :: (objects.flatMap encode ++ [lifeCycle, sw1, sw2])
  wellFormed : ∀ o ∈ objects, o.WellFormed

/-- What the card says of itself with these objects and this life cycle status. -/
structure Tells (objects : List CompactObject) (lifeCycle : UInt8) (card : CardCapabilities) :
    Prop where
  /-- The last object with header `73` has a third byte, and its two high bits are the ones. -/
  last : ∀ before o later, objects = before ++ o :: later → o.header = 0x73 →
    (∀ o' ∈ later, o'.header ≠ 0x73) →
    ∃ b, o.value[2]? = some b ∧ card.chaining = b.toNat.testBit 7 ∧
      card.extendedLength = b.toNat.testBit 6
  without : (∀ o ∈ objects, o.header ≠ 0x73) → card.chaining = false ∧ card.extendedLength = false
  lifeCycle : card.managesLifeCycle = true ↔ lifeCycle ≠ 0

variable {bytes : Bytes} {objects : List CompactObject} {lifeCycle : UInt8}

/-- What is laid out like historical bytes is read. -/
theorem Laid.ofHistoricalBytes_eq (h : Laid bytes objects lifeCycle) :
    ofHistoricalBytes bytes = .ok (ofObjects objects lifeCycle) := by
  obtain ⟨⟨sw1, sw2, rfl⟩, hwell⟩ := h
  have hlength : (objects.flatMap encode ++ [lifeCycle, sw1, sw2]).length - 3 =
      (objects.flatMap encode).length := by simp
  have hread : readAll (objects.flatMap encode) = some objects :=
    readAll_eq_some_iff.mpr ⟨rfl, hwell⟩
  rw [ofHistoricalBytes, if_neg (by simp), hlength, List.drop_left, List.take_left]
  dsimp only
  rw [hread]

/-- What is read is laid out like historical bytes. -/
theorem exists_laid {card : CardCapabilities} (h : ofHistoricalBytes bytes = .ok card) :
    ∃ objects lifeCycle, Laid bytes objects lifeCycle := by
  cases bytes with
  | nil => cases h
  | cons category rest =>
    rw [ofHistoricalBytes] at h
    by_cases hcategory : category = 0
    · rw [if_neg (not_not.mpr hcategory)] at h
      split at h
      · rename_i lifeCycle sw1 sw2 hstatus
        cases hread : readAll (rest.take (rest.length - 3)) with
        | none =>
          rw [hread] at h
          cases h
        | some objects =>
          obtain ⟨hobjects, hwell⟩ := readAll_eq_some_iff.mp hread
          refine ⟨objects, lifeCycle, ⟨sw1, sw2, ?_⟩, hwell⟩
          rw [hcategory, ← hobjects, ← hstatus, List.take_append_drop]
      · cases h
    · rw [if_pos hcategory] at h
      cases h

/-- The capabilities that are made of the objects are those that the objects tell. -/
theorem tells_ofObjects (hwell : ∀ o ∈ objects, o.WellFormed) :
    Tells objects lifeCycle (ofObjects objects lifeCycle) where
  last := by
    rintro before o later rfl ho hlater
    obtain ⟨b, hb⟩ := exists_third (hwell o (by simp)) ho
    have hflags : flags (before ++ o :: later) = b := by
      rw [flags_of_last ho hlater, List.getD_eq_getElem?_getD, hb, Option.getD_some]
    refine ⟨b, hb, ?_, ?_⟩
    · rw [ofObjects, hflags]
      exact and_bit_ne_zero b (k := 7) (by decide)
    · rw [ofObjects, hflags]
      exact and_bit_ne_zero b (k := 6) (by decide)
  without h := by
    rw [ofObjects, flags_of_none h]
    exact ⟨rfl, rfl⟩
  lifeCycle := bne_iff_ne

/-- Reading historical bytes ends on every input without a look at a byte that is not there. It
succeeds on exactly those inputs that are a zero byte, compact-TLV objects, and three status bytes,
and then gives the chaining and the extended length of the last card capabilities object among
them, or neither if there is none, and a life cycle if the status of it is not zero. -/
theorem ofHistoricalBytes_grammar (bytes : Bytes) :
    scan bytes = some (ofHistoricalBytes bytes) ∧
    ((∃ card, ofHistoricalBytes bytes = .ok card) ↔
      ∃ objects lifeCycle, Laid bytes objects lifeCycle) ∧
    ∀ card objects lifeCycle, ofHistoricalBytes bytes = .ok card →
      Laid bytes objects lifeCycle → Tells objects lifeCycle card := by
  refine ⟨scan_eq bytes, ⟨?_, ?_⟩, ?_⟩
  · rintro ⟨card, hcard⟩
    exact exists_laid hcard
  · rintro ⟨objects, lifeCycle, hlaid⟩
    exact ⟨_, hlaid.ofHistoricalBytes_eq⟩
  · intro card objects lifeCycle hcard hlaid
    obtain rfl : ofObjects objects lifeCycle = card :=
      Except.ok.inj (hlaid.ofHistoricalBytes_eq.symm.trans hcard)
    exact tells_ofObjects hlaid.wellFormed

/-- Two card capabilities objects, of which the second counts, an object with the tag of the card
capabilities and one byte, and one without a value. -/
theorem ofHistoricalBytes_grammar_two_objects :
    let first : CompactObject := ⟨0x73, [0x00, 0x00, 0xC0]⟩
    let last : CompactObject := ⟨0x73, [0x00, 0x00, 0x40]⟩
    let objects := [first, ⟨0x31, [0xC5]⟩, last, ⟨0x71, [0x80]⟩, ⟨0x50, []⟩]
    let bytes : Bytes := [0x00, 0x73, 0x00, 0x00, 0xC0, 0x31, 0xC5, 0x73, 0x00, 0x00, 0x40,
      0x71, 0x80, 0x50, 0x05, 0x90, 0x00]
    Laid bytes objects 0x05 ∧ ∃ card, ofHistoricalBytes bytes = .ok card ∧
      card.chaining = false ∧ card.extendedLength = true ∧ card.managesLifeCycle = true := by
  intro first last objects bytes
  have hlaid : Laid bytes objects 0x05 :=
    ⟨⟨0x90, 0x00, rfl⟩, by simp [objects, first, last, WellFormed, lengthOf]⟩
  obtain ⟨-, hread, htells⟩ := ofHistoricalBytes_grammar bytes
  obtain ⟨card, hcard⟩ := hread.mpr ⟨objects, 0x05, hlaid⟩
  have hcard' := htells card objects 0x05 hcard hlaid
  obtain ⟨b, hb, hchaining, hextended⟩ := hcard'.last [first, ⟨0x31, [0xC5]⟩] last
    [⟨0x71, [0x80]⟩, ⟨0x50, []⟩] rfl rfl (by simp)
  obtain rfl : 0x40 = b := Option.some.inj hb
  exact ⟨hlaid, card, hcard, hchaining, hextended, hcard'.lifeCycle.mpr (by decide)⟩

end CardCapabilities

end PgpCard
