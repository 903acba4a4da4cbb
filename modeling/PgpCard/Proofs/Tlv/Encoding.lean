import Mathlib.Algebra.Group.Nat.Defs
import PgpCard.Tlv.Reader

/-!
# `PgpCard.Proofs.Tlv.Encoding`: what is encoded is read back

`encode` writes a data object with every length in its shortest form: one byte below `80`, or a
count of one to four bytes and then as many. An object is `WellFormed` if its tag is one, says
rightly whether the object is a template, and if four bytes can count its content.

`read_encodeAll` says that the reader gives well-formed objects back as they were, whatever
their nesting and whatever the forms of their lengths.

The reader does not see the nesting. It reads one flat sequence of items and puts the objects
together afterwards, by their sizes, so the proof has two halves. `items_encodeAll` says that
the items of encoded objects are those of their flat form, `flattenAll`. `assemble_flatten` says
that the items of one object do to the open templates what the object as a whole does, `place`:
the children of a template fill it up exactly with the last one, since each takes room.
-/

set_option autoImplicit false

namespace PgpCard.Tlv

/-! ### Numbers and lengths -/

/-- The last `k` digits of a number to the base 256, high digit first. -/
def digits : Nat → Nat → Bytes
  | 0, _ => []
  | k + 1, n => digits k (n / 256) ++ [UInt8.ofNat n]

@[simp] theorem length_digits (k n : Nat) : (digits k n).length = k := by
  induction k generalizing n with
  | zero => rfl
  | succ k ih => simp [digits, ih]

/-- Enough digits write the number. -/
theorem number_digits {k n : Nat} (h : n < 256 ^ k) : number (digits k n) = n := by
  induction k generalizing n with
  | zero =>
    obtain rfl : n = 0 := by simpa using h
    rfl
  | succ k ih =>
    have hhigh : n / 256 < 256 ^ k := by
      rw [Nat.div_lt_iff_lt_mul (by decide)]
      rwa [Nat.pow_succ] at h
    have hnumber : number (digits (k + 1) n) = number (digits k (n / 256)) * 256 + n % 256 := by
      rw [digits, number, List.foldl_append]
      simp [number]
    rw [hnumber, ih hhigh, Nat.mul_comm]
    exact Nat.div_add_mod n 256

/-- A length in its shortest form. -/
def encodeLength (n : Nat) : Bytes :=
  if n < 0x80 then [UInt8.ofNat n]
  else UInt8.ofNat (0x80 + (lengthSize n - 1)) :: digits (lengthSize n - 1) n

@[simp] theorem length_encodeLength (n : Nat) : (encodeLength n).length = lengthSize n := by
  unfold encodeLength
  by_cases hshort : n < 0x80
  · rw [if_pos hshort, lengthSize, if_pos hshort]
    rfl
  · have hpos : 0 < lengthSize n := by
      unfold lengthSize
      repeat' split
      all_goals decide
    rw [if_neg hshort, List.length_cons, length_digits]
    omega

/-- The long form of a length has as many bytes as it takes to count it. -/
theorem lengthSize_of_le {n : Nat} (hlong : 0x80 ≤ n) (h : n < 2 ^ 32) :
    ∃ k, lengthSize n = k + 1 ∧ k ≤ 4 ∧ n < 256 ^ k := by
  unfold lengthSize
  rw [if_neg (Nat.not_lt.mpr hlong)]
  by_cases h1 : n < 0x100
  · exact ⟨1, if_pos h1, by decide, h1⟩
  by_cases h2 : n < 0x10000
  · exact ⟨2, by rw [if_neg h1, if_pos h2], by decide, h2⟩
  by_cases h3 : n < 0x1000000
  · exact ⟨3, by rw [if_neg h1, if_neg h2, if_pos h3], by decide, h3⟩
  · exact ⟨4, by rw [if_neg h1, if_neg h2, if_neg h3], by decide, h⟩

/-- A length is read back. -/
theorem readLength_encodeLength {n : Nat} (h : n < 2 ^ 32) (rest : Bytes) :
    readLength (encodeLength n ++ rest) = some (n, rest) := by
  unfold encodeLength
  by_cases hshort : n < 0x80
  · have hbyte : (UInt8.ofNat n).toNat = n := by
      rw [UInt8.toNat_ofNat']
      omega
    have hlow : UInt8.ofNat n < 0x80 := by
      rw [UInt8.lt_iff_toNat_lt, hbyte]
      exact hshort
    rw [if_pos hshort, List.singleton_append, readLength, if_pos hlow, hbyte]
  · obtain ⟨k, hsize, hk, hfits⟩ := lengthSize_of_le (Nat.not_lt.mp hshort) h
    have hcount : (UInt8.ofNat (0x80 + k)).toNat = 0x80 + k := by
      rw [UInt8.toNat_ofNat']
      omega
    have hhigh : ¬UInt8.ofNat (0x80 + k) < 0x80 := by
      rw [UInt8.lt_iff_toNat_lt, hcount]
      exact Nat.not_lt.mpr (Nat.le_add_right _ _)
    have hcut : Bytes.cut? k (digits k n ++ rest) = some (digits k n, rest) :=
      Bytes.cut?_eq_some_iff.mpr ⟨rfl, length_digits k n⟩
    rw [if_neg hshort, hsize, Nat.add_sub_cancel, List.cons_append, readLength, if_neg hhigh, hcount,
      Nat.add_sub_cancel_left]
    simp only [Nat.not_lt.mpr hk, if_false, hcut, Option.map_some, number_digits hfits]

/-! ### Tags -/

/-- The bytes are a tag: one byte other than zero, or a first byte whose low five bits are all set,
followed by one byte below `80` with at most one other before it. -/
inductive IsTag : Bytes → Prop where
  | short {b : UInt8} (hlow : b &&& 0x1F ≠ 0x1F) (hne : b ≠ 0) : IsTag [b]
  | long {b last : UInt8} (hlow : b &&& 0x1F = 0x1F) (hlast : last < 0x80) : IsTag [b, last]
  | longer {b mid last : UInt8} (hlow : b &&& 0x1F = 0x1F) (hmid : ¬mid < 0x80)
      (hlast : last < 0x80) : IsTag [b, mid, last]

/-- A tag is read back. -/
theorem readTag_append {tag : Bytes} (h : IsTag tag) (rest : Bytes) :
    readTag (tag ++ rest) = some (tag, rest) := by
  cases h with
  | short hlow hne => simp [readTag, hlow, hne]
  | long hlow hlast => simp [readTag, readTagTail, hlow, hlast]
  | longer hlow hmid hlast => simp [readTag, readTagTail, hlow, hmid, hlast]

theorem IsTag.length_pos {tag : Bytes} (h : IsTag tag) : 0 < tag.length := by
  cases h <;> exact Nat.succ_pos _

/-! ### Objects -/

mutual

/-- The bytes of an object. -/
def encode : Tlv → Bytes
  | .primitive tag value => tag ++ (encodeLength value.length ++ value)
  | .constructed tag children =>
    tag ++ (encodeLength (encodeAll children).length ++ encodeAll children)

/-- The bytes of several objects, one after another. -/
def encodeAll : List Tlv → Bytes
  | [] => []
  | t :: ts => t.encode ++ encodeAll ts

end

/-- Tag and content of an object fit together, and four bytes count the content. -/
inductive WellFormed : Tlv → Prop where
  | primitive {tag value : Bytes} (htag : IsTag tag) (hkind : isTemplateTag tag = false)
      (hlength : value.length < 2 ^ 32) : WellFormed (.primitive tag value)
  | constructed {tag : Bytes} {children : List Tlv} (htag : IsTag tag)
      (hkind : isTemplateTag tag = true) (hlength : (encodeAll children).length < 2 ^ 32)
      (hchildren : ∀ t ∈ children, WellFormed t) : WellFormed (.constructed tag children)

theorem length_encode_primitive (tag value : Bytes) :
    (encode (.primitive tag value)).length = sizeOf tag value.length := by
  simp [encode, sizeOf, Nat.add_assoc]

theorem length_encode_constructed (tag : Bytes) (children : List Tlv) :
    (encode (.constructed tag children)).length = sizeOf tag (encodeAll children).length := by
  simp [encode, sizeOf, Nat.add_assoc]

/-- Every object takes room. -/
theorem WellFormed.length_encode_pos {t : Tlv} (h : WellFormed t) : 0 < t.encode.length := by
  cases h with
  | primitive htag hkind hlength =>
    rw [length_encode_primitive, sizeOf]
    have := htag.length_pos
    omega
  | constructed htag hkind hlength hchildren =>
    rw [length_encode_constructed, sizeOf]
    have := htag.length_pos
    omega

/-! ### The flat sequence -/

mutual

/-- The items of an object: its value, or its header and the items of its children. -/
def flatten : Tlv → List Item
  | .primitive tag value => [.leaf tag value]
  | .constructed tag children => .opening tag (encodeAll children).length :: flattenAll children

/-- The items of several objects. -/
def flattenAll : List Tlv → List Item
  | [] => []
  | t :: ts => t.flatten ++ flattenAll ts

end

theorem items_of_readItem {bytes rest : Bytes} {item : Item}
    (h : readItem bytes = some (item, rest)) : items bytes = item :: items rest := by
  rw [items]
  split
  · rename_i item' rest' h'
    obtain ⟨rfl, rfl⟩ := Prod.mk.inj (Option.some.inj (h.symm.trans h'))
    rfl
  · rename_i h'
    cases h.symm.trans h'

theorem items_nil : items [] = [] := by
  rw [items]
  split
  · rename_i h
    cases h
  · rfl

theorem readItem_primitive {tag value : Bytes} (htag : IsTag tag)
    (hkind : isTemplateTag tag = false) (hlength : value.length < 2 ^ 32) (rest : Bytes) :
    readItem (encode (.primitive tag value) ++ rest) = some (.leaf tag value, rest) := by
  have hcut : Bytes.cut? value.length (value ++ rest) = some (value, rest) :=
    Bytes.cut?_eq_some_iff.mpr ⟨rfl, rfl⟩
  rw [encode, List.append_assoc, List.append_assoc]
  simp [readItem, readTag_append htag, readLength_encodeLength hlength, hkind, hcut]

/-- The header of a template is read without its children. -/
theorem readItem_constructed {tag : Bytes} {children : List Tlv} (htag : IsTag tag)
    (hkind : isTemplateTag tag = true) (hlength : (encodeAll children).length < 2 ^ 32)
    (rest : Bytes) :
    readItem (encode (.constructed tag children) ++ rest) =
      some (.opening tag (encodeAll children).length, encodeAll children ++ rest) := by
  rw [encode, List.append_assoc, List.append_assoc]
  simp [readItem, readTag_append htag, readLength_encodeLength hlength, hkind]

mutual

/-- The items of an encoded object are those of its flat form. -/
theorem items_encode {t : Tlv} (h : WellFormed t) (rest : Bytes) :
    items (t.encode ++ rest) = t.flatten ++ items rest := by
  cases t with
  | primitive tag value =>
    obtain ⟨htag, hkind, hlength⟩ := h
    rw [items_of_readItem (readItem_primitive htag hkind hlength rest), flatten]
    rfl
  | constructed tag children =>
    obtain _ | ⟨htag, hkind, hlength, hchildren⟩ := h
    rw [items_of_readItem (readItem_constructed htag hkind hlength rest),
      items_encodeAll hchildren rest, flatten]
    rfl

theorem items_encodeAll {ts : List Tlv} (h : ∀ t ∈ ts, WellFormed t) (rest : Bytes) :
    items (encodeAll ts ++ rest) = flattenAll ts ++ items rest := by
  cases ts with
  | nil => rfl
  | cons t ts =>
    obtain ⟨ht, hts⟩ := List.forall_mem_cons.mp h
    rw [encodeAll, flattenAll, List.append_assoc, items_encode ht, items_encodeAll hts,
      List.append_assoc]

end

/-! ### Putting the objects together -/

/-- What follows an item that has had this effect on the open templates. -/
def resume (rest : List Item) : Option (List OpenTemplate × Option Tlv) → List Tlv
  | none => []
  | some (stack, some t) => t :: assemble stack rest
  | some (stack, none) => assemble stack rest

theorem assemble_cons (stack : List OpenTemplate) (item : Item) (rest : List Item) :
    assemble stack (item :: rest) = resume rest (push stack item) := by
  rw [assemble]
  rcases push stack item with _ | ⟨stack', _ | t⟩ <;> rfl

/-- A child that leaves room in its template stays there. -/
theorem place_of_lt {t : Tlv} {size : Nat} {o : OpenTemplate} (h : o.filled + size < o.declared)
    (outer : List OpenTemplate) :
    place t size (o :: outer) =
      some ({ o with children := t :: o.children, filled := o.filled + size } :: outer, none) := by
  rw [place]
  exact if_pos h

/-- A child that takes the last room completes its template. -/
theorem place_of_eq {t : Tlv} {size : Nat} {o : OpenTemplate} (h : o.filled + size = o.declared)
    (outer : List OpenTemplate) :
    place t size (o :: outer) =
      place (.constructed o.tag (t :: o.children).reverse) (sizeOf o.tag o.declared) outer := by
  rw [place]
  simp only [h, Nat.lt_irrefl, if_false, if_true]

/-- Objects that take no room are none. -/
theorem length_encodeAll_pos {ts : List Tlv} (h : ∀ t ∈ ts, WellFormed t) (hne : ts ≠ []) :
    0 < (encodeAll ts).length := by
  cases ts with
  | nil => exact absurd rfl hne
  | cons t ts =>
    have hpos := (h t List.mem_cons_self).length_encode_pos
    rw [encodeAll, List.length_append]
    omega

mutual

/-- The items of an object do to the open templates what the whole object does. -/
theorem assemble_flatten {t : Tlv} (h : WellFormed t) (stack : List OpenTemplate)
    (rest : List Item) :
    assemble stack (t.flatten ++ rest) = resume rest (place t t.encode.length stack) := by
  cases t with
  | primitive tag value =>
    rw [flatten, List.singleton_append, assemble_cons, push, length_encode_primitive]
  | constructed tag children =>
    obtain _ | ⟨htag, hkind, hlength, hchildren⟩ := h
    rw [flatten, List.cons_append, assemble_cons, length_encode_constructed]
    by_cases hnone : children = []
    · -- A template without content is complete with its header.
      subst hnone
      rfl
    · obtain ⟨n, hn⟩ : ∃ n, (encodeAll children).length = n + 1 :=
        Nat.exists_eq_add_one.mpr (length_encodeAll_pos hchildren hnone)
      rw [hn, push]
      exact assemble_children hchildren hnone (by simpa using hn) stack rest

/-- The items of the children that a template waits for complete it. -/
theorem assemble_children {ts : List Tlv} (h : ∀ t ∈ ts, WellFormed t) (hne : ts ≠ [])
    {o : OpenTemplate} (hroom : o.filled + (encodeAll ts).length = o.declared)
    (outer : List OpenTemplate) (rest : List Item) :
    assemble (o :: outer) (flattenAll ts ++ rest) =
      resume rest (place (.constructed o.tag (o.children.reverse ++ ts)) (sizeOf o.tag o.declared)
        outer) := by
  cases ts with
  | nil => exact absurd rfl hne
  | cons t ts =>
    obtain ⟨ht, hts⟩ := List.forall_mem_cons.mp h
    rw [encodeAll, List.length_append] at hroom
    rw [flattenAll, List.append_assoc, assemble_flatten ht]
    by_cases hlast : ts = []
    · subst hlast
      rw [place_of_eq (by simpa [encodeAll] using hroom), List.reverse_cons]
      rfl
    · -- There is a next child, and it takes room.
      have hpos := length_encodeAll_pos hts hlast
      rw [place_of_lt (by omega)]
      show assemble (_ :: outer) _ = _
      rw [assemble_children hts hlast (by simpa [Nat.add_assoc] using hroom)]
      simp

end

/-- Outermost objects come out one after another. -/
theorem assemble_flattenAll {ts : List Tlv} (h : ∀ t ∈ ts, WellFormed t) :
    assemble [] (flattenAll ts) = ts := by
  induction ts with
  | nil => rfl
  | cons t ts ih =>
    obtain ⟨ht, hts⟩ := List.forall_mem_cons.mp h
    rw [flattenAll, assemble_flatten ht, place]
    exact congrArg (t :: ·) (ih hts)

/-- Well-formed objects are read back from their encoding. -/
theorem read_encodeAll {ts : List Tlv} (h : ∀ t ∈ ts, WellFormed t) :
    read (encodeAll ts) = ts := by
  have hitems : items (encodeAll ts) = flattenAll ts := by
    have := items_encodeAll h []
    rwa [List.append_nil, items_nil, List.append_nil] at this
  rw [read, hitems, assemble_flattenAll h]

/-- So is a single one. -/
theorem read_encode {t : Tlv} (h : WellFormed t) : read t.encode = [t] := by
  have hall := read_encodeAll (List.forall_mem_singleton.mpr h)
  rwa [encodeAll, encodeAll, List.append_nil] at hall

end PgpCard.Tlv
