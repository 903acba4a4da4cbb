import PgpCard.Tlv.Basic

/-!
# `PgpCard.Tlv.Reader`: reading data objects from bytes

A template does not cut its children out of the input: they are read from the same bytes
as everything else, as long as their sizes add up to less than the declared length. So
the input is one flat sequence of items, `Item`, whatever the nesting: a primitive object,
or the header of a template. `items` reads that sequence and stops at the first item that
is malformed or cut off.

`assemble` then builds the objects. Its state is the stack of templates that still wait
for children. An object that is complete goes into the innermost open template; when the
sizes there reach the declared length the template is complete too and goes one level
out. A sum that overshoots the declared length makes the input malformed from there on.
The size of a child counts its length field in shortest form, whatever form was read.

`read` gives the complete outermost objects before the first malformed one.
-/

set_option autoImplicit false

namespace PgpCard.Tlv

/-- The bytes of a long tag after its first byte: up to the first below `80`. -/
def readTagTail : Bytes → Option (Bytes × Bytes)
  | [] => none
  | b :: rest =>
    if b < 0x80 then some ([b], rest)
    else (readTagTail rest).map fun (tail, rest) => (b :: tail, rest)

/-- A tag of at most three bytes other than `00`, and the bytes after it. -/
def readTag : Bytes → Option (Bytes × Bytes)
  | [] => none
  | b :: rest =>
    if b &&& 0x1F ≠ 0x1F then if b = 0 then none else some ([b], rest)
    else match readTagTail rest with
      | some (tail, rest) => if tail.length ≤ 2 then some (b :: tail, rest) else none
      | none => none

/-- The number that the bytes write, high byte first. -/
def number (bytes : Bytes) : Nat :=
  bytes.foldl (fun n b => n * 256 + b.toNat) 0

/-- A length, and the bytes after it: one byte below `80`, or a count of up to four bytes
that write the length. -/
def readLength : Bytes → Option (Nat × Bytes)
  | [] => none
  | b :: rest =>
    if b < 0x80 then some (b.toNat, rest)
    else
      let count := b.toNat - 0x80
      if 4 < count then none
      else (Bytes.cut? count rest).map fun (digits, rest) => (number digits, rest)

/-- One step of the flat sequence of headers and values. -/
inductive Item where
  /-- A primitive object. -/
  | leaf (tag value : Bytes)
  /-- The header of a template that declares this length. -/
  | opening (tag : Bytes) (length : Nat)
  deriving DecidableEq, Repr

/-- The first item of the input, and the bytes after it. -/
def readItem (bytes : Bytes) : Option (Item × Bytes) :=
  match readTag bytes with
  | none => none
  | some (tag, rest) =>
    match readLength rest with
    | none => none
    | some (length, rest) =>
      if isTemplateTag tag then some (.opening tag length, rest)
      else (Bytes.cut? length rest).map fun (value, rest) => (.leaf tag value, rest)

theorem length_readTagTail {bytes tail rest : Bytes} (h : readTagTail bytes = some (tail, rest)) :
    rest.length < bytes.length := by
  induction bytes generalizing tail with
  | nil => simp [readTagTail] at h
  | cons b bs ih =>
    simp only [readTagTail] at h
    split at h
    · simp only [Option.some.injEq, Prod.mk.injEq] at h
      simp [← h.2]
    · simp only [Option.map_eq_some_iff, Prod.mk.injEq, Prod.exists] at h
      obtain ⟨t, r, hr, _, rfl⟩ := h
      have := ih hr
      simp only [List.length_cons]
      omega

theorem length_readTag {bytes tag rest : Bytes} (h : readTag bytes = some (tag, rest)) :
    rest.length < bytes.length := by
  cases bytes with
  | nil => simp [readTag] at h
  | cons b bs =>
    simp only [readTag] at h
    split at h
    · split at h
      · simp at h
      · simp only [Option.some.injEq, Prod.mk.injEq] at h
        simp [← h.2]
    · split at h
      · rename_i tail r hr
        split at h
        · simp only [Option.some.injEq, Prod.mk.injEq] at h
          have := length_readTagTail hr
          simp only [List.length_cons, ← h.2]
          omega
        · simp at h
      · simp at h

theorem length_readLength {bytes rest : Bytes} {n : Nat} (h : readLength bytes = some (n, rest)) :
    rest.length < bytes.length := by
  cases bytes with
  | nil => simp [readLength] at h
  | cons b bs =>
    simp only [readLength] at h
    split at h
    · simp only [Option.some.injEq, Prod.mk.injEq] at h
      simp [← h.2]
    · split at h
      · simp at h
      · simp only [Option.map_eq_some_iff, Prod.mk.injEq, Prod.exists] at h
        obtain ⟨digits, r, hr, _, rfl⟩ := h
        have := Bytes.length_cut? hr
        simp only [List.length_cons]
        omega

/-- Every item takes at least one byte, so the reading of items ends. -/
theorem length_readItem {bytes rest : Bytes} {item : Item}
    (h : readItem bytes = some (item, rest)) : rest.length < bytes.length := by
  simp only [readItem] at h
  split at h
  · simp at h
  · rename_i tag r hr
    have ht := length_readTag hr
    split at h
    · simp at h
    · rename_i n r' hr'
      have hl := length_readLength hr'
      split at h
      · simp only [Option.some.injEq, Prod.mk.injEq] at h
        simp only [← h.2]
        omega
      · simp only [Option.map_eq_some_iff, Prod.mk.injEq, Prod.exists] at h
        obtain ⟨value, r'', hr'', _, rfl⟩ := h
        have := Bytes.length_cut? hr''
        omega

/-- The items of the input before the first malformed one. -/
def items (bytes : Bytes) : List Item :=
  match h : readItem bytes with
  | some (item, rest) =>
    have : rest.length < bytes.length := length_readItem h
    item :: items rest
  | none => []
termination_by bytes.length

/-- A template that waits for children. -/
structure OpenTemplate where
  tag : Bytes
  /-- The length that the header declared. -/
  declared : Nat
  /-- The children so far, the last one first. -/
  children : List Tlv
  /-- The sizes of the children so far, added up. -/
  filled : Nat

/-- Puts a complete object of this size where it belongs: into the innermost open
template, or out as an outermost object. A template that it completes follows it. -/
def place (t : Tlv) (size : Nat) : List OpenTemplate → Option (List OpenTemplate × Option Tlv)
  | [] => some ([], some t)
  | o :: outer =>
    let filled := o.filled + size
    let children := t :: o.children
    -- A child that is longer than the room in its template is an error.
    if filled < o.declared then some ({ o with children, filled } :: outer, none)
    else if filled = o.declared then
      place (.constructed o.tag children.reverse) (sizeOf o.tag filled) outer
    else none

/-- What one item does to the open templates. A template that declares no length is
complete at once. -/
def push (stack : List OpenTemplate) : Item → Option (List OpenTemplate × Option Tlv)
  | .leaf tag value => place (.primitive tag value) (sizeOf tag value.length) stack
  | .opening tag 0 => place (.constructed tag []) (sizeOf tag 0) stack
  | .opening tag (n + 1) => some (⟨tag, n + 1, [], 0⟩ :: stack, none)

/-- The complete outermost objects of a sequence of items. -/
def assemble (stack : List OpenTemplate) : List Item → List Tlv
  | [] => []
  | item :: rest =>
    match push stack item with
    -- What was complete before the error stays.
    | none => []
    | some (stack, some t) => t :: assemble stack rest
    | some (stack, none) => assemble stack rest

/-- The outermost data objects of the input before the first malformed one. -/
def read (bytes : Bytes) : List Tlv :=
  assemble [] (items bytes)

end PgpCard.Tlv
