import PgpCard.Card.ApplicationData
import PgpCard.Proofs.Tlv.Encoding

/-!
# `PgpCard.Proofs.Card.Layout`: the layout of application data does not matter

Cards differ in how they lay out their application data: in which order the data objects come,
what else is among them, how long they are, and whether a template is around all of it.

`decode_encodeAll` says that none of this makes a difference. Wherever the five objects that are
looked for have been put, they are read as they were encoded.

The search goes through all templates, so what it finds depends only on the primitive objects
inside, `leavesAmong`, in document order: it is the first with the right tag
(`findAmong?_eq_lookup`). Where that tag occurs once, neither the order nor the nesting matters.
-/

set_option autoImplicit false

namespace PgpCard

namespace Tlv

mutual

/-- The primitive objects inside of an object in document order: tags and values. -/
def leaves : Tlv → List (Bytes × Bytes)
  | .primitive tag value => [(tag, value)]
  | .constructed _ children => leavesAmong children

/-- The primitive objects inside of several objects. -/
def leavesAmong : List Tlv → List (Bytes × Bytes)
  | [] => []
  | t :: ts => t.leaves ++ leavesAmong ts

end

theorem mem_leavesAmong {ts : List Tlv} {leaf : Bytes × Bytes} :
    leaf ∈ leavesAmong ts ↔ ∃ t ∈ ts, leaf ∈ t.leaves := by
  induction ts with
  | nil => simp [leavesAmong]
  | cons t ts ih => simp [leavesAmong, ih]

mutual

/-- What is found in an object is the value of its first leaf with the tag. -/
theorem find?_eq_lookup (tag : Bytes) (t : Tlv) : t.find? tag = t.leaves.lookup tag := by
  cases t with
  | primitive tag' value =>
    by_cases h : tag' = tag
    · subst h
      simp [find?, leaves]
    · simp [find?, leaves, h, beq_false_of_ne (Ne.symm h)]
  | constructed tag' children =>
    rw [find?, leaves]
    exact findAmong?_eq_lookup tag children

/-- The same for several objects. -/
theorem findAmong?_eq_lookup (tag : Bytes) (ts : List Tlv) :
    findAmong? tag ts = (leavesAmong ts).lookup tag := by
  cases ts with
  | nil => rfl
  | cons t ts =>
    rw [findAmong?, leavesAmong, List.lookup_append, find?_eq_lookup tag t,
      findAmong?_eq_lookup tag ts]
    cases t.leaves.lookup tag <;> rfl

end

/-- Where all leaves with a tag have the same value, that value is found. -/
theorem findAmong?_of_unique {tag value : Bytes} {ts : List Tlv}
    (hmem : (tag, value) ∈ leavesAmong ts)
    (hunique : ∀ other, (tag, other) ∈ leavesAmong ts → other = value) :
    findAmong? tag ts = some value := by
  rw [findAmong?_eq_lookup]
  cases hfound : (leavesAmong ts).lookup tag with
  | none =>
    have := List.lookup_eq_none_iff.mp hfound (tag, value) hmem
    simp at this
  | some other =>
    obtain ⟨front, back, hsplit, -⟩ := List.lookup_eq_some_iff.mp hfound
    rw [hunique other (by simp [hsplit])]

/-- An object is no longer than all objects together. -/
theorem length_encode_le {t : Tlv} {ts : List Tlv} (h : t ∈ ts) :
    t.encode.length ≤ (encodeAll ts).length := by
  induction ts with
  | nil => exact nomatch h
  | cons t' ts ih =>
    rw [encodeAll, List.length_append]
    rcases List.mem_cons.mp h with rfl | h
    · omega
    · have := ih h
      omega

end Tlv

namespace ApplicationData

open Tlv

/-- Tag of the template around the application related data. -/
def templateTag : Bytes := [0x6E]

/-- Tag of the template around the extended capabilities and what belongs to them. -/
def discretionaryTag : Bytes := [0x73]

/-- The tags that are looked for. -/
def soughtTags : List Bytes :=
  [aidTag, historicalBytesTag, extendedTag, pinStatusTag, fingerprintsTag]

/-- The five values that are looked for. -/
structure Contents where
  aid : Bytes
  historicalBytes : Bytes
  extended : Bytes
  pinStatus : Bytes
  fingerprints : Bytes

/-- The values with their tags. -/
def Contents.tagged (c : Contents) : List (Bytes × Bytes) :=
  [(aidTag, c.aid), (historicalBytesTag, c.historicalBytes), (extendedTag, c.extended),
    (pinStatusTag, c.pinStatus), (fingerprintsTag, c.fingerprints)]

/-- Different values have different tags. -/
theorem Contents.eq_of_tagged {c : Contents} {tag value other : Bytes}
    (h : (tag, value) ∈ c.tagged) (h' : (tag, other) ∈ c.tagged) : other = value := by
  simp only [tagged, List.mem_cons, Prod.mk.injEq, List.not_mem_nil, or_false] at h h'
  rcases h with ⟨rfl, rfl⟩ | ⟨rfl, rfl⟩ | ⟨rfl, rfl⟩ | ⟨rfl, rfl⟩ | ⟨rfl, rfl⟩
  all_goals
    simpa [aidTag, historicalBytesTag, extendedTag, pinStatusTag, fingerprintsTag] using h'

/-- A well-formed object that is none of those that are looked for, and holds none of them. -/
structure Unrelated (t : Tlv) : Prop where
  wellFormed : WellFormed t
  untagged : ∀ leaf ∈ t.leaves, leaf.1 ∉ soughtTags

/-- The objects are the application data with these contents: the identifier, the historical bytes
and a template with the other three, in any order and among any unrelated objects, both inside
and outside of that template. -/
inductive Lays (c : Contents) (objects : List Tlv) : Prop where
  | intro (inner others outers : List Tlv)
      (hobjects : objects.Perm (.primitive aidTag c.aid ::
        .primitive historicalBytesTag c.historicalBytes ::
        .constructed discretionaryTag inner :: outers))
      (hinner : inner.Perm (.primitive extendedTag c.extended ::
        .primitive pinStatusTag c.pinStatus :: .primitive fingerprintsTag c.fingerprints :: others))
      (hothers : ∀ t ∈ others, Unrelated t) (houters : ∀ t ∈ outers, Unrelated t)

variable {c : Contents} {objects : List Tlv}

/-- Objects that four bytes can count are well-formed. -/
theorem Lays.wellFormed (h : Lays c objects) (hlength : (encodeAll objects).length < 2 ^ 32) :
    ∀ t ∈ objects, WellFormed t := by
  obtain ⟨inner, others, outers, hobjects, hinner, hothers, houters⟩ := h
  -- No part is longer than the whole.
  have hprimitive : ∀ {ts : List Tlv} {tag value : Bytes}, (encodeAll ts).length < 2 ^ 32 →
      .primitive tag value ∈ ts → IsTag tag → isTemplateTag tag = false →
      WellFormed (.primitive tag value) := by
    intro ts tag value hts hmem htag hkind
    have hle := length_encode_le hmem
    rw [length_encode_primitive, Tlv.sizeOf] at hle
    exact .primitive htag hkind (by omega)
  have htemplate : .constructed discretionaryTag inner ∈ objects :=
    hobjects.mem_iff.mpr (by simp)
  have hcontent : (encodeAll inner).length < 2 ^ 32 := by
    have hle := length_encode_le htemplate
    rw [length_encode_constructed, Tlv.sizeOf] at hle
    omega
  have hchildren : ∀ t ∈ inner, WellFormed t := by
    intro t ht
    have hcases := hinner.mem_iff.mp ht
    simp only [List.mem_cons] at hcases
    rcases hcases with rfl | rfl | rfl | hother
    · exact hprimitive hcontent ht (.short (by decide) (by decide)) rfl
    · exact hprimitive hcontent ht (.short (by decide) (by decide)) rfl
    · exact hprimitive hcontent ht (.short (by decide) (by decide)) rfl
    · exact (hothers t hother).wellFormed
  intro t ht
  have hcases := hobjects.mem_iff.mp ht
  simp only [List.mem_cons] at hcases
  rcases hcases with rfl | rfl | rfl | houter
  · exact hprimitive hlength ht (.short (by decide) (by decide)) rfl
  · exact hprimitive hlength ht (.long (by decide) (by decide)) rfl
  · exact .constructed (.short (by decide) (by decide)) rfl hcontent hchildren
  · exact (houters t houter).wellFormed

/-- The leaves with a tag that is looked for are the contents, wherever they are. -/
theorem Lays.mem_leaves_iff (h : Lays c objects) {tag value : Bytes} (htag : tag ∈ soughtTags) :
    (tag, value) ∈ leavesAmong objects ↔ (tag, value) ∈ c.tagged := by
  obtain ⟨inner, others, outers, hobjects, hinner, hothers, houters⟩ := h
  -- Unrelated objects have no such leaf.
  have hnone : ∀ {ts : List Tlv}, (∀ t ∈ ts, Unrelated t) → ¬(tag, value) ∈ leavesAmong ts := by
    intro ts hts hmem
    obtain ⟨t, ht, hleaf⟩ := mem_leavesAmong.mp hmem
    exact (hts t ht).untagged _ hleaf htag
  have hperm : ∀ {ts ts' : List Tlv}, ts.Perm ts' →
      ((tag, value) ∈ leavesAmong ts ↔ (tag, value) ∈ leavesAmong ts') := by
    intro ts ts' hts
    simp only [mem_leavesAmong, hts.mem_iff]
  have hinside := hperm hinner
  simp only [leavesAmong, leaves, List.mem_append, List.mem_singleton, hnone hothers,
    or_false] at hinside
  rw [hperm hobjects]
  simp only [leavesAmong, leaves, List.mem_append, hnone houters, or_false, hinside,
    Contents.tagged, List.mem_cons, List.not_mem_nil]

/-- Each of the values is found under its tag. -/
theorem Lays.findAmong? (h : Lays c objects) {tag value : Bytes} (hmem : (tag, value) ∈ c.tagged) :
    findAmong? tag objects = some value := by
  have htag : tag ∈ soughtTags := List.mem_map_of_mem (f := Prod.fst) hmem
  exact findAmong?_of_unique ((h.mem_leaves_iff htag).mpr hmem) fun other hother =>
    Contents.eq_of_tagged hmem ((h.mem_leaves_iff htag).mp hother)

/-- What is found in objects is found in a template around them. -/
theorem findAmong?_template (tag : Bytes) (objects : List Tlv) :
    Tlv.findAmong? tag [.constructed templateTag objects] = Tlv.findAmong? tag objects := by
  simp [findAmong?_eq_lookup, leavesAmong, leaves]

/-- Data that holds an object does not count as empty. -/
theorem decode_of_read {data : Bytes} {objects : List Tlv} (hread : Tlv.read data = objects)
    (hne : objects ≠ []) : decode data = ofObjects objects := by
  subst hread
  unfold decode
  cases hobjects : Tlv.read data with
  | nil => exact absurd hobjects hne
  | cons t ts => rfl

/-- Where the five values are found, the application data is made of them. -/
theorem ofObjects_of_findAmong? {objects : List Tlv} {card : CardCapabilities} {flags scheme : UInt8}
    {more : Bytes} (hfind : ∀ tag value, (tag, value) ∈ c.tagged → Tlv.findAmong? tag objects = some value)
    (hextended : c.extended = flags :: scheme :: more)
    (hcard : CardCapabilities.ofHistoricalBytes c.historicalBytes = .ok card) :
    ofObjects objects = .ok
      { aid := c.aid, historicalBytes := c.historicalBytes, card,
        extended := some (flags, scheme), pinStatus := some c.pinStatus,
        fingerprints := some c.fingerprints } := by
  have haid := hfind aidTag c.aid (by simp [Contents.tagged])
  have hhistorical := hfind historicalBytesTag c.historicalBytes (by simp [Contents.tagged])
  have hext := hfind extendedTag c.extended (by simp [Contents.tagged])
  have hpins := hfind pinStatusTag c.pinStatus (by simp [Contents.tagged])
  have hprints := hfind fingerprintsTag c.fingerprints (by simp [Contents.tagged])
  simp only [ofObjects, hhistorical, hcard, haid, hext, hpins, hprints, hextended]
  rfl

/-- Application data is read as it was encoded: whatever the lengths of its five values, in
whatever order the objects come and whatever unrelated ones are among them, with a template
around everything or without. The historical bytes have to be readable, and the extended
capabilities to have two bytes, which are the flags and the secure messaging algorithm. -/
theorem decode_encodeAll {flags scheme : UInt8} {more : Bytes} {card : CardCapabilities}
    {data : Bytes} (hlays : Lays c objects) (hlength : (encodeAll objects).length < 2 ^ 32)
    (hextended : c.extended = flags :: scheme :: more)
    (hcard : CardCapabilities.ofHistoricalBytes c.historicalBytes = .ok card)
    (hdata : data = encodeAll objects ∨ data = encode (.constructed templateTag objects)) :
    ∃ a, decode data = .ok a ∧
      a = { aid := c.aid, historicalBytes := c.historicalBytes, card,
            extended := some (flags, scheme), pinStatus := some c.pinStatus,
            fingerprints := some c.fingerprints } ∧
      (∀ flag, a.hasFlag flag = (flags &&& flag != 0)) ∧
      a.scheme? = (if flags &&& 0x80 != 0 then some (.ofId scheme) else none) := by
  refine ⟨_, ?_, rfl, fun flag => rfl, rfl⟩
  have hwell := hlays.wellFormed hlength
  rcases hdata with rfl | rfl
  · have hne : objects ≠ [] := by
      rintro rfl
      have hmem : (aidTag, c.aid) ∈ c.tagged := by simp [Contents.tagged]
      exact nomatch hlays.findAmong? hmem
    rw [decode_of_read (read_encodeAll hwell) hne]
    exact ofObjects_of_findAmong? (fun tag value hmem => hlays.findAmong? hmem) hextended hcard
  · have htemplate : WellFormed (.constructed templateTag objects) :=
      .constructed (.short (by decide) (by decide)) rfl hlength hwell
    rw [decode_of_read (read_encode htemplate) (List.cons_ne_nil _ _)]
    refine ofObjects_of_findAmong? (fun tag value hmem => ?_) hextended hcard
    rw [findAmong?_template]
    exact hlays.findAmong? hmem

/-- Application data from back to front in a template, with a value of 300 bytes, which takes a
length in three bytes, one of 200 bytes, which takes two, and an object with a long tag. -/
theorem decode_encodeAll_from_back_to_front :
    let aid := List.replicate 300 0xD2
    let historicalBytes := [0x00, 0x73, 0x00, 0x00, 0xC0, 0x05, 0x90, 0x00]
    let fingerprints := List.replicate 200 0x11
    let inner : List Tlv :=
      [.primitive [0x9F, 0x81, 0x01] [0xAA], .primitive fingerprintsTag fingerprints,
        .primitive pinStatusTag [0x01], .primitive extendedTag [0xF5, 0x03, 0xFF]]
    let objects : List Tlv :=
      [.constructed [0x65] [.primitive [0x5B] []], .constructed discretionaryTag inner,
        .primitive historicalBytesTag historicalBytes, .primitive aidTag aid]
    ∃ a, decode (encode (.constructed templateTag objects)) = .ok a ∧
      a = { aid, historicalBytes, card := ⟨true, true, 0x05⟩, extended := some (0xF5, 0x03),
            pinStatus := some [0x01], fingerprints := some fingerprints } ∧
      a.scheme? = some .scp11b := by
  intro aid historicalBytes fingerprints inner objects
  let c : Contents :=
    { aid, historicalBytes, extended := [0xF5, 0x03, 0xFF], pinStatus := [0x01], fingerprints }
  have hlong : Unrelated (.primitive [0x9F, 0x81, 0x01] [0xAA]) :=
    ⟨.primitive (.longer (by decide) (by decide) (by decide)) rfl (by decide),
      by simp [leaves, soughtTags, aidTag, historicalBytesTag, extendedTag, pinStatusTag,
        fingerprintsTag]⟩
  have hname : WellFormed (.primitive [0x5B] []) :=
    .primitive (.short (by decide) (by decide)) rfl (by decide)
  have hholder : Unrelated (.constructed [0x65] [.primitive [0x5B] []]) :=
    ⟨.constructed (.short (by decide) (by decide)) rfl (by decide) (by simpa using hname),
      by simp [leaves, leavesAmong, soughtTags, aidTag, historicalBytesTag, extendedTag,
        pinStatusTag, fingerprintsTag]⟩
  let others : List Tlv := [.primitive [0x9F, 0x81, 0x01] [0xAA]]
  let outers : List Tlv := [.constructed [0x65] [.primitive [0x5B] []]]
  have hobjects : objects.Perm (.primitive aidTag c.aid ::
      .primitive historicalBytesTag c.historicalBytes ::
      .constructed discretionaryTag inner :: outers) := List.reverse_perm (_ :: _ :: _ :: outers)
  have hinner : inner.Perm (.primitive extendedTag c.extended ::
      .primitive pinStatusTag c.pinStatus ::
      .primitive fingerprintsTag c.fingerprints :: others) :=
    List.reverse_perm (_ :: _ :: _ :: others)
  have hlays : Lays c objects := .intro inner others outers hobjects hinner
    (List.forall_mem_singleton.mpr hlong) (List.forall_mem_singleton.mpr hholder)
  have hcard : CardCapabilities.ofHistoricalBytes c.historicalBytes = .ok ⟨true, true, 0x05⟩ := by
    cbv
  obtain ⟨a, hdecode, ha, -, hscheme⟩ :=
    decode_encodeAll hlays (by decide +kernel) rfl hcard (Or.inr rfl)
  exact ⟨a, hdecode, ha, hscheme⟩

end ApplicationData

end PgpCard
