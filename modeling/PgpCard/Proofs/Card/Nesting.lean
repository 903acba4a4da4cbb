import PgpCard.Proofs.Card.Layout

/-!
# `PgpCard.Proofs.Card.Nesting`: only the leaves of application data matter

Some cards put a template around their application data and some do not, and inside they group
the objects into templates of their own. The reader descends into all of them, so what it makes
of the data is a function of the leaves in document order: `Summarises` says which, and
`Unreadable` says when there is no result.

`decode_of_same_leaves` is the main result. Data with the same leaves is read the same way,
however they are nested, and of several leaves with one tag the first in document order is the
one that counts. A forest without any object is the one exception: it has the leaves of an empty
template but is complained about in other words.
-/

set_option autoImplicit false

namespace PgpCard

namespace Tlv

theorem leavesAmong_append (ts ts' : List Tlv) :
    leavesAmong (ts ++ ts') = leavesAmong ts ++ leavesAmong ts' := by
  induction ts with
  | nil => rfl
  | cons t ts ih => rw [List.cons_append, leavesAmong, ih, leavesAmong, List.append_assoc]

/-- A template around some of the objects does not change the leaves, nor their order. -/
theorem leavesAmong_wrap (tag : Bytes) (front inner back : List Tlv) :
    leavesAmong (front ++ .constructed tag inner :: back) =
      leavesAmong (front ++ inner ++ back) := by
  rw [List.append_assoc, leavesAmong_append, leavesAmong_append, leavesAmong, leaves,
    leavesAmong_append]

end Tlv

namespace ApplicationData

open Tlv

/-- The application data is what the leaves say: under each tag that is looked for, the value of
the first leaf that has it. Without a leaf for it the identifier is empty, and the others but the
historical bytes are absent. The historical bytes are readable. -/
structure Summarises (leaves : List (Bytes × Bytes)) (a : ApplicationData) : Prop where
  aid : a.aid = (leaves.lookup aidTag).getD []
  historicalBytes : leaves.lookup historicalBytesTag = some a.historicalBytes
  card : CardCapabilities.ofHistoricalBytes a.historicalBytes = .ok a.card
  extended : a.extended = (leaves.lookup extendedTag).bind firstTwo
  pinStatus : a.pinStatus = leaves.lookup pinStatusTag
  fingerprints : a.fingerprints = leaves.lookup fingerprintsTag

/-- The leaves hold no historical bytes, or the first ones have this fault. -/
inductive Unreadable (leaves : List (Bytes × Bytes)) : DataFault → Prop where
  | missing (hnone : leaves.lookup historicalBytesTag = none) :
      Unreadable leaves .missingHistoricalBytes
  | malformed {historicalBytes : Bytes} {e : DataFault}
      (hfound : leaves.lookup historicalBytesTag = some historicalBytes)
      (hfault : CardCapabilities.ofHistoricalBytes historicalBytes = .error e) :
      Unreadable leaves e

/-- Objects with the same leaves are read the same way. -/
theorem ofObjects_congr {ts ts' : List Tlv} (hsame : leavesAmong ts' = leavesAmong ts) :
    ofObjects ts' = ofObjects ts := by
  simp only [ofObjects, findAmong?_eq_lookup, hsame]

/-- What is read from objects is what their leaves say. -/
theorem ofObjects_eq_ok_iff {ts : List Tlv} {a : ApplicationData} :
    ofObjects ts = .ok a ↔ Summarises (leavesAmong ts) a := by
  unfold ofObjects
  simp only [findAmong?_eq_lookup]
  constructor
  · intro h
    cases hhistorical : (leavesAmong ts).lookup historicalBytesTag with
    | none => simp [hhistorical] at h
    | some historicalBytes =>
      cases hcard : CardCapabilities.ofHistoricalBytes historicalBytes with
      | error e => simp [hhistorical, hcard] at h
      | ok card =>
        obtain rfl : _ = a := by simpa [hhistorical, hcard] using h
        exact ⟨rfl, hhistorical, hcard, rfl, rfl, rfl⟩
  · rintro ⟨haid, hhistorical, hcard, hextended, hpins, hprints⟩
    simp only [hhistorical, hcard, ← haid, ← hextended, ← hpins, ← hprints]

/-- Objects cannot be read exactly when their leaves cannot, for the same reason. -/
theorem ofObjects_eq_error_iff {ts : List Tlv} {e : DataFault} :
    ofObjects ts = .error e ↔ Unreadable (leavesAmong ts) e := by
  unfold ofObjects
  simp only [findAmong?_eq_lookup]
  constructor
  · intro h
    cases hhistorical : (leavesAmong ts).lookup historicalBytesTag with
    | none =>
      obtain rfl : _ = e := by simpa [hhistorical] using h
      exact .missing hhistorical
    | some historicalBytes =>
      cases hcard : CardCapabilities.ofHistoricalBytes historicalBytes with
      | error e' =>
        obtain rfl : e' = e := by simpa [hhistorical, hcard] using h
        exact .malformed hhistorical hcard
      | ok card => simp [hhistorical, hcard] at h
  · rintro (hnone | ⟨hfound, hfault⟩)
    · simp only [hnone]
    · simp only [hfound, hfault]

/-- Data objects with the same leaves in the same order are read as the same application data, or
refused in the same words, however they are nested. This holds of their encodings and of any other
bytes that are read as these objects, and a template around everything makes no difference. What
is read is what the leaves say, the first one counting under each tag. -/
theorem decode_of_same_leaves {ts ts' : List Tlv} (hne : ts ≠ []) (hne' : ts' ≠ [])
    (hwell : ∀ t ∈ ts, WellFormed t) (hwell' : ∀ t ∈ ts', WellFormed t)
    (hsame : leavesAmong ts' = leavesAmong ts) :
    decode (encodeAll ts') = decode (encodeAll ts) ∧
    (∀ data data', Tlv.read data = ts → Tlv.read data' = ts' → decode data' = decode data) ∧
    (∀ tag, WellFormed (.constructed tag ts) →
      decode (encode (.constructed tag ts)) = decode (encodeAll ts)) ∧
    (∀ a, decode (encodeAll ts) = .ok a ↔ Summarises (leavesAmong ts) a) ∧
    ∀ e, decode (encodeAll ts) = .error e ↔ Unreadable (leavesAmong ts) e := by
  have hdecode : decode (encodeAll ts) = ofObjects ts := decode_of_read (read_encodeAll hwell) hne
  have hread : ∀ data data', Tlv.read data = ts → Tlv.read data' = ts' →
      decode data' = decode data := by
    intro data data' hdata hdata'
    rw [decode_of_read hdata hne, decode_of_read hdata' hne', ofObjects_congr hsame]
  refine ⟨hread _ _ (read_encodeAll hwell) (read_encodeAll hwell'), hread, ?_, ?_, ?_⟩
  · intro tag htemplate
    have hleaves : leavesAmong [.constructed tag ts] = leavesAmong ts := by
      simpa using leavesAmong_wrap tag [] ts []
    rw [decode_of_read (read_encode htemplate) (List.cons_ne_nil _ _), ofObjects_congr hleaves,
      hdecode]
  · intro a
    rw [hdecode]
    exact ofObjects_eq_ok_iff
  · intro e
    rw [hdecode]
    exact ofObjects_eq_error_iff

/-- Two PW status objects, two identifiers and two extended capabilities, the first of which are
too short, once side by side and once in templates of several depths, with an empty one among
them. -/
theorem decode_of_same_leaves_duplicates :
    let historicalBytes := [0x00, 0x73, 0x00, 0x00, 0xC0, 0x05, 0x90, 0x00]
    let flat : List Tlv :=
      [.primitive pinStatusTag [0x01], .primitive aidTag [0xD2, 0x76],
        .primitive historicalBytesTag historicalBytes, .primitive extendedTag [0xF5],
        .primitive pinStatusTag [0x00], .primitive extendedTag [0xF5, 0x03],
        .primitive aidTag []]
    let nested : List Tlv :=
      [.constructed templateTag
        [.constructed discretionaryTag [.primitive pinStatusTag [0x01]],
          .constructed [0x65] [],
          .constructed discretionaryTag
            [.constructed [0x65] [.primitive aidTag [0xD2, 0x76],
              .primitive historicalBytesTag historicalBytes],
              .primitive extendedTag [0xF5]],
          .primitive pinStatusTag [0x00]],
        .constructed templateTag [.primitive extendedTag [0xF5, 0x03]],
        .primitive aidTag []]
    leavesAmong nested = leavesAmong flat ∧
    decode (encodeAll nested) = decode (encodeAll flat) ∧
    decode (encode (.constructed templateTag flat)) = decode (encodeAll flat) ∧
    decode (encodeAll flat) = .ok
      { aid := [0xD2, 0x76], historicalBytes, card := ⟨true, true, 0x05⟩, extended := none,
        pinStatus := some [0x01], fingerprints := none } := by
  intro historicalBytes flat nested
  have hleaf : ∀ {b : UInt8} {value : Bytes},
      (b &&& 0x1F ≠ 0x1F ∧ b ≠ 0) ∧ isTemplateTag [b] = false ∧ value.length < 2 ^ 32 →
      WellFormed (.primitive [b] value) :=
    fun ⟨⟨hlow, hzero⟩, hkind, hlength⟩ => .primitive (.short hlow hzero) hkind hlength
  have hlong : WellFormed (.primitive historicalBytesTag historicalBytes) :=
    .primitive (.long (by decide) (by decide)) rfl (by decide)
  have htemplate : ∀ {b : UInt8} {children : List Tlv},
      (b &&& 0x1F ≠ 0x1F ∧ b ≠ 0) ∧ isTemplateTag [b] = true ∧
        (encodeAll children).length < 2 ^ 32 →
      (∀ t ∈ children, WellFormed t) → WellFormed (.constructed [b] children) :=
    fun ⟨⟨hlow, hzero⟩, hkind, hlength⟩ => .constructed (.short hlow hzero) hkind hlength
  have hflat : ∀ t ∈ flat, WellFormed t := by
    simp only [flat, List.forall_mem_cons]
    exact ⟨hleaf (by decide), hleaf (by decide), hlong, hleaf (by decide), hleaf (by decide),
      hleaf (by decide), hleaf (by decide), by simp⟩
  have hnested : ∀ t ∈ nested, WellFormed t := by
    simp only [nested, List.forall_mem_cons]
    refine ⟨htemplate (by decide) ?_, htemplate (by decide) ?_, hleaf (by decide), by simp⟩
    · simp only [List.forall_mem_cons]
      refine ⟨htemplate (by decide) ?_, htemplate (by decide) (by simp), htemplate (by decide) ?_,
        hleaf (by decide), by simp⟩
      · exact List.forall_mem_singleton.mpr (hleaf (by decide))
      · simp only [List.forall_mem_cons]
        refine ⟨htemplate (by decide) ?_, hleaf (by decide), by simp⟩
        simp only [List.forall_mem_cons]
        exact ⟨hleaf (by decide), hlong, by simp⟩
    · exact List.forall_mem_singleton.mpr (hleaf (by decide))
  have hsame : leavesAmong nested = leavesAmong flat := rfl
  have hcard : CardCapabilities.ofHistoricalBytes historicalBytes = .ok ⟨true, true, 0x05⟩ := by
    cbv
  obtain ⟨hequal, -, hwrapped, hok, -⟩ :=
    decode_of_same_leaves (List.cons_ne_nil _ _) (List.cons_ne_nil _ _) hflat hnested hsame
  exact ⟨hsame, hequal, hwrapped templateTag (htemplate (by decide) hflat),
    (hok _).mpr ⟨rfl, rfl, hcard, rfl, rfl, rfl⟩⟩

/-- No data and an empty template have the same leaves, but not the same complaint. -/
example : decode [] = .error .emptyApplicationData ∧
    decode (encode (.constructed templateTag [])) = .error .missingHistoricalBytes := by
  cbv

end ApplicationData

end PgpCard
