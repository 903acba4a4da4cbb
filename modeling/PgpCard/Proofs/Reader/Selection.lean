import Mathlib.Data.List.Forall2
import PgpCard.Simulator.ScriptedService
import PgpCard.Tool.Run

/-!
# `PgpCard.Proofs.Reader.Selection`: which reader is chosen

A manager chooses a reader by a strategy, and the tool looks for a reader with a card on its own.
Both go through the list of readers for the first that fits, and both come to the first name that
fits among those that the service tells (`search`, `search_eq`).

`Shows` says what the list has to say about one name. The list has such an entry for each name
of the service, in its order, also for a reader whose status the service does not tell.

A pattern for the ATR fits more the shorter it is, and more the fewer bits its mask sets
(`Atr.fits_mono`). A search by a weaker condition finds something no later
(`find?_idxOf_le`). Without a pattern any card fits, and a mask of ones that is long enough is
as good as none.
-/

set_option autoImplicit false

namespace PgpCard

/-! ### Patterns -/

namespace Atr

/-- The one mask is the other with some of its bits cleared. -/
def Clears : (mask' mask : Option Bytes) → Prop :=
  Option.Rel (List.Forall₂ fun m' m => m &&& m' = m')

/-- Any ATR begins with no bytes, whatever the mask. -/
theorem fits_nil (atr : Bytes) (mask : Option Bytes) : fits atr [] mask = true := by
  cases mask with
  | none => rfl
  | some mask => cases atr <;> rfl

/-- Under a mask of ones all bits count. -/
theorem agrees_ones (atr pattern : Bytes) {n : Nat} (h : pattern.length ≤ n) :
    agrees atr pattern (List.replicate n 0xFF) = pattern.isPrefixOf atr := by
  have hones : ∀ b : UInt8, b &&& 0xFF = b := fun _ => UInt8.and_neg_one
  induction pattern generalizing atr n with
  | nil => cases atr <;> rfl
  | cons p pattern ih =>
    cases n with
    | zero => exact absurd h (Nat.not_succ_le_zero _)
    | succ n =>
      cases atr with
      | nil => rfl
      | cons a atr =>
        rw [List.replicate_succ, agrees, ih atr (Nat.le_of_succ_le_succ h), hones, hones,
          List.isPrefixOf_cons_cons, BEq.comm]

/-- Bytes that agree in some bits agree in fewer. -/
theorem and_eq_of_clears {a p m m' : UInt8} (h : a &&& m = p &&& m) (hclears : m &&& m' = m') :
    a &&& m' = p &&& m' := by
  rw [← hclears, ← UInt8.and_assoc, h, UInt8.and_assoc]

theorem agrees_mono {atr pattern pattern' mask mask' : Bytes} (h : agrees atr pattern mask = true)
    (hpattern : pattern' <+: pattern)
    (hmask : List.Forall₂ (fun m' m => m &&& m' = m') mask' mask) :
    agrees atr pattern' mask' = true := by
  induction pattern' generalizing atr pattern mask mask' with
  | nil => cases atr <;> rfl
  | cons p pattern' ih =>
    obtain ⟨rest, rfl⟩ := hpattern
    cases hmask with
    | nil => cases atr <;> exact h
    | cons hclears hmask =>
      cases atr with
      | nil => exact h
      | cons a atr =>
        rw [List.cons_append, agrees, Bool.and_eq_true, beq_iff_eq] at h
        rw [agrees, Bool.and_eq_true, beq_iff_eq]
        exact ⟨and_eq_of_clears h.1 hclears, ih h.2 (List.prefix_append _ _) hmask⟩

/-- A pattern fits more when it is shorter and when its mask has fewer bits set. -/
theorem fits_mono {atr pattern pattern' : Bytes} {mask mask' : Option Bytes}
    (h : fits atr pattern mask = true) (hpattern : pattern' <+: pattern)
    (hmask : Clears mask' mask) : fits atr pattern' mask' = true := by
  cases hmask with
  | none =>
    have hprefix : pattern <+: atr := List.isPrefixOf_iff_prefix.mp h
    exact List.isPrefixOf_iff_prefix.mpr (hpattern.trans hprefix)
  | some hmask => exact agrees_mono h hpattern hmask

end Atr

namespace Reader

/-- With no bytes for a pattern any card will do. -/
theorem atrFits_nil (r : Reader) (mask : Option Bytes) : r.atrFits [] mask = r.hasCard := by
  rw [atrFits, hasCard]
  cases r.atr with
  | none => rfl
  | some atr => exact Atr.fits_nil atr mask

theorem atrFits_ones (r : Reader) {pattern : Bytes} {n : Nat} (h : pattern.length ≤ n) :
    r.atrFits pattern (some (List.replicate n 0xFF)) = r.atrFits pattern none := by
  rw [atrFits, atrFits]
  cases r.atr with
  | none => rfl
  | some atr => exact Atr.agrees_ones atr pattern h

theorem atrFits_mono {r : Reader} {pattern pattern' : Bytes} {mask mask' : Option Bytes}
    (h : r.atrFits pattern mask = true) (hpattern : pattern' <+: pattern)
    (hmask : Atr.Clears mask' mask) : r.atrFits pattern' mask' = true := by
  rw [atrFits] at h ⊢
  cases hatr : r.atr with
  | none => exact nomatch (hatr ▸ h : (none : Option Bytes).any _ = true)
  | some atr =>
    rw [hatr] at h
    exact Atr.fits_mono h hpattern hmask

end Reader

namespace Manager

variable {σ : Type} [Service σ]

/-! ### The list -/

/-- The entry has this name, and the ATR of the card if the service knows of one. Not to answer
counts as not to know of one. -/
def Shows (service : σ) (name : String) (r : Reader) : Prop :=
  r.name = name ∧ ∀ atr, r.atr = some atr ↔ ∃ status, Service.status service name = .ok status ∧
    status.present = true ∧ status.empty = false ∧ status.atr = atr

theorem name_readerOf (service : σ) (name : String) : (readerOf service name).name = name := by
  unfold readerOf
  cases Service.status service name <;> rfl

/-- What the list shows about a reader is determined. -/
theorem shows_iff {service : σ} {name : String} {r : Reader} :
    Shows service name r ↔ readerOf service name = r := by
  have hshows : Shows service name (readerOf service name) := by
    refine ⟨name_readerOf service name, fun atr => ?_⟩
    unfold readerOf
    cases Service.status service name with
    | error fault => simp
    | ok status => cases hp : status.present <;> cases he : status.empty <;> simp [hp, he]
  refine ⟨fun h => ?_, fun h => h ▸ hshows⟩
  have hname : (readerOf service name).name = r.name := hshows.1.trans h.1.symm
  have hatr : (readerOf service name).atr = r.atr :=
    Option.ext fun atr => (hshows.2 atr).trans (h.2 atr).symm
  calc
    readerOf service name = ⟨(readerOf service name).name, (readerOf service name).atr⟩ := rfl
    _ = ⟨r.name, r.atr⟩ := by rw [hname, hatr]
    _ = r := rfl

theorem listReaders_eq_map_iff {service : σ} {readers : List Reader} :
    listReaders service = .ok readers ↔ ∃ names, Service.readerNames service = .ok names ∧
      names ≠ [] ∧ names.map (readerOf service) = readers := by
  unfold listReaders
  cases Service.readerNames service with
  | error fault => cases fault <;> simp
  | ok names => cases names <;> simp

/-- There is a list if the service has readers. It shows each of them, in the order of the
service. -/
theorem listReaders_eq_ok_iff {service : σ} {readers : List Reader} :
    listReaders service = .ok readers ↔ ∃ names, Service.readerNames service = .ok names ∧
      names ≠ [] ∧ List.Forall₂ (Shows service) names readers := by
  have hshown : ∀ names, List.Forall₂ (Shows service) names readers ↔
      names.map (readerOf service) = readers := by
    intro names
    have hiff : Shows service = fun name r => readerOf service name = r := by
      funext name r
      exact propext shows_iff
    rw [hiff, ← List.forall₂_map_left_iff (R := Eq), List.forall₂_eq_eq_eq]
  rw [listReaders_eq_map_iff]
  simp only [hshown]

/-- Without readers there is no list. -/
theorem listReaders_of_none {service : σ} (h : Service.readerNames service = .ok [] ∨
    Service.readerNames service = .error .noReadersAvailable) :
    listReaders service = .error .noReaders := by
  unfold listReaders
  rcases h with h | h <;> rw [h]

/-! ### The choice -/

/-- The first name that fits, of those that the service tells. -/
def search (service : σ) (fits : Reader → Bool) : Option String :=
  (Service.readerNames service).toOption.bind fun names =>
    names.find? fun name => fits (readerOf service name)

/-- The search goes through the list. -/
theorem search_eq (service : σ) (fits : Reader → Bool) :
    search service fits = (listReaders service).toOption.bind fun readers =>
      (readers.find? fits).map (·.name) := by
  have hfind : ∀ names : List String, ((names.map (readerOf service)).find? fits).map (·.name) =
      names.find? fun name => fits (readerOf service name) := by
    intro names
    simp only [List.find?_map, Option.map_map, Function.comp_def, name_readerOf, Option.map_id']
  unfold search listReaders
  cases Service.readerNames service with
  | error fault => cases fault <;> rfl
  | ok names =>
    cases names with
    | nil => rfl
    | cons name names => exact (hfind (name :: names)).symm

/-- A manager chooses what the search finds, and complains if it finds nothing. -/
theorem toOption_firstReader (service : σ) (fits : Reader → Bool) (complaint : ReaderFault) :
    (firstReader service fits complaint).toOption = search service fits := by
  rw [search_eq]
  unfold firstReader
  cases listReaders service with
  | error fault => rfl
  | ok readers =>
    dsimp only [Except.toOption, Option.bind_some]
    cases readers.find? fits <;> rfl

/-- So does the tool. -/
theorem toOption_pickReader (service : σ) :
    (Tool.pickReader service none).toOption = search service Reader.hasCard := by
  rw [search_eq]
  unfold Tool.pickReader
  cases listReaders service with
  | error fault => rfl
  | ok readers =>
    dsimp only [Except.toOption, Option.bind_some]
    cases readers.find? Reader.hasCard <;> rfl

theorem search_eq_some_iff {service : σ} {fits : Reader → Bool} {name : String} :
    search service fits = some name ↔ ∃ names, Service.readerNames service = .ok names ∧
      names.find? (fun name => fits (readerOf service name)) = some name := by
  unfold search
  cases Service.readerNames service with
  | error fault => exact ⟨nofun, nofun⟩
  | ok names => exact ⟨fun h => ⟨names, rfl, h⟩, by rintro ⟨_, ⟨⟩, h⟩; exact h⟩

/-- A search by a weaker condition ends no later, and it ends with something if the other one
does. -/
theorem find?_idxOf_le {names : List String} {fits fits' : String → Bool} {name : String}
    (h : names.find? fits = some name) (hweaker : ∀ name, fits name = true → fits' name = true) :
    ∃ name', names.find? fits' = some name' ∧ names.idxOf name' ≤ names.idxOf name := by
  induction names with
  | nil => exact nomatch h
  | cons first names ih =>
    cases hfirst' : fits' first with
    | true => exact ⟨first, List.find?_cons_of_pos hfirst', by simp⟩
    | false =>
      have hfirst : ¬ fits first = true := fun hfirst =>
        nomatch (hweaker first hfirst).symm.trans hfirst'
      rw [List.find?_cons_of_neg hfirst] at h
      obtain ⟨name', hname', hle⟩ := ih h
      rw [List.find?_cons_of_neg (by simp [hfirst'])]
      refine ⟨name', hname', ?_⟩
      -- Neither name is the first one, which does not fit.
      have hne : first ≠ name := by
        rintro rfl
        exact hfirst (List.find?_some h)
      have hne' : first ≠ name' := by
        rintro rfl
        exact nomatch (List.find?_some hname').symm.trans hfirst'
      rw [List.idxOf_cons_ne _ hne, List.idxOf_cons_ne _ hne']
      exact Nat.succ_le_succ hle

/-- The reader on which a strategy opens a slot. -/
def opens (m : Manager σ) (strategy : Strategy) (config : SlotConfig) : Option String :=
  (m.openBy strategy config).toOption.map fun opened => opened.2.1

/-- The names of the service are names that a slot can have. -/
def Named (service : σ) : Prop :=
  ∀ names, Service.readerNames service = .ok names → "" ∉ names

/-- A slot opens on what the search finds. -/
theorem openBy_firstReader {m : Manager σ} {strategy : Strategy} {fits : Reader → Bool}
    {complaint : ReaderFault} (hnamed : Named m.service)
    (hchoose : choose m.service strategy = firstReader m.service fits complaint)
    (config : SlotConfig) : m.openBy strategy config =
      (firstReader m.service fits complaint).map fun reader =>
        (m.slots.length, reader, { m with slots := m.slots ++ [some { reader, config }] }) := by
  have hfound := toOption_firstReader m.service fits complaint
  unfold openBy
  rw [hchoose]
  cases hchosen : firstReader m.service fits complaint with
  | error fault => rfl
  | ok reader =>
    rw [hchosen] at hfound
    obtain ⟨names, hnames, hfind⟩ := search_eq_some_iff.mp hfound.symm
    have hname : reader ≠ "" := by
      rintro rfl
      exact hnamed names hnames (List.mem_of_find?_eq_some hfind)
    dsimp only
    rw [openReader, Slot.new, String.isEmpty_eq_false_iff.mpr hname]
    rfl

theorem opens_firstReader {m : Manager σ} {strategy : Strategy} {fits : Reader → Bool}
    {complaint : ReaderFault} (hnamed : Named m.service)
    (hchoose : choose m.service strategy = firstReader m.service fits complaint)
    (config : SlotConfig) : m.opens strategy config = search m.service fits := by
  rw [opens, openBy_firstReader hnamed hchoose, ← toOption_firstReader m.service fits complaint]
  cases firstReader m.service fits complaint <;> rfl

/-- The list of readers shows all readers of the service. Each strategy that wants a card, and
the tool, choose the first on it that fits: the three that want any card choose the same one, a
mask of ones changes nothing, and a weaker pattern or mask never leads to a later reader or to
none. -/
theorem opens_agree (m : Manager σ) (config : SlotConfig) (hnamed : Named m.service) :
    (∀ readers, listReaders m.service = .ok readers ↔
      ∃ names, Service.readerNames m.service = .ok names ∧ names ≠ [] ∧
        List.Forall₂ (Shows m.service) names readers) ∧
    (Service.readerNames m.service = .ok [] ∨
        Service.readerNames m.service = .error .noReadersAvailable →
      listReaders m.service = .error .noReaders) ∧
    (∀ mask, m.opens (.atr [] mask) config = m.opens .anyCard config) ∧
    (Tool.pickReader m.service none).toOption = m.opens .anyCard config ∧
    (∀ (pattern : Bytes) (n : Nat), pattern.length ≤ n →
      m.openBy (.atr pattern none) config =
        m.openBy (.atr pattern (some (List.replicate n 0xFF))) config) ∧
    ∀ (pattern pattern' : Bytes) (mask mask' : Option Bytes) (name : String),
      pattern' <+: pattern → Atr.Clears mask' mask →
      m.opens (.atr pattern mask) config = some name →
      ∃ names name', Service.readerNames m.service = .ok names ∧
        m.opens (.atr pattern' mask') config = some name' ∧
        names.idxOf name' ≤ names.idxOf name := by
  have hany : m.opens .anyCard config = search m.service Reader.hasCard :=
    opens_firstReader hnamed rfl config
  have hatr : ∀ pattern mask, m.opens (.atr pattern mask) config =
      search m.service (·.atrFits pattern mask) := fun _ _ => opens_firstReader hnamed rfl config
  refine ⟨fun _ => listReaders_eq_ok_iff, listReaders_of_none, fun mask => ?_, ?_, ?_, ?_⟩
  · rw [hatr, hany]
    simp only [Reader.atrFits_nil]
  · rw [toOption_pickReader, hany]
  · intro pattern n hlength
    rw [openBy_firstReader hnamed rfl, openBy_firstReader hnamed rfl]
    simp only [Reader.atrFits_ones _ hlength]
  · intro pattern pattern' mask mask' name hpattern hmask hopens
    rw [hatr] at hopens
    obtain ⟨names, hnames, hfind⟩ := search_eq_some_iff.mp hopens
    have hweaker : ∀ name, (readerOf m.service name).atrFits pattern mask = true →
        (readerOf m.service name).atrFits pattern' mask' = true :=
      fun _ h => Reader.atrFits_mono h hpattern hmask
    obtain ⟨name', hfind', hle⟩ := find?_idxOf_le hfind hweaker
    refine ⟨names, name', hnames, ?_, hle⟩
    rw [hatr]
    exact search_eq_some_iff.mpr ⟨names, hnames, hfind'⟩

/-- Four readers: one does not tell its status, one is empty, and two have cards whose ATRs
differ in the last bits of their second byte. -/
def fourReaders : Simulator.ScriptedService where
  readers := [
    { name := "Silent", present := true, atr := [0x3B, 0x88], statusFault := some .notReady },
    { name := "Empty" },
    { name := "Key", present := true, atr := [0x3B, 0x80] },
    { name := "Token", present := true, atr := [0x3B, 0x88, 0x01] }]

/-- The token is found by its ATR. A mask without the bits in which the ATRs differ leads to the
key, one reader earlier, which is the first with a card. -/
theorem opens_agree_four_readers :
    let m : Manager Simulator.ScriptedService := { service := fourReaders }
    let names := ["Silent", "Empty", "Key", "Token"]
    Named m.service ∧ Service.readerNames m.service = .ok names ∧
      (∃ readers, listReaders m.service = .ok readers ∧
        List.Forall₂ (Shows m.service) names readers ∧
        readers.map Reader.hasCard = [false, false, true, true]) ∧
      m.opens (.atr [0x3B, 0x88] (some [0xFF, 0xFF, 0xFF])) {} = some "Token" ∧
      m.opens (.atr [0x3B, 0x88] none) {} = some "Token" ∧
      (∃ name', m.opens (.atr [0x3B, 0x88] (some [0xFF, 0xF0, 0x00])) {} = some name' ∧
        names.idxOf name' ≤ names.idxOf "Token") ∧
      m.opens (.atr [0x3B, 0x88] (some [0xFF, 0xF0, 0x00])) {} = some "Key" ∧
      (Tool.pickReader m.service none).toOption = some "Key" := by
  intro m names
  have hnames : Service.readerNames m.service = .ok names := by decide +kernel
  have hnamed : Named m.service := by
    intro names' h
    obtain rfl := Except.ok.inj (hnames.symm.trans h)
    decide
  obtain ⟨hlist, -, hany, hpick, hones, hweaker⟩ := opens_agree m {} hnamed
  have htoken : m.opens (.atr [0x3B, 0x88] (some [0xFF, 0xFF, 0xFF])) {} = some "Token" := by
    decide +kernel
  have hkey : m.opens .anyCard {} = some "Key" := by decide +kernel
  have hlisted : listReaders m.service = .ok (names.map (readerOf m.service)) := by decide +kernel
  refine ⟨hnamed, hnames, ⟨_, hlisted, ?_, by decide +kernel⟩, htoken, ?_, ?_, by decide +kernel,
    hpick.trans hkey⟩
  · obtain ⟨names', hnames', -, hshown⟩ := (hlist _).mp hlisted
    obtain rfl := Except.ok.inj (hnames.symm.trans hnames')
    exact hshown
  · rw [opens, hones [0x3B, 0x88] 3 (by decide)]
    exact htoken
  · obtain ⟨names', name', hnames', hopens, hle⟩ := hweaker [0x3B, 0x88] [0x3B, 0x88]
      (some [0xFF, 0xFF, 0xFF]) (some [0xFF, 0xF0, 0x00]) "Token" (List.prefix_refl _)
      (.some (by simp; decide)) htoken
    obtain rfl := Except.ok.inj (hnames.symm.trans hnames')
    exact ⟨name', hopens, hle⟩

end Manager

end PgpCard
