import Mathlib.Data.List.DropRight
import PgpCard.Proofs.Text.Hex
import PgpCard.Simulator.ScriptedService
import PgpCard.Tool.Run

/-!
# `PgpCard.Proofs.Tool.HexArgument`: which arguments are taken for bytes

An argument gives bytes when it has, after blanks, a number of markers `0x` and then the digits of
the bytes, with blanks anywhere among them (`Gives`). `read_eq_ok_iff` says that the reader takes
exactly these arguments, for the bytes that they give, and `bytes_taken_iff_given` carries this
over to the actions of the tool that work on bytes.

The notation has one marker. The reader takes any number of them, and so it takes, beside what has
at most one, exactly those arguments that begin with two and go on with markers and digits
(`gives_once_iff`). Such an argument is hardly meant as it stands, but its bytes are signed all the
same.
-/

set_option autoImplicit false

namespace PgpCard.HexArgument

/-! ### Digits with blanks among them -/

/-- The text consists of the digits for the numbers, with blanks anywhere among them. -/
inductive Spells : List Char → List Nat → Prop where
  | nil : Spells [] []
  | blank {c : Char} {text : List Char} {ns : List Nat} (hc : Text.isBlank c = true)
      (h : Spells text ns) : Spells (c :: text) ns
  | digit {c : Char} {n : Nat} {text : List Char} {ns : List Nat} (hc : Hex.Writes c n)
      (h : Spells text ns) : Spells (c :: text) (n :: ns)

theorem isBlank_of_writes {c : Char} {n : Nat} (h : Hex.Writes c n) : Text.isBlank c = false := by
  have hcode := Hex.writes_iff.mp h
  unfold Hex.IsCode at hcode
  rw [← Bool.not_eq_true]
  simp only [Text.isBlank, Bool.or_eq_true, Bool.and_eq_true, decide_eq_true_eq, beq_iff_eq]
  omega

/-- A text spells what is left of it without its blanks. -/
theorem spells_iff {text : List Char} {ns : List Nat} :
    Spells text ns ↔ List.Forall₂ Hex.Writes (text.filter (!Text.isBlank ·)) ns := by
  constructor
  · intro h
    induction h with
    | nil => exact .nil
    | blank hc _ ih => rwa [List.filter_cons_of_neg (by simp [hc])]
    | digit hc _ ih =>
      rw [List.filter_cons_of_pos (by simp [isBlank_of_writes hc])]
      exact .cons hc ih
  · induction text generalizing ns with
    | nil =>
      rintro ⟨⟩
      exact .nil
    | cons c text ih =>
      intro h
      by_cases hc : Text.isBlank c = true
      · rw [List.filter_cons_of_neg (by simp [hc])] at h
        exact .blank hc (ih h)
      · rw [List.filter_cons_of_pos (by simp [hc])] at h
        obtain ⟨n, ns, hn, hrest, rfl⟩ := List.forall₂_cons_left_iff.mp h
        exact .digit hn (ih hrest)

/-- No text spells anything with a marker in front, since `x` is no digit. -/
theorem not_spells_marker {text : List Char} {ns : List Nat} :
    ¬ Spells ('0' :: 'x' :: text) ns := by
  intro h
  obtain ⟨n, ns, -, hrest, rfl⟩ := List.forall₂_cons_left_iff.mp (spells_iff.mp h)
  obtain ⟨n, ns, hx, -, rfl⟩ := List.forall₂_cons_left_iff.mp hrest
  have hcode : Hex.IsCode n 120 := Hex.writes_iff.mp hx
  unfold Hex.IsCode at hcode
  omega

/-! ### Blanks at the ends -/

section

variable {α : Type} (p : α → Bool)

theorem filter_dropWhile (l : List α) :
    (l.dropWhile p).filter (!p ·) = l.filter (!p ·) := by
  induction l with
  | nil => rfl
  | cons a l ih =>
    by_cases ha : p a = true
    · rw [List.dropWhile_cons_of_pos ha, ih, List.filter_cons_of_neg (by simp [ha])]
    · rw [List.dropWhile_cons_of_neg ha]

theorem filter_rdropWhile (l : List α) :
    (l.rdropWhile p).filter (!p ·) = l.filter (!p ·) := by
  rw [List.rdropWhile, List.filter_reverse, filter_dropWhile, List.filter_reverse,
    List.reverse_reverse]

/-- What is kept at the front stays in front. -/
theorem rdropWhile_cons_of_neg {a : α} (ha : ¬ p a = true) (l : List α) :
    (a :: l).rdropWhile p = a :: l.rdropWhile p := by
  unfold List.rdropWhile
  rw [List.reverse_cons, List.dropWhile_append]
  split
  case isTrue h =>
    rw [List.isEmpty_iff.mp h, List.dropWhile_cons_of_neg ha]
    rfl
  case isFalse => rw [List.reverse_append, List.reverse_singleton, List.singleton_append]

end

theorem spells_dropWhile {text : List Char} {ns : List Nat} :
    Spells (text.dropWhile Text.isBlank) ns ↔ Spells text ns := by
  rw [spells_iff, spells_iff, filter_dropWhile]

theorem spells_rdropWhile {text : List Char} {ns : List Nat} :
    Spells (text.rdropWhile Text.isBlank) ns ↔ Spells text ns := by
  rw [spells_iff, spells_iff, filter_rdropWhile]

theorem spells_append_blanks {text blanks : List Char} {ns : List Nat}
    (h : ∀ c ∈ blanks, Text.isBlank c = true) : Spells (text ++ blanks) ns ↔ Spells text ns := by
  have hblanks : blanks.filter (!Text.isBlank ·) = [] :=
    List.filter_eq_nil_iff.mpr fun c hc => by simp [h c hc]
  rw [spells_iff, spells_iff, List.filter_append, hblanks, List.append_nil]

/-! ### Markers -/

/-- A number of markers in a row. -/
def markers : Nat → List Char
  | 0 => []
  | n + 1 => '0' :: 'x' :: markers n

theorem dropMarkers_markers_append (n : Nat) (text : List Char) :
    dropMarkers (markers n ++ text) = dropMarkers text := by
  induction n with
  | zero => rfl
  | succ n ih => exact ih

theorem exists_markers (text : List Char) : ∃ n, text = markers n ++ dropMarkers text := by
  fun_induction dropMarkers text with
  | case1 rest ih =>
    obtain ⟨n, hn⟩ := ih
    exact ⟨n + 1, congrArg ('0' :: 'x' :: ·) hn⟩
  | case2 => exact ⟨0, rfl⟩

/-- There is no marker before digits that have none. -/
theorem dropMarkers_of_spells {text : List Char} {ns : List Nat} (h : Spells text ns) :
    dropMarkers text = text := by
  refine dropMarkers.eq_2 text fun rest hrest => ?_
  rw [hrest] at h
  exact not_spells_marker h

theorem rdropWhile_markers_append (n : Nat) (text : List Char) :
    (markers n ++ text).rdropWhile Text.isBlank = markers n ++ text.rdropWhile Text.isBlank := by
  induction n with
  | zero => rfl
  | succ n ih =>
    show ('0' :: 'x' :: (markers n ++ text)).rdropWhile Text.isBlank = _
    rw [rdropWhile_cons_of_neg _ (by decide), rdropWhile_cons_of_neg _ (by decide), ih]
    rfl

/-! ### What is taken -/

/-- After blanks, the text has that many markers, and then the digits of the bytes, with blanks
anywhere among them. -/
def Gives (n : Nat) (text : List Char) (bytes : Bytes) : Prop :=
  ∃ blanks digits, text = blanks ++ (markers n ++ digits) ∧
    (∀ c ∈ blanks, Text.isBlank c = true) ∧ Spells digits (Hex.halves bytes)

/-- Blanks in front make no difference to markers and digits. -/
theorem gives_iff {n : Nat} {text : List Char} {bytes : Bytes} :
    Gives n text bytes ↔ ∃ digits, text.dropWhile Text.isBlank = markers n ++ digits ∧
      Spells digits (Hex.halves bytes) := by
  constructor
  · rintro ⟨blanks, digits, rfl, hblanks, hdigits⟩
    rw [List.dropWhile_append_of_pos hblanks]
    cases n with
    | zero => exact ⟨digits.dropWhile Text.isBlank, rfl, spells_dropWhile.mpr hdigits⟩
    | succ n => exact ⟨digits, rfl, hdigits⟩
  · rintro ⟨digits, htext, hdigits⟩
    refine ⟨text.takeWhile Text.isBlank, digits, ?_, fun c hc => ?_, hdigits⟩
    · rw [← htext, List.takeWhile_append_dropWhile]
    · exact List.all_eq_true.mp List.all_takeWhile c hc

/-- An argument is taken exactly when it gives bytes, and then for these bytes. -/
theorem read_eq_ok_iff {text : String} {bytes : Bytes} :
    read text = .ok bytes ↔ ∃ n, Gives n text.toList bytes := by
  simp only [gives_iff]
  rw [read, Hex.decode_encode_eq_ok_iff, digits, ← spells_iff]
  show Spells (dropMarkers ((text.toList.dropWhile Text.isBlank).rdropWhile Text.isBlank)) _ ↔ _
  generalize text.toList.dropWhile Text.isBlank = rest
  constructor
  · -- The blanks at the end belong to the digits again.
    intro h
    obtain ⟨n, hn⟩ := exists_markers (rest.rdropWhile Text.isBlank)
    refine ⟨n, dropMarkers (rest.rdropWhile Text.isBlank) ++ rest.rtakeWhile Text.isBlank, ?_, ?_⟩
    · rw [← List.append_assoc, ← hn, List.rdropWhile_append_rtakeWhile]
    · exact (spells_append_blanks fun c => List.mem_rtakeWhile_imp).mpr h
  · rintro ⟨n, digits, rfl, hdigits⟩
    have hdigits' := spells_rdropWhile.mpr hdigits
    rwa [rdropWhile_markers_append, dropMarkers_markers_append, dropMarkers_of_spells hdigits']

/-- Digits that were written for bytes spell these bytes. -/
theorem spells_pair {digit : Nat → Char} (h : ∀ n < 16, Hex.Writes (digit n) n) (bytes : Bytes) :
    Spells (bytes.flatMap (Hex.pair digit)) (Hex.halves bytes) := by
  induction bytes with
  | nil => exact .nil
  | cons b bytes ih =>
    have hb := b.toNat_lt
    exact .digit (h _ (by omega)) (.digit (h _ (by omega)) ih)

/-- What the tool prints can be given to it again, and so can the other letter case. -/
theorem read_lower (bytes : Bytes) : read (Hex.lower bytes) = .ok bytes := by
  rw [read_eq_ok_iff, Hex.lower, String.toList_ofList]
  exact ⟨0, [], _, rfl, nofun, spells_pair (fun n hn => ⟨hn, Or.inl rfl⟩) bytes⟩

theorem read_upper (bytes : Bytes) : read (Hex.upper bytes) = .ok bytes := by
  rw [read_eq_ok_iff, Hex.upper, String.toList_ofList]
  exact ⟨0, [], _, rfl, nofun, spells_pair (fun n hn => ⟨hn, Or.inr rfl⟩) bytes⟩

/-! ### More than one marker -/

/-- After blanks, the text has two markers. -/
def RepeatsMarker (text : List Char) : Prop := markers 2 <+: text.dropWhile Text.isBlank

instance (text : List Char) : Decidable (RepeatsMarker text) :=
  inferInstanceAs (Decidable (markers 2 <+: text.dropWhile Text.isBlank))

theorem Gives.repeatsMarker_iff {n : Nat} {text : List Char} {bytes : Bytes}
    (h : Gives n text bytes) : RepeatsMarker text ↔ 2 ≤ n := by
  obtain ⟨digits, htext, hdigits⟩ := gives_iff.mp h
  rw [RepeatsMarker, htext]
  match n with
  | 0 =>
    refine ⟨?_, nofun⟩
    rintro ⟨rest, rfl⟩
    exact absurd hdigits not_spells_marker
  | 1 =>
    refine ⟨?_, by omega⟩
    rintro ⟨rest, hrest⟩
    obtain rfl : '0' :: 'x' :: rest = digits := (List.append_right_inj (markers 1)).mp hrest
    exact absurd hdigits not_spells_marker
  | n + 2 => exact ⟨fun _ => Nat.le_add_left 2 n, fun _ => ⟨markers n ++ digits, rfl⟩⟩

/-- What has at most one marker is what the reader takes and does not begin with two. -/
theorem gives_once_iff {text : String} {bytes : Bytes} :
    (∃ n ≤ 1, Gives n text.toList bytes) ↔
      read text = .ok bytes ∧ ¬ RepeatsMarker text.toList := by
  rw [read_eq_ok_iff]
  constructor
  · rintro ⟨n, hn, h⟩
    rw [h.repeatsMarker_iff]
    exact ⟨⟨n, h⟩, by omega⟩
  · rintro ⟨⟨n, h⟩, hrepeats⟩
    rw [h.repeatsMarker_iff] at hrepeats
    exact ⟨n, by omega, h⟩

/-- A second marker is taken off like the first, where the notation has no place for it. -/
theorem read_ok_of_repeated_marker :
    read "0x0x12" = .ok [0x12] ∧ ¬ ∃ n ≤ 1, Gives n "0x0x12".toList [0x12] := by
  have hread : read "0x0x12" = .ok [0x12] := by decide
  refine ⟨hread, fun h => ?_⟩
  exact (gives_once_iff.mp h).2 (by decide)

/-! ### Actions that work on bytes -/

variable {σ : Type} [Service σ]

open Tool (Action ToolM attempt prepare perform doTask onToken)

/-- An action that works on bytes, as it is asked for with a PIN and an argument, and as what is
done with the bytes. -/
inductive WorksOn : (String → String → Action) → (Bytes → ToolM σ (List String)) → Prop where
  | sign : WorksOn .sign Tool.sign
  | decipher : WorksOn .decipher Tool.decipher

variable {act : String → String → Action} {step : Bytes → ToolM σ (List String)}

/-- The argument is read first, and then the action works on the bytes in a session with the PIN. -/
theorem WorksOn.prepare_eq (h : WorksOn act step) (pin text : String) :
    prepare (act pin text) = (read text).map fun bytes => (some (.ofText pin), step bytes) := by
  cases h <;> (rw [prepare]; cases read text <;> rfl)

theorem WorksOn.attempt_eq_ok_iff (h : WorksOn act step) {pin text : String} {d : Docked σ}
    {result : Except Error (List String) × Bench (Docked σ) Empty} :
    attempt (act pin text) d = .ok result ↔ ∃ bytes, read text = .ok bytes ∧
      result = (step bytes).start { session := .new {} (some (.ofText pin)), link := d } := by
  rw [attempt, h.prepare_eq]
  cases read text with
  | error fault => simp [Except.map]
  | ok bytes => simp [Except.map, eq_comm]

/-- For an argument that cannot be read nothing is done with the service. -/
theorem WorksOn.doTask_of_error (h : WorksOn act step) {pin text : String} {fault : Hex.Fault}
    (hread : read text = .error fault) (service : σ) (wanted : Option String) :
    ∃ message, doTask service (.token wanted (act pin text)) = (.failure message, service) := by
  have hprepare : prepare (σ := σ) (act pin text) = .error fault := by
    rw [h.prepare_eq, hread]
    rfl
  rw [doTask]
  cases Service.establish service with
  | error => exact ⟨_, rfl⟩
  | ok =>
    dsimp only
    rw [onToken]
    cases Tool.pickReader service wanted with
    | error => exact ⟨_, rfl⟩
    | ok reader =>
      dsimp only
      by_cases hreader : reader.isEmpty = true
      · rw [Slot.new, if_pos hreader]
        exact ⟨_, rfl⟩
      · -- A slot that has connected no card leaves none behind.
        rw [Slot.new, if_neg hreader]
        dsimp only
        rw [perform, attempt, hprepare]
        exact ⟨message fault, rfl⟩

/-- An argument is taken exactly when it gives bytes, for these bytes, and the actions work on
nothing else. Where it gives none an action fails and leaves the service as it was. What is taken
has at most one marker unless it begins with two. -/
theorem bytes_taken_iff_given (text : String) :
    (∀ bytes, read text = .ok bytes ↔ ∃ n, Gives n text.toList bytes) ∧
    (∀ bytes, (∃ n ≤ 1, Gives n text.toList bytes) ↔
      read text = .ok bytes ∧ ¬ RepeatsMarker text.toList) ∧
    ∀ {σ : Type} [Service σ] {act : String → String → Action}
      {step : Bytes → ToolM σ (List String)}, WorksOn act step → ∀ pin : String,
      (∀ d result, attempt (act pin text) d = .ok result ↔
        ∃ bytes n, Gives n text.toList bytes ∧
          result = (step bytes).start { session := .new {} (some (.ofText pin)), link := d }) ∧
      ((∀ bytes n, ¬ Gives n text.toList bytes) → ∀ (service : σ) (wanted : Option String),
        ∃ message, doTask service (.token wanted (act pin text)) = (.failure message, service)) := by
  refine ⟨fun _ => read_eq_ok_iff, fun _ => gives_once_iff, fun h pin => ⟨fun d result => ?_,
    fun hnone service wanted => ?_⟩⟩
  · simp only [h.attempt_eq_ok_iff, read_eq_ok_iff, exists_and_right]
  · cases hread : read text with
    | error fault => exact h.doTask_of_error hread service wanted
    | ok bytes =>
      obtain ⟨n, hgives⟩ := read_eq_ok_iff.mp hread
      exact absurd hgives (hnone bytes n)

/-- Both letter cases, blanks and a marker make no difference to what is signed. For an argument
with a character that is no digit the tool fails, and has not used the card. -/
theorem bytes_taken_iff_given_mixed :
    let service : Simulator.ScriptedService := { readers := [{ name := "Reader", present := true }] }
    let d : Docked Simulator.ScriptedService := { slot := { reader := "Reader" }, service }
    (∃ n ≤ 1, Gives n " 0xDe aD ".toList [0xDE, 0xAD]) ∧
      attempt (.sign "123456" " 0xDe aD ") d =
        .ok ((Tool.sign [0xDE, 0xAD]).start
          { session := .new {} (some (.ofText "123456")), link := d }) ∧
      ∃ message, doTask service (.token none (.decipher "123456" "0g")) =
        (.failure message, service) := by
  intro service d
  obtain ⟨hread, honce, hact⟩ := bytes_taken_iff_given " 0xDe aD "
  obtain ⟨hread', -, hact'⟩ := bytes_taken_iff_given "0g"
  have hok : read " 0xDe aD " = .ok [0xDE, 0xAD] := by decide
  have herror : read "0g" = .error (.badDigit 0x67 1) := by decide
  refine ⟨(honce _).mpr ⟨hok, by decide⟩, ?_, ?_⟩
  · obtain ⟨n, hgives⟩ := (hread _).mp hok
    exact ((hact .sign "123456").1 d _).mpr ⟨_, n, hgives, rfl⟩
  · refine (hact' .decipher "123456").2 (fun bytes n hgives => ?_) service none
    exact nomatch herror.symm.trans ((hread' bytes).mpr ⟨n, hgives⟩)

end PgpCard.HexArgument
