import PgpCard.Proofs.Link.Collecting
import PgpCard.Proofs.Link.Framing
import PgpCard.Proofs.Link.Mirror
import PgpCard.Proofs.Reader.Carriage

/-!
# `PgpCard.Proofs.Reader.Transcript`: what the service sees of one exchange

A logical command goes over a slot in one or more frames, and a service that is watched notes
each frame that reaches it. `Dialogue` keeps a command together with the frames that were
transmitted for it and with what came of it. A dialogue is `Sound` if its frames are those of the
command, from the first one on and each one once, followed by requests for more; if the card has
answered every frame but perhaps the last; and if an answer to the command has the status that
came last. Where there is an answer the dialogue is `Whole`: no frame of the command is missing.

`exchangePlain_sound` says that each exchange over a slot is a sound dialogue. What an exchange
does to a link with a tap is known already, so a tap is put on the slot. `Relays` says how the tap
and the watch compare. A frame that found no connection is on the tap and not on the watch, but
then it is the last one.
-/

set_option autoImplicit false

namespace PgpCard

open Step Docked

/-! ### A tap and a watch -/

/-- The frames that were transmitted, and the exchanges on a tap above the slot. They run in
parallel as long as they are answered. -/
inductive Relays : List Transmission → List (Bytes × Except Fault Bytes) → Prop where
  | nil : Relays [] []
  /-- There was no connection to send the frame over. -/
  | unsent (frame : Bytes) (fault : Fault) : Relays [] [(frame, .error fault)]
  | failed (n : Option Nat) (frame : Bytes) (fault : ServiceFault) (fault' : Fault) :
      Relays [⟨n, frame, .error fault⟩] [(frame, .error fault')]
  | answered (n : Option Nat) (frame answer : Bytes) {ts : List Transmission}
      {exchanges : List (Bytes × Except Fault Bytes)} (rest : Relays ts exchanges) :
      Relays (⟨n, frame, .ok answer⟩ :: ts) ((frame, .ok answer) :: exchanges)

namespace Relays

variable {ts ts' : List Transmission} {exchanges exchanges' : List (Bytes × Except Fault Bytes)}

/-- More can follow where everything was answered. -/
theorem append (h : Relays ts exchanges) (hok : ∀ e ∈ exchanges, e.2.isOk = true)
    (h' : Relays ts' exchanges') : Relays (ts ++ ts') (exchanges ++ exchanges') := by
  -- In the cases that end with a failure nothing can follow.
  induction h with
  | nil => exact h'
  | unsent frame fault => exact nomatch hok _ List.mem_cons_self
  | failed n frame fault fault' => exact nomatch hok _ List.mem_cons_self
  | answered n frame answer rest ih =>
    exact .answered n frame answer (ih (List.forall_mem_cons.mp hok).2)

/-- What was transmitted is on the tap. -/
theorem frames (h : Relays ts exchanges) :
    ts.map (·.frame) <+: exchanges.map (·.1) := by
  induction h with
  | nil => exact List.nil_prefix
  | unsent frame fault => exact List.nil_prefix
  | failed n frame fault fault' => exact List.prefix_rfl
  | answered n frame answer rest ih => exact List.cons_prefix_cons.mpr ⟨rfl, ih⟩

/-- Where the tap has answers only, every frame on it was transmitted. -/
theorem frames_eq (h : Relays ts exchanges) (hok : ∀ e ∈ exchanges, e.2.isOk = true) :
    ts.map (·.frame) = exchanges.map (·.1) := by
  induction h with
  | nil => rfl
  | unsent frame fault => exact nomatch hok _ List.mem_cons_self
  | failed n frame fault fault' => rfl
  | answered n frame answer rest ih =>
    exact congrArg (frame :: ·) (ih (List.forall_mem_cons.mp hok).2)

/-- Only the last frame can have failed. -/
theorem goesOn (h : Relays ts exchanges) : ∀ t ∈ ts.dropLast, t.answered = true := by
  induction h with
  | nil => exact nofun
  | unsent frame fault => exact nofun
  | failed n frame fault fault' => exact nofun
  | @answered n frame answer ts exchanges rest ih =>
    cases ts with
    | nil => exact nofun
    | cons t ts => exact List.forall_mem_cons.mpr ⟨rfl, ih⟩

/-- Where the tap has answers only, the watch has the same ones. -/
theorem heard (h : Relays ts exchanges) (hok : ∀ e ∈ exchanges, e.2.isOk = true) :
    (∀ t ∈ ts, t.answered = true) ∧ ∀ frame answer, exchanges.getLast? = some (frame, .ok answer) →
      ∃ n, ts.getLast? = some ⟨n, frame, .ok answer⟩ := by
  induction h with
  | nil => exact ⟨nofun, nofun⟩
  | unsent frame fault => exact nomatch hok _ List.mem_cons_self
  | failed n frame fault fault' => exact nomatch hok _ List.mem_cons_self
  | @answered n frame answer ts exchanges rest ih =>
    obtain ⟨hanswered, hlast⟩ := ih (List.forall_mem_cons.mp hok).2
    refine ⟨List.forall_mem_cons.mpr ⟨rfl, hanswered⟩, fun frame' answer' h => ?_⟩
    -- The frame is the last one on the watch just if it is the last one on the tap.
    cases rest with
    | nil =>
      obtain ⟨rfl, hanswer⟩ := Prod.mk.inj (Option.some.inj h)
      obtain rfl := Except.ok.inj hanswer
      exact ⟨n, rfl⟩
    | unsent frame fault => exact nomatch hok _ (List.mem_cons_of_mem _ List.mem_cons_self)
    | failed n frame fault fault' =>
      exact nomatch hok _ (List.mem_cons_of_mem _ List.mem_cons_self)
    | answered n' frame₁ answer₁ rest =>
      rw [List.getLast?_cons_cons] at h ⊢
      exact hlast frame' answer' h

end Relays

namespace Link

variable {σ : Type}

/-- What the step puts on a tap is what it has transmitted, and if it succeeds then all of that
was answered. -/
def Parallel {α : Type} (step : EStateM Error (Tapped (Docked (Watched σ))) α) : Prop :=
  ∀ t, t.link.Agrees → ∃ ts new, (run step t).2.exchanges = t.exchanges ++ new ∧
    Went ts t.link (run step t).2.link ∧ Relays ts new ∧
    ((run step t).1.isOk = true → ∀ e ∈ new, e.2.isOk = true)

theorem parallel_composable :
    Composable (τ := Tapped (Docked (Watched σ))) fun _ step => Parallel step where
  pure _ t h := ⟨[], [], (List.append_nil _).symm, .refl h, .nil, fun _ => nofun⟩
  giveUp _ t h := ⟨[], [], (List.append_nil _).symm, .refl h, .nil, nofun⟩
  bind {α β step next} hstep hnext t h := by
    obtain ⟨ts, new, hnew, hwent, hrelays, hok⟩ := hstep t h
    rcases hrun : run step t with ⟨e | a, t'⟩
    all_goals rw [hrun] at hnew hwent hok
    · rw [run_bind_of_error hrun]
      exact ⟨ts, new, hnew, hwent, hrelays, nofun⟩
    · rw [run_bind_of_ok hrun]
      obtain ⟨ts', new', hnew', hwent', hrelays', hok'⟩ := hnext a t' hwent.agrees
      refine ⟨ts ++ ts', new ++ new', ?_, hwent.trans hwent', hrelays.append (hok rfl) hrelays',
        fun hend => List.forall_mem_append.mpr ⟨hok rfl, hok' hend⟩⟩
      rw [hnew', hnew, List.append_assoc]

variable [Service σ]

/-- A frame is transmitted at most once. -/
theorem exchange_relays (frame : Bytes) {d : Docked (Watched σ)} (h : d.Agrees) :
    ∃ ts, Went ts d (run (Link.exchange frame) d).2 ∧
      Relays ts [(frame, (run (Link.exchange frame) d).1)] := by
  have hlink : run (Link.exchange frame) d = ((run (Slot.exchange frame) d).1.mapError
      ReaderFault.toFault, (run (Slot.exchange frame) d).2) := run_asLink _ d
  rw [hlink]
  rcases Slot.exchange_cases frame h with ⟨fault, d', hrun, hwent, -⟩ | ⟨n, outcome, d', hrun, hwent,
    -⟩
  all_goals rw [hrun]
  · exact ⟨[], hwent, .unsent frame _⟩
  · refine ⟨[⟨some n, frame, outcome⟩], hwent, ?_⟩
    cases outcome with
    | ok answer => exact .answered (some n) frame answer .nil
    | error fault => exact .failed (some n) frame fault _

theorem parallel_transmitPlain (c : Command) : Parallel (σ := σ) (transmitPlain c) := by
  intro t h
  cases hcheck : c.check with
  | error fault =>
    rw [run_transmitPlain_of_check_error hcheck]
    exact ⟨[], [], (List.append_nil _).symm, .refl h, .nil, nofun⟩
  | ok u =>
    obtain ⟨ts, hwent, hrelays⟩ := exchange_relays c.encode h
    rw [run_transmitPlain_of_check_ok hcheck, Tapped.run_exchange]
    rcases hrun : run (Link.exchange c.encode) t.link with ⟨fault | answer, d'⟩
    all_goals rw [hrun] at hwent hrelays
    · exact ⟨ts, _, rfl, hwent, hrelays, nofun⟩
    · exact ⟨ts, _, rfl, hwent, hrelays, fun _ => List.forall_mem_singleton.mpr rfl⟩

omit [Service σ] in
/-- A slot with a tap stands for the slot. -/
theorem mirrors_behind [Link (Docked (Watched σ))] :
    Mirrors Eq fun (t : Tapped (Docked (Watched σ))) d => t.link = d where
  isConnected := by rintro t _ rfl; rfl
  kind := by rintro t _ rfl; rfl
  tokenType? := by rintro t _ rfl; rfl
  connect := by
    rintro t _ rfl
    rw [Tapped.run_connect]
    exact ⟨rfl, rfl⟩
  exchange := by
    rintro f _ rfl t _ rfl
    rw [Tapped.run_exchange]
    exact ⟨rfl, rfl⟩

end Link

/-! ### Dialogues -/

/-- A logical command, what was transmitted for it, and what came of it. -/
structure Dialogue where
  command : Command
  sent : List Transmission
  outcome : Except Error Response

namespace Dialogue

/-- The card has answered the command, and with `90 00`. -/
def Accepted (d : Dialogue) : Prop := ∃ r, d.outcome = .ok r ∧ r.isSuccess = true

/-- All frames of the command were transmitted, in its framing for some card, and then requests for
more. -/
def Whole (d : Dialogue) : Prop :=
  ∃ (card : CardCapabilities) (fetched : List UInt8),
    d.sent.map (·.frame) = (Link.framing .standard card d.command).map Command.encode ++
      fetched.map fun sw2 => (Command.getResponse sw2).encode

/-- What was transmitted is what the command takes, and the outcome is what the card says. -/
structure Sound (d : Dialogue) : Prop where
  /-- The frames of the command in its framing for some card, each one once, and then requests for
  more. They may break off anywhere. -/
  frames : ∃ (card : CardCapabilities) (fetched : List UInt8),
    d.sent.map (·.frame) <+: (Link.framing .standard card d.command).map Command.encode ++
      fetched.map fun sw2 => (Command.getResponse sw2).encode
  /-- They do not break off where the command was answered. -/
  whole : ∀ r, d.outcome = .ok r → d.Whole
  /-- Nothing was transmitted after a frame that was not answered. -/
  goesOn : ∀ t ∈ d.sent.dropLast, t.answered = true
  /-- An answer has the status that the card has given to the last frame. -/
  heard : ∀ r, d.outcome = .ok r → (∀ t ∈ d.sent, t.answered = true) ∧
    ∃ n frame answer last, d.sent.getLast? = some ⟨n, frame, .ok answer⟩ ∧
      Response.decode answer = .ok last ∧ last.status = r.status

/-- The frames of a dialogue are for the instruction of its command, or they fetch more of the
answer. -/
theorem Sound.ins {d : Dialogue} (h : d.Sound) : ∀ t ∈ d.sent,
    t.frame[1]? = some d.command.ins ∨ t.frame[1]? = some Ins.getResponse := by
  intro t ht
  obtain ⟨card, fetched, hframes⟩ := h.frames
  rcases List.mem_append.mp (hframes.subset (List.mem_map_of_mem ht)) with hmem | hmem
  · obtain ⟨s, hs, hframe⟩ := List.mem_map.mp hmem
    rw [← hframe, ← Link.ins_of_mem_framing hs]
    exact Or.inl rfl
  · obtain ⟨sw2, -, hframe⟩ := List.mem_map.mp hmem
    rw [← hframe]
    exact Or.inr rfl

end Dialogue

namespace Link

variable {σ : Type} [Service σ]

/-- An exchange over a slot is a sound dialogue. -/
theorem exchangePlain_sound (maxRounds : Nat) (card : CardCapabilities) (c : Command)
    {d d' : Docked (Watched σ)} {o : Except Error Response} (h : d.Agrees)
    (hrun : run (exchangePlain .standard maxRounds card c) d = (o, d')) :
    ∃ ts, Went ts d d' ∧ Dialogue.Sound ⟨c, ts, o⟩ := by
  -- The same exchange is made over a slot with an empty tap.
  have hpaired : List.Forall₂ (Paired Eq) (framing .standard card c) (framing .standard card c) :=
    List.forall₂_same.mpr fun c _ => .refl (fun _ => rfl) c
  obtain ⟨hout, hlink⟩ := couples_exchangePlain mirrors_behind (fun _ => rfl) maxRounds rfl hpaired
    { link := d } d rfl
  obtain ⟨ts, new, hnew, hwent, hrelays, hok⟩ := parallel_composable.exchangePlain maxRounds
    (fun s _ => parallel_transmitPlain s) (fun _ => parallel_transmitPlain _) { link := d } h
  obtain ⟨n, fetched, hframes, -, hlate, hwhole⟩ :=
    exchangePlain_within .standard maxRounds card c ({ link := d } : Tapped (Docked (Watched σ)))
  rcases htapped : run (exchangePlain .standard maxRounds card c)
    ({ link := d } : Tapped (Docked (Watched σ))) with ⟨o', t⟩
  rw [htapped] at hout hlink hnew hwent hok hframes hwhole
  rw [hrun] at hout hlink
  -- The tap has begun empty, so all that is on it is of this exchange.
  obtain rfl : o' = o := hout
  obtain rfl : t.link = d' := hlink
  obtain rfl : t.exchanges = new := hnew
  have hnoted : t.exchanges.map (·.1) = ((framing .standard card c).take n).map Command.encode ++
      fetched.map fun sw2 => (Command.getResponse sw2).encode := hframes
  refine ⟨ts, hwent, ⟨card, fetched, hrelays.frames.trans ?_⟩, fun r hr => ⟨card, fetched, ?_⟩,
    hrelays.goesOn, fun r hr => ?_⟩
  · -- Requests for more come after all frames of the command.
    rw [hnoted]
    by_cases hfetched : fetched = []
    · subst hfetched
      rw [List.map_nil, List.append_nil, List.append_nil]
      exact (List.take_prefix n _).map _
    · exact ⟨[], by rw [List.append_nil, List.take_of_length_le (hlate hfetched)]⟩
  · -- The card has answered all that is on the tap, the last frame of the command included.
    obtain rfl : o' = .ok r := hr
    have hall := hrelays.frames_eq (hok rfl)
    rwa [hnoted, List.take_of_length_le (hwhole r rfl).1] at hall
  · obtain rfl : o' = .ok r := hr
    obtain ⟨frame, answer, last, hlast, hdecode, hstatus⟩ := heard_exchangePlain htapped
    obtain ⟨hanswered, hwatched⟩ := hrelays.heard (hok rfl)
    obtain ⟨n, hn⟩ := hwatched frame answer hlast
    exact ⟨hanswered, n, frame, answer, last, hn, hdecode, hstatus⟩

end Link

end PgpCard
