import PgpCard.Proofs.Link.Sending

/-!
# `PgpCard.Proofs.Link.Parts`: an exchange by its parts

The exchange of a command on the link is put together from single frames, decisions between
them, and a few errors of its own. `Composable` lists what a property of steps has to get
along with, so that it passes from the single frames to the whole. `exchangePlain` is that
conclusion, and the one place with an induction over the segments of a chain and the rounds
of an answer.

The single frames are those of the framing and of GET RESPONSE, so a property may hold for
the commands of one exchange only.

Many properties say what a step puts on the tap, by how it ends. `Additive` lists what such a
statement has to get along with to be composable.
-/

set_option autoImplicit false

namespace PgpCard

open Step

/-- The host itself gives an exchange up in this way, although the link works. -/
def Error.isFraming : Error → Bool
  | .chainAborted _ _ _ | .cannotTransmit | .continuationLimit _ => true
  | _ => false

namespace Link

variable {τ : Type}

/-- The property passes from the parts of an exchange to the whole of it. -/
structure Composable (P : (α : Type) → EStateM Error τ α → Prop) : Prop where
  pure : ∀ {α : Type} (a : α), P α (pure a)
  giveUp : ∀ {α : Type} {e : Error}, e.isFraming = true → P α (throw e)
  bind : ∀ {α β : Type} {step : EStateM Error τ α} {next : α → EStateM Error τ β},
    P α step → (∀ a, P β (next a)) → P β (step >>= next)

namespace Composable

variable {P : (α : Type) → EStateM Error τ α → Prop} [Link τ]

theorem transmitSegments (h : Composable P) (total : Nat) (segments : List Command)
    (hsent : ∀ c ∈ segments, P Response (transmitPlain c)) :
    ∀ sent, P ChainOutcome (transmitSegments total sent segments) := by
  induction segments with
  | nil =>
    intro sent
    exact h.giveUp rfl
  | cons c rest ih =>
    intro sent
    have hc := hsent c List.mem_cons_self
    -- The last segment is sent differently, so the rest is looked at as well.
    cases rest with
    | nil => exact h.bind hc fun r => h.pure _
    | cons d rest =>
      refine h.bind hc fun r => ?_
      by_cases hok : r.isSuccess = true
      · rw [if_pos hok]
        exact ih (fun s hs => hsent s (List.mem_cons_of_mem c hs)) (sent + 1)
      · rw [if_neg hok]
        exact h.pure _

theorem transmitFramed (h : Composable P) {commands : CommandSet} {card : CardCapabilities}
    {c : Command} (hsent : ∀ s ∈ framing commands card c, P Response (transmitPlain s)) :
    P Response (transmitFramed commands card c) := by
  unfold framing at hsent
  unfold Link.transmitFramed
  by_cases hext : card.extendedLength = true
  · rw [if_pos hext] at hsent ⊢
    exact hsent c List.mem_cons_self
  rw [if_neg hext] at hsent ⊢
  by_cases hfits : commands.fitsShort c = true
  · rw [if_pos hfits] at hsent ⊢
    exact hsent _ List.mem_cons_self
  rw [if_neg hfits] at hsent ⊢
  by_cases hchaining : card.chaining = true
  · rw [if_pos hchaining] at hsent ⊢
    refine h.bind (h.transmitSegments _ _ hsent 0) fun outcome => ?_
    cases outcome with
    | completed r => exact h.pure r
    | aborted step total status => exact h.giveUp rfl
  · rw [if_neg hchaining]
    exact h.giveUp rfl

theorem collect (h : Composable P) {getResponse : UInt8 → Command}
    (hsent : ∀ sw2, P Response (transmitPlain (getResponse sw2))) (limit left : Nat) :
    ∀ r, P Response (collect getResponse limit left r) := by
  induction left with
  | zero =>
    intro r
    rw [Link.collect]
    cases r.status.remaining? with
    | none => exact h.pure r
    | some sw2 =>
      -- Yet more bytes are announced, but the limit is used up.
      exact h.giveUp rfl
  | succ left ih =>
    intro r
    rw [Link.collect]
    cases r.status.remaining? with
    | none => exact h.pure r
    | some sw2 => exact h.bind (hsent sw2) fun next => h.bind (ih next) fun rest => h.pure _

/-- What holds of the single frames holds of the exchange. -/
theorem exchangePlain (h : Composable P) {commands : CommandSet} {card : CardCapabilities}
    {c : Command} (maxRounds : Nat)
    (hcommand : ∀ s ∈ framing commands card c, P Response (transmitPlain s))
    (hmore : ∀ sw2, P Response (transmitPlain (commands.getResponse sw2))) :
    P Response (exchangePlain commands maxRounds card c) :=
  h.bind (h.transmitFramed hcommand) fun r => h.collect hmore maxRounds maxRounds r

end Composable

/-! ### What a step puts on the tap -/

variable {Φ : (α : Type) → List (Bytes × Except Fault Bytes) → Except Error α → Prop}

/-- What the step puts on the tap, and how it ends, is as `Φ` says. -/
def Adds (Φ : (α : Type) → List (Bytes × Except Fault Bytes) → Except Error α → Prop) {α : Type}
    (step : EStateM Error (Tapped τ) α) : Prop :=
  ∀ t, ∃ new, (run step t).2.exchanges = t.exchanges ++ new ∧ Φ α new (run step t).1

/-- Steps that do not use the link are as `Φ` says, and what it says of one step and of the next one
adds up. -/
structure Additive (Φ : (α : Type) → List (Bytes × Except Fault Bytes) → Except Error α → Prop) :
    Prop where
  pure : ∀ {α : Type} (a : α), Φ α [] (.ok a)
  giveUp : ∀ {α : Type} {e : Error}, e.isFraming = true → Φ α [] (.error e)
  stop : ∀ {α β : Type} {new : List (Bytes × Except Fault Bytes)} {e : Error},
    Φ α new (.error e) → Φ β new (.error e)
  goOn : ∀ {α β : Type} {new new' : List (Bytes × Except Fault Bytes)} {a : α} {o : Except Error β},
    Φ α new (.ok a) → Φ β new' o → Φ β (new ++ new') o

theorem Additive.composable (h : Additive Φ) :
    Composable (τ := Tapped τ) fun _ step => Adds Φ step where
  pure a t := ⟨[], (List.append_nil _).symm, h.pure a⟩
  giveUp he t := ⟨[], (List.append_nil _).symm, h.giveUp he⟩
  bind {α β step next} hstep hnext t := by
    obtain ⟨new, hnew, hend⟩ := hstep t
    rcases hrun : run step t with ⟨e | a, t'⟩
    all_goals rw [hrun] at hnew hend
    · rw [run_bind_of_error hrun]
      exact ⟨new, hnew, h.stop hend⟩
    · rw [run_bind_of_ok hrun]
      obtain ⟨new', hnew', hend'⟩ := hnext a t'
      refine ⟨new ++ new', ?_, h.goOn hend hend'⟩
      rw [hnew', hnew, List.append_assoc]

/-- A command is refused, or it is exchanged once. -/
theorem adds_transmitPlain [Link τ] {c : Command}
    (hrefused : ∀ fault, c.check = .error fault →
      Φ Response [] (.error (.apdu (.command fault))))
    (hfailed : ∀ fault, Φ Response [(c.encode, .error fault)] (.error (.apdu fault)))
    (hanswered : ∀ answer, Φ Response [(c.encode, .ok answer)]
      ((Response.decode answer).mapError fun fault => .apdu (.response fault))) :
    Adds (τ := τ) Φ (transmitPlain c) := by
  intro t
  cases hcheck : c.check with
  | error fault =>
    rw [run_transmitPlain_of_check_error hcheck]
    exact ⟨[], (List.append_nil _).symm, hrefused fault hcheck⟩
  | ok u =>
    have hexchanges := Tapped.exchanges_exchange c.encode t
    rw [run_transmitPlain_of_check_ok hcheck]
    rcases hrun : run (exchange c.encode) t with ⟨fault | answer, t'⟩
    all_goals rw [hrun] at hexchanges
    · exact ⟨_, hexchanges, hfailed fault⟩
    · exact ⟨_, hexchanges, hanswered answer⟩

end Link

end PgpCard
