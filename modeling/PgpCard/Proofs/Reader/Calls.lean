import PgpCard.Proofs.Reader.Watch
import PgpCard.Simulator.ScriptedService

/-!
# `PgpCard.Proofs.Reader.Calls`: what a slot asks the service for

`Overheard σ` is any service `σ` with a record of the calls that concern cards, each with what
came of it. The record is only kept: a step over an overheard service ends as it does over the
service itself and leaves the same slot (`Calls`). So the record tells what the step asked for.

`exchange_once` is about one frame. It goes out once if the slot has or gets a connection, and
not at all otherwise. What comes back is what came of it, whatever became of the connection
afterwards. `connectCard_cases` and `recover_calls` are its two parts: what happens before the
frame and what happens after it.
-/

set_option autoImplicit false

namespace PgpCard

open Step

/-- A call that concerns a card, with what came of it. -/
inductive ServiceCall where
  | connect (reader : String) (share : ShareMode) (protocols : Protocols)
    (outcome : Except ServiceFault Unit)
  | transmit (reader : String) (frame : Bytes) (outcome : Except ServiceFault Bytes)
  | disconnect (reader : String) (disposition : Disposition) (outcome : Except ServiceFault Unit)

/-- The call hands a frame over. -/
def ServiceCall.isTransmit : ServiceCall → Bool
  | .transmit .. => true
  | _ => false

/-- A service with the calls made to it, in order. -/
structure Overheard (σ : Type) where
  service : σ
  calls : List ServiceCall := []

namespace Overheard

variable {σ : Type}

/-- A call is made and noted, however it ends. -/
def overhear {α : Type} (note : Except ServiceFault α → ServiceCall)
    (step : EStateM ServiceFault σ α) : EStateM ServiceFault (Overheard σ) α := fun o =>
  match step o.service with
  | .ok a service => .ok a { service, calls := o.calls ++ [note (.ok a)] }
  | .error fault service => .error fault { service, calls := o.calls ++ [note (.error fault)] }

/-- The call ends as it would unheard. -/
theorem run_overhear {α : Type} (note : Except ServiceFault α → ServiceCall)
    (step : EStateM ServiceFault σ α) (o : Overheard σ) :
    run (overhear note step) o =
      let after := run step o.service
      (after.1, { service := after.2, calls := o.calls ++ [note after.1] }) := by
  unfold run overhear
  cases step o.service <;> rfl

instance [Service σ] : Service (Overheard σ) where
  establish o := Service.establish o.service
  readerNames o := Service.readerNames o.service
  status o := Service.status o.service
  atr o := Service.atr o.service
  connect reader share protocols :=
    overhear (.connect reader share protocols) (Service.connect reader share protocols)
  transmit reader frame := overhear (.transmit reader frame) (Service.transmit reader frame)
  disconnect reader disposition :=
    overhear (.disconnect reader disposition) (Service.disconnect reader disposition)

end Overheard

/-- The slot over a service that is overheard, with the calls that were made before. -/
def Docked.overheard {σ : Type} (d : Docked σ) (earlier : List ServiceCall) :
    Docked (Overheard σ) :=
  { slot := d.slot, service := { service := d.service, calls := earlier } }

namespace Slot

variable {σ α β : Type}

/-- Over a service that is overheard a step does the same, and it makes these calls. -/
def Calls (d : Docked σ) (step : SlotM σ α) (step' : SlotM (Overheard σ) α)
    (calls : List ServiceCall) : Prop :=
  ∀ earlier, run step' (d.overheard earlier) =
    ((run step d).1, (run step d).2.overheard (earlier ++ calls))

/-- The same of a change that cannot fail. -/
def Makes (d : Docked σ) (f : Docked σ → Docked σ)
    (f' : Docked (Overheard σ) → Docked (Overheard σ)) (calls : List ServiceCall) : Prop :=
  ∀ earlier, f' (d.overheard earlier) = (f d).overheard (earlier ++ calls)

theorem calls_nil {d : Docked σ} {step : SlotM σ α} {step' : SlotM (Overheard σ) α}
    (h : ∀ earlier, run step' (d.overheard earlier) =
      ((run step d).1, (run step d).2.overheard earlier)) : Calls d step step' [] := by
  intro earlier
  rw [h, List.append_nil]

/-- After a step that fails nothing is asked for. -/
theorem Calls.bind_of_error {d : Docked σ} {step : SlotM σ α} {step' : SlotM (Overheard σ) α}
    {next : α → SlotM σ β} {next' : α → SlotM (Overheard σ) β} {fault : ReaderFault}
    {calls : List ServiceCall} (h : Calls d step step' calls)
    (herror : (run step d).1 = .error fault) :
    Calls d (step >>= next) (step' >>= next') calls := by
  intro earlier
  have hrun : run step d = (.error fault, (run step d).2) := Prod.ext herror rfl
  have hrun' := h earlier
  rw [herror] at hrun'
  rw [run_bind_of_error hrun, run_bind_of_error hrun']

variable [Service σ]

/-! ### Before a frame -/

/-- What it means for a slot that its card cannot be connected. -/
def openFault (reader : String) : ServiceFault → ReaderFault
  | .noSmartcard => .noCard reader
  | fault => .service fault

/-- The answer of the service when a slot asks it for a connection. -/
def askToConnect (d : Docked σ) : Except ServiceFault Unit × σ :=
  run (Service.connect d.slot.reader d.slot.config.share d.slot.config.protocols) d.service

theorem run_openCard_of_ok {d : Docked σ} {service : σ} (h : askToConnect d = (.ok (), service)) :
    run openCard d = (.ok (), connected { d with service }) := by
  rw [askToConnect] at h
  rw [openCard, run_current_bind, run_bind, run_call, h]
  rfl

theorem run_openCard_of_error {d : Docked σ} {why : ServiceFault} {service : σ}
    (h : askToConnect d = (.error why, service)) :
    run openCard d = (.error (openFault d.slot.reader why), { d with service }) := by
  rw [askToConnect] at h
  rw [openCard, run_current_bind, run_bind, run_call, h]
  cases why <;> rfl

/-- The call by which a slot asks for a connection. -/
def connectCall (d : Docked σ) (outcome : Except ServiceFault Unit) : ServiceCall :=
  .connect d.slot.reader d.slot.config.share d.slot.config.protocols outcome

theorem askToConnect_overheard {d : Docked σ} {outcome : Except ServiceFault Unit} {service : σ}
    (h : askToConnect d = (outcome, service)) (earlier : List ServiceCall) :
    askToConnect (d.overheard earlier) =
      (outcome, { service, calls := earlier ++ [connectCall d outcome] }) := by
  rw [askToConnect] at h
  refine (Overheard.run_overhear _ _ _).trans ?_
  dsimp only [Docked.overheard]
  rw [h]
  rfl

/-- Connecting does nothing for a slot that is connected. Otherwise the service is asked once, if
it can be asked at all, and the slot is connected if that succeeds. -/
theorem connectCard_cases (d : Docked σ) :
    (d.slot.card.isSome = true ∧ run connectCard d = (.ok (), d) ∧
      Calls d connectCard connectCard []) ∨
    (d.slot.card = none ∧ ∃ service, run connectCard d = (.ok (), connected { d with service }) ∧
      Calls d connectCard connectCard [connectCall d (.ok ())]) ∨
    (d.slot.card = none ∧ ∃ fault service, run connectCard d = (.error fault, { d with service }) ∧
      ∃ calls, Calls d connectCard connectCard calls ∧
        ∀ call ∈ calls, ∃ why, call = connectCall d (.error why)) := by
  cases hcard : d.slot.card with
  | some n =>
    have hrun : run connectCard d = (.ok (), d) := run_connectCard_of_some hcard
    refine Or.inl ⟨rfl, hrun, calls_nil fun earlier => ?_⟩
    rw [hrun]
    exact run_connectCard_of_some (d := d.overheard earlier) hcard
  | none =>
    -- Both services are asked under the same conditions, so the two runs are opened together.
    have hrun := run_connectCard_of_none hcard
    have hrun' := fun earlier => run_connectCard_of_none (d := d.overheard earlier) hcard
    have hreader : ∀ earlier, (d.overheard earlier).slot.reader = d.slot.reader := fun _ => rfl
    simp only [hreader] at hrun'
    right
    cases hcallable : isCallable d.slot.reader with
    | false =>
      simp only [hcallable, Bool.false_eq_true, if_false] at hrun hrun'
      refine Or.inr ⟨rfl, _, d.service, hrun, [], calls_nil fun earlier => ?_, by simp⟩
      rw [hrun', hrun]
    | true =>
      simp only [hcallable, if_true] at hrun hrun'
      rcases hask : askToConnect d with ⟨why | ⟨⟩, service⟩
      · rw [run_openCard_of_error hask] at hrun
        refine Or.inr ⟨rfl, _, service, hrun, [connectCall d (.error why)], fun earlier => ?_, ?_⟩
        · rw [hrun', run_openCard_of_error (askToConnect_overheard hask earlier), hrun]
          rfl
        · exact List.forall_mem_singleton.mpr ⟨why, rfl⟩
      · rw [run_openCard_of_ok hask] at hrun
        refine Or.inl ⟨rfl, service, hrun, fun earlier => ?_⟩
        rw [hrun', run_openCard_of_ok (askToConnect_overheard hask earlier), hrun]
        rfl

/-- A slot that connects hands no frame over, and it is connected if it succeeds. That takes an
answer of the service if the slot was not connected before. -/
theorem connectCard_calls (d : Docked σ) : ∃ calls, Calls d connectCard connectCard calls ∧
    (∀ call ∈ calls, call.isTransmit = false) ∧
    ((run connectCard d).2.slot.card.isSome = true ↔ (run connectCard d).1 = .ok ()) ∧
    (d.slot.card = none → ((run connectCard d).1 = .ok () ↔ connectCall d (.ok ()) ∈ calls)) ∧
    (run connectCard d).2.slot.reader = d.slot.reader ∧
    (run connectCard d).2.slot.config = d.slot.config := by
  rcases connectCard_cases d with ⟨hcard, hrun, hcalls⟩ | ⟨-, service, hrun, hcalls⟩ |
    ⟨hcard, why, service, hrun, calls, hcalls, hfailed⟩
  · refine ⟨[], hcalls, by simp, ?_⟩
    simp only [hrun, hcard, true_and, and_true]
    intro hnone
    exact nomatch hnone ▸ hcard
  · exact ⟨_, hcalls, by simp [connectCall, ServiceCall.isTransmit], by simp [hrun, connected]⟩
  · refine ⟨calls, hcalls, ?_, ?_⟩
    · intro call hmem
      obtain ⟨why, rfl⟩ := hfailed call hmem
      rfl
    · have hnever : connectCall d (.ok ()) ∉ calls := fun hmem => by
        obtain ⟨why, hwhy⟩ := hfailed _ hmem
        exact nomatch hwhy
      simp [hrun, hcard, hnever]

/-! ### After a frame -/

theorem abandon_eq_run (d : Docked σ) :
    abandon d = disconnected { d with
      service := (run (Service.disconnect d.slot.reader .reset) d.service).2 } := by
  unfold abandon run
  cases Service.disconnect d.slot.reader .reset d.service <;> rfl

/-- A connection is given up by one call. -/
theorem abandon_calls (d : Docked σ) :
    ∃ outcome, Makes d abandon abandon [.disconnect d.slot.reader .reset outcome] := by
  refine ⟨(run (Service.disconnect d.slot.reader .reset) d.service).1, fun earlier => ?_⟩
  have hoverheard : run (Service.disconnect d.slot.reader .reset) (d.overheard earlier).service =
      _ := Overheard.run_overhear _ _ _
  rw [abandon_eq_run, abandon_eq_run]
  exact congrArg (fun service => disconnected { d.overheard earlier with service })
    (congrArg Prod.snd hoverheard)

theorem slot_abandon (d : Docked σ) : (abandon d).slot = { d.slot with card := none } := by
  rw [abandon_eq_run]
  rfl

theorem disconnect_eq_run (disposition : Disposition) (d : Docked σ) : disconnect disposition d =
    match run (Service.disconnect d.slot.reader disposition) d.service with
    | (.ok _, service) => disconnected { d with service }
    | (.error _, service) => abandon { d with service } := by
  unfold disconnect run
  cases Service.disconnect d.slot.reader disposition d.service <;> rfl

/-- A connection is ended by one call, or by two if the first one fails. -/
theorem disconnect_calls (disposition : Disposition) (d : Docked σ) :
    (disconnect disposition d).slot = { d.slot with card := none } ∧
      ∃ calls, Makes d (disconnect disposition) (disconnect disposition) calls ∧
        ∀ call ∈ calls, ∃ way outcome, call = .disconnect d.slot.reader way outcome := by
  have hoverheard : ∀ earlier, run (Service.disconnect d.slot.reader disposition)
      (d.overheard earlier).service = _ := fun _ => Overheard.run_overhear _ _ _
  have heard : ∀ earlier, (d.overheard earlier).slot.reader = d.slot.reader := fun _ => rfl
  simp only [Makes, disconnect_eq_run, heard, hoverheard]
  dsimp only [Docked.overheard]
  rcases run (Service.disconnect d.slot.reader disposition) d.service with ⟨why | ⟨⟩, service⟩
  · obtain ⟨outcome, habandon⟩ := abandon_calls { d with service }
    refine ⟨slot_abandon _, [.disconnect d.slot.reader disposition (.error why),
      .disconnect d.slot.reader .reset outcome], fun earlier => ?_, by simp⟩
    have hboth := habandon (earlier ++ [.disconnect d.slot.reader disposition (.error why)])
    rw [List.append_assoc] at hboth
    exact hboth
  · exact ⟨rfl, [.disconnect d.slot.reader disposition (.ok ())], fun _ => rfl, by simp⟩

theorem disconnectIfAny_calls (disposition : Disposition) (d : Docked σ) :
    (disconnectIfAny disposition d).slot = { d.slot with card := none } ∧
      ∃ calls, Makes d (disconnectIfAny disposition) (disconnectIfAny disposition) calls ∧
        ∀ call ∈ calls, ∃ way outcome, call = .disconnect d.slot.reader way outcome := by
  have hcard : ∀ earlier, (d.overheard earlier).slot.card = d.slot.card := fun _ => rfl
  simp only [Makes, disconnectIfAny, hcard]
  cases h : d.slot.card with
  | some n => exact disconnect_calls disposition d
  | none =>
    refine ⟨?_, [], fun earlier => by simp, by simp⟩
    calc d.slot = { d.slot with card := d.slot.card } := rfl
      _ = _ := by rw [h]

theorem recover_of_ends {fault : ServiceFault} (h : endsConnection fault = true) (d : Docked σ) :
    recover fault d = if fault = .resetCard ∧ d.slot.config.reconnect = true
      then tryConnect (abandon d) else abandon d := by
  simp [recover, h, slot_abandon]

/-- After a failure that ends the connection the slot is connected if it asks for a new one and
gets it. After any other failure nothing happens. -/
theorem recover_calls (fault : ServiceFault) {d : Docked σ} (h : d.slot.card.isSome = true) :
    ∃ calls, Makes d (recover fault) (recover fault) calls ∧
      (∀ call ∈ calls, call.isTransmit = false) ∧
      ((recover fault d).slot.card.isSome = true ↔ endsConnection fault = false ∨
        fault = .resetCard ∧ d.slot.config.reconnect = true ∧ connectCall d (.ok ()) ∈ calls) := by
  cases hends : endsConnection fault with
  | false =>
    have hrecover : ∀ {τ : Type} [Service τ] (d : Docked τ), recover fault d = d := by
      intro τ _ d
      rw [recover, hends, if_neg Bool.false_ne_true]
    exact ⟨[], fun earlier => by simp [hrecover], by simp, by simp [hrecover, h]⟩
  | true =>
    obtain ⟨outcome, habandon⟩ := abandon_calls d
    have hconfig : ∀ earlier, (d.overheard earlier).slot.config = d.slot.config := fun _ => rfl
    rw [Makes] at habandon
    simp only [Makes, recover_of_ends hends, hconfig, tryConnect_eq_run, habandon]
    by_cases hagain : fault = .resetCard ∧ d.slot.config.reconnect = true
    · -- The connection is off, so to be connected again takes an answer of the service.
      obtain ⟨calls, hcalls, hframes, hconnected, hasked, -⟩ := connectCard_calls (abandon d)
      have hcall : connectCall (abandon d) (.ok ()) = connectCall d (.ok ()) := by
        rw [connectCall, slot_abandon, connectCall]
      have hnone : (abandon d).slot.card = none := by rw [slot_abandon]
      simp only [if_pos hagain]
      refine ⟨.disconnect d.slot.reader .reset outcome :: calls, fun earlier => ?_, ?_, ?_⟩
      · rw [hcalls, List.append_assoc, List.singleton_append]
      · exact List.forall_mem_cons.mpr ⟨rfl, hframes⟩
      · rw [hconnected, hasked hnone, hcall]
        simp [hagain, connectCall]
    · simp only [if_neg hagain, slot_abandon]
      refine ⟨[.disconnect d.slot.reader .reset outcome], fun _ => rfl, ?_, ?_⟩
      · exact List.forall_mem_singleton.mpr rfl
      · simp only [Option.isSome_none, Bool.false_eq_true, false_iff, not_or, Bool.true_eq_false,
          not_false_eq_true, true_and]
        exact fun ⟨hreset, hreconnect, _⟩ => hagain ⟨hreset, hreconnect⟩

/-! ### Frames -/

/-- What a slot does about the outcome of a frame. -/
def settle : Except ServiceFault Bytes → Docked σ → Docked σ
  | .ok _, d => d
  | .error fault, d => recover fault d

/-- A frame that goes out brings its outcome, and then its failure is dealt with. -/
theorem run_exchange_of_sent {d d₁ : Docked σ} {frame : Bytes}
    {outcome : Except ServiceFault Bytes} {service : σ}
    (hconnect : run connectCard d = (.ok (), d₁))
    (hsent : run (Service.transmit d₁.slot.reader frame) d₁.service = (outcome, service)) :
    run (exchange frame) d = (outcome.mapError .service, settle outcome { d₁ with service }) := by
  rw [exchange, run_bind_of_ok hconnect, run_current_bind, run_bind, run_call, hsent]
  cases outcome <;> rfl

/-- The failures that end a connection. -/
theorem endsConnection_eq_false_iff {fault : ServiceFault} :
    endsConnection fault = false ↔ fault ≠ .resetCard ∧ fault ≠ .removedCard := by
  simp [endsConnection]

theorem settle_calls (outcome : Except ServiceFault Bytes) {d : Docked σ}
    (h : d.slot.card.isSome = true) :
    ∃ calls, Makes d (settle outcome) (settle outcome) calls ∧
      (∀ call ∈ calls, call.isTransmit = false) ∧
      ((settle outcome d).slot.card.isSome = true ↔
        (outcome ≠ .error .resetCard ∧ outcome ≠ .error .removedCard) ∨
        (outcome = .error .resetCard ∧ d.slot.config.reconnect = true ∧
          connectCall d (.ok ()) ∈ calls)) := by
  cases outcome with
  | ok answer => exact ⟨[], fun earlier => by simp [settle], by simp, by simp [settle, h]⟩
  | error fault =>
    simp only [ne_eq, Except.error.injEq, ← endsConnection_eq_false_iff]
    exact recover_calls fault h

/-- No frame was handed over, for want of a connection. -/
structure Unsent (d : Docked σ) (frame : Bytes) (calls : List ServiceCall) : Prop where
  result : ∃ fault, (run connectCard d).1 = .error fault ∧
    run (exchange frame) d = (.error fault, (run connectCard d).2)
  card : (run (exchange frame) d).2.slot.card = none
  calls : ∀ call ∈ calls, call.isTransmit = false

/-- The frame was handed over between these other calls, and this came of it. Then there is a
connection unless the card was reset or removed, and after a reset also if the slot asked for a
new one and got it. -/
structure Sent (d : Docked σ) (frame : Bytes) (outcome : Except ServiceFault Bytes)
    (before after : List ServiceCall) : Prop where
  connect : (run connectCard d).1 = .ok ()
  result : (run (exchange frame) d).1 = outcome.mapError .service
  card : (run (exchange frame) d).2.slot.card.isSome = true ↔
    (outcome ≠ .error .resetCard ∧ outcome ≠ .error .removedCard) ∨
    (outcome = .error .resetCard ∧ d.slot.config.reconnect = true ∧
      connectCall d (.ok ()) ∈ after)
  others : ∀ call ∈ before ++ after, call.isTransmit = false

/-- A frame is handed over once if the slot is connected or gets connected, and not at all
otherwise. -/
theorem exchange_calls (d : Docked σ) (frame : Bytes) :
    ∃ calls, Calls d (exchange frame) (exchange frame) calls ∧
      (Unsent d frame calls ∨ ∃ before outcome after, Sent d frame outcome before after ∧
        calls = before ++ .transmit d.slot.reader frame outcome :: after) := by
  obtain ⟨before, hbefore, hbeforeFrames, hconnected, -, hreader, hconfig⟩ := connectCard_calls d
  rcases hconnect : run connectCard d with ⟨fault | ⟨⟩, d₁⟩
  all_goals
    rw [hconnect] at hconnected hreader hconfig
    dsimp only at hconnected hreader hconfig
  · have hrun : run (exchange frame) d = (.error fault, d₁) := run_bind_of_error hconnect
    have hnone : d₁.slot.card = none := by simpa using hconnected
    refine ⟨before, hbefore.bind_of_error (congrArg Prod.fst hconnect), Or.inl ?_⟩
    refine ⟨⟨fault, congrArg Prod.fst hconnect, ?_⟩, ?_, hbeforeFrames⟩
    · rw [hrun, hconnect]
    · rw [hrun]
      exact hnone
  · have hcard : d₁.slot.card.isSome = true := hconnected.mpr rfl
    have hcall : ∀ service : σ,
        connectCall { d₁ with service } (.ok ()) = connectCall d (.ok ()) := by
      intro service
      simp only [connectCall, hreader, hconfig]
    rcases hsent : run (Service.transmit d₁.slot.reader frame) d₁.service with ⟨outcome, service⟩
    obtain ⟨after, hafter, hafterFrames, hsettled⟩ :=
      settle_calls outcome (d := { d₁ with service }) hcard
    have hrun := run_exchange_of_sent hconnect hsent
    refine ⟨before ++ .transmit d.slot.reader frame outcome :: after, fun earlier => ?_,
      Or.inr ⟨before, outcome, after, ⟨?connect, congrArg Prod.fst hrun, ?card, ?others⟩, rfl⟩⟩
    · -- The record of the frame lies between that of the connection and that of the consequences.
      have hconnect' : run connectCard (d.overheard earlier) =
          (.ok (), d₁.overheard (earlier ++ before)) := by
        rw [hbefore, hconnect]
      have hsent' : run (Service.transmit d₁.slot.reader frame)
          (d₁.overheard (earlier ++ before)).service = _ := Overheard.run_overhear _ _ _
      dsimp only [Docked.overheard] at hsent'
      rw [hsent] at hsent'
      have hsettle := hafter (earlier ++ before ++ [.transmit d₁.slot.reader frame outcome])
      rw [run_exchange_of_sent hconnect' hsent', hrun, ← hreader]
      simp only [List.append_assoc, List.cons_append, List.nil_append] at hsettle ⊢
      exact congrArg (Prod.mk _) hsettle
    case connect => rw [hconnect]
    case card =>
      rw [hrun]
      simpa only [hconfig, hcall] using hsettled
    case others => exact List.forall_mem_append.mpr ⟨hbeforeFrames, hafterFrames⟩

/-- A slot that was reset is connected if it says so. This takes a new connection, whatever came
of the ending of the old one. -/
theorem reset_calls (d : Docked σ) :
    ∃ calls, Calls d reset reset calls ∧ (∀ call ∈ calls, call.isTransmit = false) ∧
      ((run reset d).2.slot.card.isSome = true ↔ (run reset d).1 = .ok ()) ∧
      ((run reset d).1 = .ok () ↔ connectCall d (.ok ()) ∈ calls) := by
  obtain ⟨hslot, ends, hends, hendings⟩ := disconnectIfAny_calls .reset d
  obtain ⟨calls, hcalls, hframes, hconnected, hasked, -⟩ :=
    connectCard_calls (disconnectIfAny .reset d)
  have hrun : ∀ {τ : Type} [Service τ] (d : Docked τ),
      run reset d = run connectCard (disconnectIfAny .reset d) := fun _ => rfl
  have hcall : connectCall (disconnectIfAny .reset d) (.ok ()) = connectCall d (.ok ()) := by
    rw [connectCall, hslot, connectCall]
  have hnone : (disconnectIfAny .reset d).slot.card = none := by rw [hslot]
  refine ⟨ends ++ calls, fun earlier => ?_, ?_, by rw [hrun]; exact hconnected, ?_⟩
  · rw [hrun, hrun, hends, hcalls, List.append_assoc]
  · refine List.forall_mem_append.mpr ⟨fun call hmem => ?_, hframes⟩
    obtain ⟨way, outcome, rfl⟩ := hendings call hmem
    rfl
  · have hother : connectCall d (.ok ()) ∉ ends := fun hmem => by
      obtain ⟨way, outcome, hending⟩ := hendings _ hmem
      exact nomatch hending
    rw [hrun, hasked hnone, hcall, List.mem_append, or_iff_right hother]

/-- Every slot does this with a frame, over any service: it hands the frame over once if it is or
gets connected, tells what came of just that, and afterwards is connected where it should be. A
slot that resets its card hands nothing over, and it is connected if it says so. -/
theorem exchange_once (d : Docked σ) (frame : Bytes) :
    (∃ calls, Calls d (exchange frame) (exchange frame) calls ∧
      (Unsent d frame calls ∨ ∃ before outcome after, Sent d frame outcome before after ∧
        calls = before ++ .transmit d.slot.reader frame outcome :: after)) ∧
    ∃ calls, Calls d reset reset calls ∧ (∀ call ∈ calls, call.isTransmit = false) ∧
      ((run reset d).2.slot.card.isSome = true ↔ (run reset d).1 = .ok ()) ∧
      ((run reset d).1 = .ok () ↔ connectCall d (.ok ()) ∈ calls) :=
  ⟨exchange_calls d frame, reset_calls d⟩

open Simulator in
/-- The card is reset by the first frame. The slot connects again and does not send it again. -/
example :
    let service : ScriptedService := { readers := [{
      name := "Reader", transmits := [.error .resetCard, .ok [0x90, 0x00]] }] }
    let d : Docked ScriptedService := { slot := { reader := "Reader" }, service }
    (run (exchange [0x00]) (d.overheard [])).2.service.calls =
      [connectCall d (.ok ()), .transmit "Reader" [0x00] (.error .resetCard),
        .disconnect "Reader" .reset (.ok ()), connectCall d (.ok ())] := by
  rfl

end Slot

end PgpCard
