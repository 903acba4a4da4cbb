import PgpCard.Proofs.Step
import PgpCard.Reader.Slot

/-!
# `PgpCard.Proofs.Reader.Watch`: which connection a frame goes over

A slot changes its connection on its own: when a frame needs one, after a reset, after a
removal, and when it is told to. A statement about connections needs a service that keeps
count of them. `Watched σ` is any service `σ` with a watch, which numbers the connections and
notes for each frame the connection that it went over. It does what the service does and
decides nothing.

`Agrees` says that the slot means the connection that the watch has seen. Then a connection is
on offer that the slot has, or one that nobody has had yet (`Offers`). `Went` is what all that a
slot does has in common: what is on offer afterwards was on offer before, and so was each
connection that was used. So a connection that is off is off for good.

`exchange_cases` is the inversion for a single frame.
-/

set_option autoImplicit false

namespace PgpCard

open Step

/-- A frame that went to a card. -/
structure Transmission where
  /-- The number of the connection that it went over. -/
  connection : Option Nat
  frame : Bytes
  outcome : Except ServiceFault Bytes

/-- A service, with everything that was sent over its connections. -/
structure Watched (σ : Type) where
  service : σ
  /-- The number of the connection that is open. -/
  current : Option Nat := none
  /-- How many connections have been opened. -/
  connections : Nat := 0
  /-- What was sent, in order. -/
  transmissions : List Transmission := []

namespace Watched

variable {σ : Type} [Service σ]

/-- A connection that opens gets the next number. -/
def connect (reader : String) (share : ShareMode) (protocols : Protocols) :
    EStateM ServiceFault (Watched σ) Unit := fun w =>
  match Service.connect reader share protocols w.service with
  | .ok _ service =>
    .ok () { w with service, current := some w.connections, connections := w.connections + 1 }
  | .error fault service => .error fault { w with service }

/-- A frame is noted with its connection, whatever comes of it. -/
def transmit (reader : String) (frame : Bytes) : EStateM ServiceFault (Watched σ) Bytes := fun w =>
  match Service.transmit reader frame w.service with
  | .ok answer service => .ok answer
    { w with service, transmissions := w.transmissions ++ [⟨w.current, frame, .ok answer⟩] }
  | .error fault service => .error fault
    { w with service, transmissions := w.transmissions ++ [⟨w.current, frame, .error fault⟩] }

/-- Nobody uses a connection that was to end, even if its ending has failed. -/
def disconnect (reader : String) (disposition : Disposition) :
    EStateM ServiceFault (Watched σ) Unit := fun w =>
  match Service.disconnect reader disposition w.service with
  | .ok _ service => .ok () { w with service, current := none }
  | .error fault service => .error fault { w with service, current := none }

instance : Service (Watched σ) where
  establish w := Service.establish w.service
  readerNames w := Service.readerNames w.service
  status w := Service.status w.service
  atr w := Service.atr w.service
  connect := connect
  transmit := transmit
  disconnect := disconnect

end Watched

namespace Docked

variable {σ : Type}

/-- The slot means the connection that the watch has seen. -/
structure Agrees (d : Docked (Watched σ)) : Prop where
  card : d.slot.card = d.service.current
  opened : d.slot.opened = d.service.connections
  numbered : ∀ n, d.slot.card = some n → n < d.slot.opened

/-- The slot may use this connection, now or some time: it has it, or nobody has had it yet. -/
def Offers (d : Docked (Watched σ)) (n : Nat) : Prop :=
  d.slot.card = some n ∨ d.slot.opened ≤ n

/-- A connection is off when it was opened and the slot does not have it. -/
theorem not_offers_iff {d : Docked (Watched σ)} {n : Nat} :
    ¬ d.Offers n ↔ d.slot.card ≠ some n ∧ n < d.slot.opened := by
  rw [Offers, not_or, Nat.not_le]

/-- From the one to the other `ts` was sent. Only connections on offer were used or taken. -/
structure Went (ts : List Transmission) (d d' : Docked (Watched σ)) : Prop where
  agrees : d'.Agrees
  transmissions : d'.service.transmissions = d.service.transmissions ++ ts
  opened : d.slot.opened ≤ d'.slot.opened
  card : ∀ n, d'.slot.card = some n → d.Offers n
  offered : ∀ t ∈ ts, ∃ n, t.connection = some n ∧ d.Offers n

theorem Went.refl {d : Docked (Watched σ)} (h : d.Agrees) : Went [] d d :=
  ⟨h, (List.append_nil _).symm, Nat.le_refl _, fun _ => Or.inl, by simp⟩

/-- What is on offer afterwards was on offer before. -/
theorem Went.offers {ts : List Transmission} {d d' : Docked (Watched σ)} (h : Went ts d d')
    {n : Nat} (hn : d'.Offers n) : d.Offers n := by
  rcases hn with hcard | hopened
  · exact h.card n hcard
  · exact Or.inr (Nat.le_trans h.opened hopened)

theorem Went.trans {ts ts' : List Transmission} {d d' d'' : Docked (Watched σ)}
    (h : Went ts d d') (h' : Went ts' d' d'') : Went (ts ++ ts') d d'' := by
  refine ⟨h'.agrees, ?_, Nat.le_trans h.opened h'.opened, fun n hn => h.offers (h'.card n hn), ?_⟩
  · rw [h'.transmissions, h.transmissions, List.append_assoc]
  · refine List.forall_mem_append.mpr ⟨h.offered, fun t ht => ?_⟩
    obtain ⟨n, hconnection, hn⟩ := h'.offered t ht
    exact ⟨n, hconnection, h.offers hn⟩

end Docked

namespace Slot

open Docked

variable {σ : Type}

/-- A new slot agrees with a service that is watched from then on. -/
theorem agrees_of_new {reader : String} {config : SlotConfig} {slot : Slot}
    (h : Slot.new reader config = .ok slot) (service : σ) :
    Agrees { slot, service := ({ service } : Watched σ) } := by
  unfold Slot.new at h
  split at h
  · exact nomatch h
  · obtain rfl := Except.ok.inj h
    exact ⟨rfl, rfl, nofun⟩

variable [Service σ]

/-! ### Opening and ending connections -/

omit [Service σ] in
/-- A call to the service does not touch the slot. -/
theorem run_call {α : Type} (step : EStateM ServiceFault σ α) (d : Docked σ) :
    run (call step) d =
      (.ok (run step d.service).1, { d with service := (run step d.service).2 }) := by
  unfold run call
  cases step d.service <;> rfl

omit [Service σ] in
/-- Looking at the slot does not touch anything. -/
theorem run_current_bind {α : Type} (next : Slot → SlotM σ α) (d : Docked σ) :
    run (current >>= next) d = run (next d.slot) d := rfl

/-- The card connects with the next number, or all stays as it was. -/
theorem openCard_cases (d : Docked (Watched σ)) :
    (∃ service, run openCard d = (.ok (), connected { d with service := { d.service with
      service
      current := some d.service.connections
      connections := d.service.connections + 1 } })) ∨
    ∃ fault service,
      run openCard d = (.error fault, { d with service := { d.service with service } }) := by
  rw [openCard, run_current_bind, run_bind, run_call]
  have hconnect : run (Service.connect d.slot.reader d.slot.config.share d.slot.config.protocols)
      d.service = run (Watched.connect d.slot.reader d.slot.config.share d.slot.config.protocols)
        d.service := rfl
  rw [hconnect]
  unfold run Watched.connect
  cases Service.connect d.slot.reader d.slot.config.share d.slot.config.protocols
      d.service.service with
  | ok _ service => exact Or.inl ⟨service, rfl⟩
  | error fault service =>
    right
    cases fault with
    | noSmartcard => exact ⟨.noCard d.slot.reader, service, rfl⟩
    | _ => exact ⟨_, service, rfl⟩

/-- Without a connection a slot tries to open one. -/
theorem run_connectCard_of_none {d : Docked σ} (h : d.slot.card = none) :
    run connectCard d = if isCallable d.slot.reader then run openCard d
      else (.error (.notFound d.slot.reader), d) := by
  rw [connectCard, run_current_bind, h]
  cases isCallable d.slot.reader <;> rfl

/-- With a connection a slot opens none. -/
theorem run_connectCard_of_some {d : Docked σ} {n : Nat} (h : d.slot.card = some n) :
    run connectCard d = (.ok (), d) := by
  rw [connectCard, run_current_bind, h]
  rfl

/-- Connecting sends nothing, and if it succeeds the slot has a connection. -/
theorem connectCard_went {d : Docked (Watched σ)} (h : d.Agrees) :
    Went [] d (run connectCard d).2 ∧
      ((run connectCard d).1 = .ok () → ∃ n, (run connectCard d).2.slot.card = some n) := by
  cases hcard : d.slot.card with
  | some n =>
    rw [run_connectCard_of_some hcard]
    exact ⟨.refl h, fun _ => ⟨n, hcard⟩⟩
  | none =>
    rw [run_connectCard_of_none hcard]
    split
    · rcases openCard_cases d with ⟨service, hrun⟩ | ⟨fault, service, hrun⟩
      · rw [hrun]
        refine ⟨⟨⟨congrArg some h.opened, congrArg (· + 1) h.opened, ?_⟩,
          (List.append_nil _).symm, Nat.le_succ _, ?_, by simp⟩, fun _ => ⟨_, rfl⟩⟩
        · rintro n ⟨⟩
          exact Nat.lt_succ_self _
        · rintro n ⟨⟩
          exact Or.inr (Nat.le_refl _)
      · rw [hrun]
        refine ⟨⟨⟨h.card, h.opened, h.numbered⟩, (List.append_nil _).symm, Nat.le_refl _,
          fun _ => Or.inl, by simp⟩, nofun⟩
    · exact ⟨.refl h, nofun⟩

omit [Service σ] in
/-- A connection that was ended is off, if the slot had one. -/
theorem disconnected_went {d : Docked (Watched σ)} (h : d.Agrees) (service : σ) :
    Went [] d (disconnected { d with service := { d.service with service, current := none } }) :=
  ⟨⟨rfl, h.opened, nofun⟩, (List.append_nil _).symm, Nat.le_refl _, nofun, by simp⟩

theorem abandon_eq (d : Docked (Watched σ)) :
    ∃ service, abandon d =
      disconnected { d with service := { d.service with service, current := none } } := by
  have hwatched : Service.disconnect d.slot.reader .reset =
      Watched.disconnect (σ := σ) d.slot.reader .reset := rfl
  rw [abandon, hwatched, Watched.disconnect]
  cases Service.disconnect d.slot.reader .reset d.service.service with
  | ok _ service => exact ⟨service, rfl⟩
  | error fault service => exact ⟨service, rfl⟩

theorem abandon_went {d : Docked (Watched σ)} (h : d.Agrees) :
    Went [] d (abandon d) ∧ (abandon d).slot.card = none := by
  obtain ⟨service, heq⟩ := abandon_eq d
  rw [heq]
  exact ⟨disconnected_went h service, rfl⟩

theorem disconnect_went {d : Docked (Watched σ)} (h : d.Agrees) (disposition : Disposition) :
    Went [] d (disconnect disposition d) := by
  have hwatched : Service.disconnect d.slot.reader disposition =
      Watched.disconnect (σ := σ) d.slot.reader disposition := rfl
  rw [disconnect, hwatched, Watched.disconnect]
  cases Service.disconnect d.slot.reader disposition d.service.service with
  | ok _ service => exact disconnected_went h service
  | error fault service =>
    -- The second attempt ends the connection of the slot, whatever comes of it.
    obtain ⟨service', heq⟩ :=
      abandon_eq { d with service := { d.service with service, current := none } }
    dsimp only
    rw [heq]
    exact disconnected_went h service'

theorem disconnectIfAny_went {d : Docked (Watched σ)} (h : d.Agrees) (disposition : Disposition) :
    Went [] d (disconnectIfAny disposition d) := by
  unfold disconnectIfAny
  split
  · exact disconnect_went h disposition
  · exact .refl h

theorem reset_went {d : Docked (Watched σ)} (h : d.Agrees) : Went [] d (run reset d).2 := by
  have hrun : run reset d = run connectCard (disconnectIfAny .reset d) := rfl
  have hended := disconnectIfAny_went h .reset
  rw [hrun]
  exact hended.trans (connectCard_went hended.agrees).1

/-! ### Frames -/

theorem tryConnect_eq_run (d : Docked σ) : tryConnect d = (run connectCard d).2 := by
  unfold tryConnect run
  cases connectCard d <;> rfl

/-- The slot gives the connection up on which a frame came to this. -/
def isOver : Except ServiceFault Bytes → Bool
  | .ok _ => false
  | .error fault => endsConnection fault

/-- The failures by which a frame tells of a lost card: those after which the connection is
given up, and one more. -/
theorem lostCard_iff (fault : ServiceFault) :
    (ReaderFault.service fault).toLinkFault.lostCard = true ↔
      endsConnection fault = true ∨ fault = .noSmartcard := by
  cases fault <;> simp [ReaderFault.toLinkFault, LinkFault.lostCard, endsConnection]

/-- After a failure that ends the connection the slot has none or a new one. Any other failure
changes nothing. -/
theorem recover_went {d : Docked (Watched σ)} (h : d.Agrees) {n : Nat} (hcard : d.slot.card = some n)
    (fault : ServiceFault) : Went [] d (recover fault d) ∧
      ((recover fault d).slot.card = some n ↔ endsConnection fault = false) := by
  unfold recover
  cases hends : endsConnection fault with
  | false => exact ⟨.refl h, fun _ => rfl, fun _ => hcard⟩
  | true =>
    obtain ⟨habandoned, hnone⟩ := abandon_went h
    -- The connection is off, so whatever the slot has then is another one.
    have hoff : ¬ (abandon d).Offers n := by
      have hnumber := Nat.lt_of_lt_of_le (h.numbered n hcard) habandoned.opened
      exact not_offers_iff.mpr ⟨by simp [hnone], hnumber⟩
    have hlater : ∀ {d' : Docked (Watched σ)}, Went [] (abandon d) d' → d'.slot.card ≠ some n :=
      fun hwent hcard' => hoff (hwent.card n hcard')
    rw [if_pos rfl]
    dsimp only
    split
    · have hwent := (connectCard_went habandoned.agrees).1
      rw [tryConnect_eq_run]
      exact ⟨habandoned.trans hwent, fun h => absurd h (hlater hwent), nofun⟩
    · exact ⟨habandoned, fun h => absurd h (hlater (.refl habandoned.agrees)), nofun⟩

/-- A frame that goes out is noted with the connection of the slot, and then its failure is
dealt with. -/
theorem run_exchange_of_connected {d d₁ : Docked (Watched σ)} (frame : Bytes)
    (hconnect : run connectCard d = (.ok (), d₁)) :
    ∃ outcome service,
      let sent : Docked (Watched σ) := { d₁ with service := { d₁.service with
        service
        transmissions := d₁.service.transmissions ++ [⟨d₁.service.current, frame, outcome⟩] } }
      run (exchange frame) d = (outcome.mapError .service, match outcome with
        | .ok _ => sent
        | .error fault => recover fault sent) := by
  rw [exchange, run_bind_of_ok hconnect, run_current_bind, run_bind, run_call]
  have htransmit : run (Service.transmit d₁.slot.reader frame) d₁.service =
      run (Watched.transmit d₁.slot.reader frame) d₁.service := rfl
  rw [htransmit]
  unfold run Watched.transmit
  cases Service.transmit d₁.slot.reader frame d₁.service.service with
  | ok answer service => exact ⟨.ok answer, service, rfl⟩
  | error fault service => exact ⟨.error fault, service, rfl⟩

/-- A frame does not go out, for want of a connection, or it goes out once, over the connection
of the slot or a new one. The slot has that connection afterwards unless it was given up. -/
theorem exchange_cases (frame : Bytes) {d : Docked (Watched σ)} (h : d.Agrees) :
    (∃ fault d', run (exchange frame) d = (.error fault, d') ∧ Went [] d d' ∧
      d.slot.card = none) ∨
    ∃ n outcome d', run (exchange frame) d = (outcome.mapError .service, d') ∧
      Went [⟨some n, frame, outcome⟩] d d' ∧ (∀ m, d.slot.card = some m → m = n) ∧
      n < d'.slot.opened ∧ (d'.slot.card = some n ↔ isOver outcome = false) := by
  obtain ⟨hwent, hconnected⟩ := connectCard_went h
  rcases hconnect : run connectCard d with ⟨fault | ⟨⟩, d₁⟩
  all_goals rw [hconnect] at hwent hconnected
  · refine Or.inl ⟨fault, d₁, ?_, hwent, ?_⟩
    · exact run_bind_of_error hconnect
    · cases hcard : d.slot.card with
      | none => rfl
      | some n =>
        rw [run_connectCard_of_some hcard] at hconnect
        exact nomatch congrArg Prod.fst hconnect
  · right
    obtain ⟨n, hcard⟩ := hconnected rfl
    obtain ⟨outcome, service, hrun⟩ := run_exchange_of_connected frame hconnect
    have hsame : ∀ m, d.slot.card = some m → m = n := by
      intro m hm
      rw [run_connectCard_of_some hm] at hconnect
      obtain rfl : d = d₁ := congrArg Prod.snd hconnect
      exact Option.some.inj (hm.symm.trans hcard)
    have hnumber : n < d₁.slot.opened := hwent.agrees.numbered n hcard
    have hcurrent : d₁.service.current = some n := hwent.agrees.card.symm.trans hcard
    rw [hcurrent] at hrun
    let sent : Docked (Watched σ) := { d₁ with service := { d₁.service with
      service, transmissions := d₁.service.transmissions ++ [⟨some n, frame, outcome⟩] } }
    have hagrees : sent.Agrees := ⟨hwent.agrees.card, hwent.agrees.opened, hwent.agrees.numbered⟩
    have hsent : Went [⟨some n, frame, outcome⟩] d sent := by
      refine hwent.trans ⟨hagrees, rfl, Nat.le_refl _, fun _ => Or.inl, ?_⟩
      exact List.forall_mem_singleton.mpr ⟨n, rfl, Or.inl hcard⟩
    refine ⟨n, outcome, _, hrun, ?_⟩
    cases outcome with
    | ok answer => exact ⟨hsent, hsame, hnumber, fun _ => rfl, fun _ => hcard⟩
    | error fault =>
      obtain ⟨hrecovered, hkept⟩ := recover_went (d := sent) hagrees hcard fault
      refine ⟨hsent.trans hrecovered, hsame, ?_, hkept⟩
      exact Nat.lt_of_lt_of_le hnumber hrecovered.opened

end Slot

end PgpCard
