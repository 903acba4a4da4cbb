import PgpCard.Reader.Slot

/-!
# `PgpCard.Reader.Manager`: finding readers and opening slots

A `Manager` is a service with the slots that were opened on it. Slots are numbered as they
are opened, and a slot that was given up keeps its number.

`listReaders` shows every reader of the service, in its order. A reader whose status the
service does not tell counts as empty. `choose` picks a reader by a strategy.
-/

set_option autoImplicit false

namespace PgpCard

/-- How to pick a reader. -/
inductive Strategy where
  /-- The one of this name, whether the service knows it or not. -/
  | named (reader : String)
  /-- The first with a card. -/
  | anyCard
  /-- The first with a card whose ATR begins with a pattern. -/
  | atr (pattern : Bytes) (mask : Option Bytes)
  /-- The first. -/
  | first
  deriving DecidableEq, Repr

/-- A service and the slots that were opened on it. -/
structure Manager (σ : Type) where
  service : σ
  /-- The slots by number; those given up are gone. -/
  slots : List (Option Slot) := []

namespace Manager

variable {σ : Type} [Service σ]

/-- A manager on a service that can be used. -/
def new (service : σ) : Except ReaderFault (Manager σ) :=
  match Service.establish service with
  | .ok _ => .ok { service }
  | .error fault => .error (.service fault)

/-- A reader as the service tells of it. -/
def readerOf (service : σ) (name : String) : Reader :=
  match Service.status service name with
  | .ok status => { name, atr := if status.present && !status.empty then some status.atr else none }
  | .error _ => { name, atr := none }

/-- All readers of a service; having none is a failure. -/
def listReaders (service : σ) : Except ReaderFault (List Reader) :=
  match Service.readerNames service with
  | .error .noReadersAvailable => .error .noReaders
  | .error fault => .error (.service fault)
  | .ok [] => .error .noReaders
  | .ok names => .ok (names.map (readerOf service))

/-- The first reader that fits, or a complaint that there is none. -/
def firstReader (service : σ) (fits : Reader → Bool) (complaint : ReaderFault) :
    Except ReaderFault String :=
  match listReaders service with
  | .error fault => .error fault
  | .ok readers =>
    match readers.find? fits with
    | some r => .ok r.name
    | none => .error complaint

/-- The name of the reader that a strategy picks. -/
def choose (service : σ) : Strategy → Except ReaderFault String
  | .named reader => .ok reader
  | .anyCard => firstReader service Reader.hasCard (.noCard "No reader with card found")
  | .atr pattern mask =>
    firstReader service (·.atrFits pattern mask) (.noCard "No card with matching ATR found")
  | .first => firstReader service (fun _ => true) .noReaders

/-- Opens a slot on a reader, and tells its number. -/
def openReader (m : Manager σ) (reader : String) (config : SlotConfig) :
    Except ReaderFault (Nat × Manager σ) :=
  match Slot.new reader config with
  | .error fault => .error fault
  | .ok slot => .ok (m.slots.length, { m with slots := m.slots ++ [some slot] })

/-- Opens a slot on the reader that a strategy picks, and tells the number and the name. -/
def openBy (m : Manager σ) (strategy : Strategy) (config : SlotConfig) :
    Except ReaderFault (Nat × String × Manager σ) :=
  match choose m.service strategy with
  | .error fault => .error fault
  | .ok reader =>
    match m.openReader reader config with
    | .error fault => .error fault
    | .ok (id, m) => .ok (id, reader, m)

/-- A slot that is open, beside the service. -/
def docked? (m : Manager σ) (id : Nat) : Option (Docked σ) :=
  match m.slots[id]? with
  | some (some slot) => some { slot, service := m.service }
  | _ => none

/-- Puts a slot and its service back. -/
def putBack (m : Manager σ) (id : Nat) (d : Docked σ) : Manager σ :=
  { service := d.service, slots := m.slots.set id (some d.slot) }

/-- Does one thing with a slot. Nothing comes of a number that no open slot has. -/
def within {ε α : Type} (m : Manager σ) (id : Nat) (step : EStateM ε (Docked σ) α) :
    Option (Except ε α) × Manager σ :=
  match m.docked? id with
  | none => (none, m)
  | some d =>
    match step d with
    | .ok a d => (some (.ok a), m.putBack id d)
    | .error e d => (some (.error e), m.putBack id d)

/-- Gives a slot up. -/
def release (m : Manager σ) (id : Nat) : Manager σ :=
  match m.docked? id with
  | none => m
  | some d =>
    -- The number stays taken, so that the others keep theirs.
    { service := (Slot.release d).service, slots := m.slots.set id none }

/-- Gives all slots up that are still open, the oldest first. -/
def releaseAll (m : Manager σ) : Manager σ :=
  (List.range m.slots.length).foldl release m

end Manager

end PgpCard
