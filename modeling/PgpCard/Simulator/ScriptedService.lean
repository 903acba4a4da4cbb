import PgpCard.Reader.Service

/-!
# `PgpCard.Simulator.ScriptedService`: a PC/SC service that follows a script

A scripted service stands in for the readers of a machine. Each reader has its own script
for connecting, transmitting and disconnecting. Where several readers have the same name,
that name always means the first. The service keeps a record of the calls that concern
cards.
-/

set_option autoImplicit false

namespace PgpCard.Simulator

/-- A reader of a scripted service. -/
structure ScriptedReader where
  name : String
  present : Bool := false
  empty : Bool := false
  atr : Bytes := []
  /-- What asking for the status fails with. -/
  statusFault : Option ServiceFault := none
  /-- The ATR of a connected card, where it differs from the one in the status. -/
  cardAtr : Option (Except ServiceFault Bytes) := none
  /-- How the next connections end; beyond these they succeed. -/
  connects : List (Option ServiceFault) := []
  /-- What the next frames bring; beyond these they fail. -/
  transmits : List (Except ServiceFault Bytes) := []
  /-- How the next disconnections end; beyond these they succeed. -/
  disconnects : List (Option ServiceFault) := []

/-- A call that concerns a card, and whether it succeeded. -/
inductive Call where
  | connect (reader : String) (share : ShareMode) (protocols : Protocols) (succeeded : Bool)
  | transmit (reader : String) (frame : Bytes)
  | disconnect (reader : String) (disposition : Disposition) (succeeded : Bool)
  deriving DecidableEq, Repr

/-- A PC/SC service that follows a script. -/
structure ScriptedService where
  /-- What using the service fails with. -/
  establishFault : Option ServiceFault := none
  /-- What listing the readers fails with. -/
  listFault : Option ServiceFault := none
  readers : List ScriptedReader := []
  /-- The calls so far, the last one first. -/
  calls : List Call := []

namespace ScriptedService

/-- The most bytes that an answer may have: a full extended answer and some overhead. -/
def maxAnswer : Nat := 65548

/-- The most bytes of an ATR that a status holds. -/
def maxAtr : Nat := 33

/-- The reader of this name. -/
def reader? (s : ScriptedService) (name : String) : Option ScriptedReader :=
  s.readers.find? (·.name == name)

/-- Changes the first reader of this name. -/
def changeFirst (name : String) (f : ScriptedReader → ScriptedReader) :
    List ScriptedReader → List ScriptedReader
  | [] => []
  | r :: rest => if r.name = name then f r :: rest else r :: changeFirst name f rest

/-- Changes the reader of this name. -/
def change (s : ScriptedService) (name : String) (f : ScriptedReader → ScriptedReader) :
    ScriptedService :=
  { s with readers := changeFirst name f s.readers }

/-- Keeps a call. -/
def keep (s : ScriptedService) (call : Call) : ScriptedService :=
  { s with calls := call :: s.calls }

/-- Success, or the failure that the script has. -/
def verdict : Option ServiceFault → Except ServiceFault Unit
  | none => .ok ()
  | some fault => .error fault

/-- The parts of a text before, between and after its zero characters. -/
def partsAtZero : List Char → List (List Char)
  | [] => [[]]
  | c :: rest =>
    if c = Char.ofNat 0 then [] :: partsAtZero rest
    else match partsAtZero rest with
      | part :: parts => (c :: part) :: parts
      | [] => [[c]]

/-- The names that are read from a list of names. The list comes as one text in which each
name is followed by a zero character and an empty name is the end. So a name with zero
characters inside is read as several names, and nothing after an empty one is read. -/
def namesAsRead (names : List String) : List String :=
  let parts := names.flatMap fun name => partsAtZero name.toList
  (parts.takeWhile (!·.isEmpty)).map String.ofList

/-- The names of the readers. -/
def readerNames (s : ScriptedService) : Except ServiceFault (List String) :=
  match s.listFault with
  | some fault => .error fault
  | none =>
    match s.readers with
    | [] => .error .noReadersAvailable
    | readers => .ok (namesAsRead (readers.map (·.name)))

/-- The status of a reader. -/
def status (s : ScriptedService) (name : String) : Except ServiceFault ReaderStatus :=
  match s.reader? name with
  | none => .error .unknownReader
  | some r =>
    match r.statusFault with
    | some fault => .error fault
    | none => .ok { present := r.present, empty := r.empty, atr := r.atr.take maxAtr }

/-- The ATR of the card in a reader. -/
def atr (s : ScriptedService) (name : String) : Except ServiceFault Bytes :=
  match s.reader? name with
  | none => .error .unknownReader
  | some r => r.cardAtr.getD (.ok r.atr)

/-- Connects as the script of the reader has it. -/
def connect (name : String) (share : ShareMode) (protocols : Protocols) :
    EStateM ServiceFault ScriptedService Unit := fun s =>
  match s.reader? name with
  | none => .error .unknownReader (s.keep (.connect name share protocols false))
  | some r =>
    let s := s.change name fun r => { r with connects := r.connects.drop 1 }
    match r.connects.head?.join with
    | none => .ok () (s.keep (.connect name share protocols true))
    | some fault => .error fault (s.keep (.connect name share protocols false))

/-- Answers a frame as the script of the reader has it. -/
def transmit (name : String) (frame : Bytes) : EStateM ServiceFault ScriptedService Bytes :=
  fun s =>
    let kept := s.keep (.transmit name frame)
    match s.reader? name with
    | none => .error .unknownReader kept
    | some r =>
      let s := kept.change name fun r => { r with transmits := r.transmits.drop 1 }
      match r.transmits.head? with
      | none => .error .notTransacted s
      | some (.error fault) => .error fault s
      | some (.ok answer) =>
        if maxAnswer < answer.length then .error .insufficientBuffer s else .ok answer s

/-- Disconnects as the script of the reader has it. -/
def disconnect (name : String) (disposition : Disposition) :
    EStateM ServiceFault ScriptedService Unit := fun s =>
  match s.reader? name with
  | none => .error .unknownReader (s.keep (.disconnect name disposition false))
  | some r =>
    let s := s.change name fun r => { r with disconnects := r.disconnects.drop 1 }
    match r.disconnects.head?.join with
    | none => .ok () (s.keep (.disconnect name disposition true))
    | some fault => .error fault (s.keep (.disconnect name disposition false))

instance : Service ScriptedService where
  establish s := verdict s.establishFault
  readerNames := readerNames
  status := status
  atr := atr
  connect := connect
  transmit := transmit
  disconnect := disconnect

end ScriptedService

end PgpCard.Simulator
