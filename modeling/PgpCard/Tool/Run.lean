import PgpCard.Reader.Manager
import PgpCard.Session.Operation
import PgpCard.Tool.Arguments
import PgpCard.Tool.HexArgument
import PgpCard.Tool.Report

/-!
# `PgpCard.Tool.Run`: the command line tool over a PC/SC service

`run` answers a command line. It uses the service for as long as the task takes and gives
the slot up at the end, whatever came of the task. Sessions of the tool have the standard
setup, and no secure messaging: the type of their channels is empty.
-/

set_option autoImplicit false

namespace PgpCard.Tool

/-- No channel ever comes about. -/
instance : Channel Empty where
  isEstablished := nofun
  wrap _ := do nomatch ← get
  unwrap _ := do nomatch ← get

/-- What came of a command line. -/
inductive Outcome where
  /-- The command line was not understood, and nothing was done. -/
  | usage
  /-- Something was to be shown, and nothing was done. -/
  | shown (lines : List String)
  /-- The task was done, and this is to be printed. -/
  | success (lines : List String)
  | failure (message : String)
  deriving DecidableEq, Repr

namespace Outcome

/-- The exit code of the tool. -/
def exitCode : Outcome → Nat
  | .usage => 2
  | .shown _ => 0
  | .success _ => 0
  | .failure _ => 1

/-- What the tool prints. -/
def output : Outcome → String
  | .shown lines => Report.text lines
  | .success lines => Report.text lines
  | _ => ""

/-- The complaint, if the task failed. -/
def error? : Outcome → Option String
  | .failure message => some message
  | _ => none

/-- The service was used, so the task was at least begun. -/
def isRun : Outcome → Bool
  | .success _ => true
  | .failure _ => true
  | _ => false

end Outcome

variable {σ : Type} [Service σ]

/-- A session of the tool on a slot. -/
abbrev ToolM (σ : Type) := SessionM (Docked σ) Empty

/-- Shows what the token reports about itself. -/
def showInfo : ToolM σ (List String) := do
  SessionM.connectIfNecessary
  let info ← SessionM.tokenInfo
  let capabilities := (← SessionM.session).application.toList.flatMap Report.capabilities
  return Report.info info ++ capabilities

/-- Verifies PW1 for other operations. -/
def verifyOther : ToolM σ (List String) := do
  SessionM.connectIfNecessary
  SessionM.verifyOwnPin .other
  return [s!"{PinClass.other.name} verified"]

/-- Verifies PW3. -/
def verifyAdmin (pin : Pin) : ToolM σ (List String) := do
  SessionM.connectIfNecessary
  SessionM.verifyAdmin pin
  return [s!"{PinClass.admin.name} verified"]

/-- Signs a digest. -/
def sign (digestInfo : Bytes) : ToolM σ (List String) := do
  SessionM.connectIfNecessary
  let signature ← SessionM.sign digestInfo
  return [s!"Signature: {Hex.lower signature}"]

/-- Deciphers a session key. -/
def decipher (encrypted : Bytes) : ToolM σ (List String) := do
  SessionM.connectIfNecessary
  let key ← SessionM.decipher encrypted
  return [s!"Session key: {Hex.lower key}"]

/-- An action as the PIN that its session has and the step that it is. Data is read before
anything else, so a mistake in it is found before the card is touched. -/
def prepare : Action → Except Hex.Fault (Option Pin × ToolM σ (List String))
  | .info => .ok (none, showInfo)
  | .verifyPin pin false => .ok (some (.ofText pin), verifyOther)
  | .verifyPin pin true => .ok (none, verifyAdmin (.ofText pin))
  | .sign pin data => do
    let digestInfo ← HexArgument.read data
    return (some (.ofText pin), sign digestInfo)
  | .decipher pin data => do
    let encrypted ← HexArgument.read data
    return (some (.ofText pin), decipher encrypted)

/-- Does an action on a slot in a session of its own. -/
def attempt (action : Action) (d : Docked σ) :
    Except Hex.Fault (Except Error (List String) × Bench (Docked σ) Empty) :=
  match prepare action with
  | .error fault => .error fault
  | .ok (pin, step) => .ok (step.start { session := .new {} pin, link := d })

/-- Does an action on a slot, and then gives the slot up. -/
def perform (action : Action) (d : Docked σ) : Outcome × σ :=
  match attempt action d with
  | .error fault => (.failure (HexArgument.message fault), (Slot.release d).service)
  | .ok (.ok lines, b) => (.success lines, (Slot.release b.link).service)
  | .ok (.error e, b) => (.failure e.message, (Slot.release b.link).service)

/-- The name of the reader to use: the one asked for, or the first with a card. -/
def pickReader (service : σ) (wanted : Option String) : Except String String :=
  match Manager.listReaders service with
  | .error fault => .error fault.message
  | .ok readers =>
    match wanted with
    | some name =>
      if readers.any (·.name == name) then .ok name else .error s!"Reader '{name}' not found"
    | none =>
      match readers.find? Reader.hasCard with
      | some r => .ok r.name
      | none => .error "No card found in any reader!"

/-- Does an action with the token in a reader. -/
def onToken (service : σ) (wanted : Option String) (action : Action) : Outcome × σ :=
  match pickReader service wanted with
  | .error message => (.failure message, service)
  | .ok reader =>
    match Slot.new reader {} with
    | .error fault => (.failure fault.message, service)
    | .ok slot => perform action { slot, service }

/-- Lists the readers. -/
def list (service : σ) : Outcome :=
  match Manager.listReaders service with
  | .error fault => .failure fault.message
  | .ok readers => .success (Report.readers readers)

/-- Does a task, if the service can be used. -/
def doTask (service : σ) (task : Task) : Outcome × σ :=
  match Service.establish service with
  | .error fault => (.failure (ReaderFault.service fault).message, service)
  | .ok _ =>
    match task with
    | .list => (list service, service)
    | .token wanted action => onToken service wanted action

/-- Answers a command line. -/
def run (service : σ) (args : List String) : Outcome × σ :=
  match Request.ofArguments args with
  | .usage => (.usage, service)
  | .help => (.shown Report.help, service)
  | .version => (.shown Report.version, service)
  | .task task => doTask service task

end PgpCard.Tool
