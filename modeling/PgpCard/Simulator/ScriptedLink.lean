import PgpCard.Link

/-!
# `PgpCard.Simulator.ScriptedLink`: a link that follows a script

A scripted link stands in for a card. Its script says what each exchange brings and how
each opening of the channel ends. It keeps the frames that reached it.
-/

set_option autoImplicit false

namespace PgpCard.Simulator

/-- What one exchange brings. -/
inductive Turn where
  | answer (bytes : Bytes)
  /-- The exchange fails; with `disconnects` the channel closes before. -/
  | failure (fault : Fault) (disconnects : Bool)
  deriving DecidableEq, Repr

/-- A link that follows a script. -/
structure ScriptedLink where
  connected : Bool := false
  persistent : Bool := true
  kind : LinkKind := .usbCcid
  tokenType : Option TokenType := none
  /-- How the next openings end; beyond these they succeed. -/
  openings : List (Option Fault) := []
  /-- What the next exchanges bring; beyond these they fail. -/
  turns : List Turn := []
  /-- The frames that were sent, the last one first. -/
  frames : List Bytes := []
  /-- How often the channel was opened or should have been. -/
  attempts : Nat := 0
  deriving DecidableEq, Repr

namespace ScriptedLink

/-- Opens the channel, as the script has it. -/
def connect : EStateM Fault ScriptedLink Unit := fun l =>
  let attempted := { l with attempts := l.attempts + 1, openings := l.openings.drop 1 }
  match l.openings with
  | some fault :: _ => .error fault attempted
  | _ => .ok () { attempted with connected := true }

/-- Takes a frame, if the channel is open, and answers as the script has it. -/
def exchange (frame : Bytes) : EStateM Fault ScriptedLink Bytes := fun l =>
  if l.connected then
    let sent := { l with frames := frame :: l.frames, turns := l.turns.drop 1 }
    match l.turns with
    | [] => .error (.link .transmission) sent
    | .answer bytes :: _ => .ok bytes sent
    | .failure fault disconnects :: _ =>
      .error fault { sent with connected := !disconnects }
  else .error (.link .connection) l

/-- Resetting a scripted link does nothing. -/
instance : Link ScriptedLink where
  connect := connect
  reset := pure ()
  exchange := exchange
  isConnected l := l.connected
  kind l := l.kind
  persistent l := l.persistent
  tokenType? l := l.tokenType

end ScriptedLink

end PgpCard.Simulator
