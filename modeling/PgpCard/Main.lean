import PgpCard.Tool.Run

/-!
# `PgpCard.Main`: the program

The program answers its command line on a machine whose PC/SC service is not running: no
native library is linked in here. Everything that needs a reader says so and fails.
-/

set_option autoImplicit false

namespace PgpCard

/-- A PC/SC service that is not running. -/
inductive StoppedService where
  | stopped

/-- Every call to a service that is not running fails. -/
instance : Service StoppedService where
  establish _ := .error .noService
  readerNames _ := .error .noService
  status _ _ := .error .noService
  atr _ _ := .error .noService
  connect _ _ _ := throw .noService
  transmit _ _ := throw .noService
  disconnect _ _ := throw .noService

end PgpCard

/-- Answers the command line: prints what there is to print, and complains on the standard
error stream. -/
def main (args : List String) : IO UInt32 := do
  let outcome := (PgpCard.Tool.run PgpCard.StoppedService.stopped args).1
  IO.print outcome.output
  match outcome with
  | .usage => IO.eprint (PgpCard.Tool.Report.text PgpCard.Tool.Report.help)
  | .failure message => IO.eprintln s!"Error: {message}"
  | _ => pure ()
  return UInt32.ofNat outcome.exitCode
