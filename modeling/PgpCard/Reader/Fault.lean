import PgpCard.Apdu.Fault
import PgpCard.Reader.ServiceFault

/-!
# `PgpCard.Reader.Fault`: why something with a reader failed

A failure comes from the PC/SC service, or from a look at its readers. Seen from above it
is a failure of the link to the card, and `toLinkFault` says which. Four codes of the
service mean something there; the others remain numbers.
-/

set_option autoImplicit false

namespace PgpCard

/-- Why something with a reader failed. -/
inductive ReaderFault where
  | service (fault : ServiceFault)
  | noReaders
  /-- There is no reader of this name. -/
  | notFound (reader : String)
  /-- There is no card, for the reason or in the reader given. -/
  | noCard (detail : String)
  deriving DecidableEq, Repr

namespace ReaderFault

/-- The failure in words. -/
def message : ReaderFault → String
  | .service fault => s!"PC/SC error: {fault.message}"
  | .noReaders => "No readers available"
  | .notFound reader => s!"Reader not found: {reader}"
  | .noCard detail => s!"No card present in reader: {detail}"

/-- The failure as a name for machines. -/
def label : ReaderFault → String
  | .service fault => "Pcsc." ++ fault.name
  | .noReaders => "NoReadersAvailable"
  | .notFound _ => "ReaderNotFound"
  | .noCard _ => "NoCard"

/-- The failure of the link that it amounts to. -/
def toLinkFault : ReaderFault → LinkFault
  | .service .noSmartcard => .noCard
  | .service .removedCard => .cardRemoved
  | .service .resetCard => .cardReset
  | .service .timeout => .timeout
  | .service fault => .driver fault.code
  | .noCard _ => .noCard
  | .noReaders => .device
  | .notFound _ => .device

/-- The failure of an exchange that it amounts to. -/
def toFault (f : ReaderFault) : Fault := .link f.toLinkFault

end ReaderFault

end PgpCard
