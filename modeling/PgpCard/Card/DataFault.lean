/-!
# `PgpCard.Card.DataFault`: card data that cannot be interpreted
-/

set_option autoImplicit false

namespace PgpCard

/-- Why data from the card could not be interpreted. -/
inductive DataFault where
  | emptyHistoricalBytes
  /-- The historical bytes have another category than compact-TLV with status. -/
  | unknownCategory
  /-- The historical bytes end before their three status bytes. -/
  | missingStatusIndicator
  /-- A compact-TLV object is longer than the bytes that are left. -/
  | truncatedObject
  /-- The application related data holds no data object. -/
  | emptyApplicationData
  | missingHistoricalBytes
  | missingPinStatus
  /-- The PW status bytes end before their retry counters. -/
  | shortPinStatus
  /-- Anything else, in words. -/
  | other (detail : String)
  deriving DecidableEq, Repr

/-- The complaint in words. -/
def DataFault.message : DataFault → String
  | .emptyHistoricalBytes => "Empty historical bytes"
  | .unknownCategory => "Invalid historical bytes category indicator byte"
  | .missingStatusIndicator => "Missing status indicator"
  | .truncatedObject => "Truncated compact-TLV object"
  | .emptyApplicationData => "Empty application related data"
  | .missingHistoricalBytes => "Missing historical bytes"
  | .missingPinStatus => "Missing PW status bytes"
  | .shortPinStatus => "PW status bytes too short"
  | .other detail => detail

end PgpCard
