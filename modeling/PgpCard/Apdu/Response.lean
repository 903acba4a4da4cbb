import PgpCard.Apdu.Status

/-!
# `PgpCard.Apdu.Response`: answers of the card

An answer is a payload followed by the two status bytes. An answer put together from
several fragments has the payloads of all of them and the status of the last one.
-/

set_option autoImplicit false

namespace PgpCard

/-- An answer of the card. -/
structure Response where
  data : Bytes
  status : StatusWord
  deriving DecidableEq, Repr

/-- What is wrong with an answer. -/
inductive ResponseFault where
  /-- Fewer bytes than a status word has. -/
  | incomplete
  /-- The payload could not be read. -/
  | parse (detail : String)
  /-- The card answered with another status than `90 00`. -/
  | status (sw : StatusWord)
  deriving DecidableEq, Repr

namespace ResponseFault

/-- The complaint in words. -/
def message : ResponseFault → String
  | .incomplete => "Incomplete response"
  | .parse detail => s!"Parse error: {detail}"
  | .status sw => s!"Status error {sw.render}: {sw.description}"

/-- The complaint as a name for machines. -/
def label : ResponseFault → String
  | .incomplete => "Response.Incomplete"
  | .parse _ => "Response.Parse"
  | .status _ => "Response.Status"

/-- The status word behind the complaint, if there is one. -/
def statusWord? : ResponseFault → Option StatusWord
  | .status sw => some sw
  | _ => none

end ResponseFault

namespace Response

/-- An answer without payload. -/
def ofStatus (sw : StatusWord) : Response := ⟨[], sw⟩

/-- A payload under the status `90 00`. -/
def ofData (data : Bytes) : Response := ⟨data, .success⟩

/-- The status is exactly `90 00`. -/
def isSuccess (r : Response) : Bool := r.status.isSuccess

/-- The bytes of the answer, status last. -/
def encode (r : Response) : Bytes := r.data ++ [r.status.sw1, r.status.sw2]

/-- Reads an answer: the last two bytes are the status, all before them the payload. -/
def decode (answer : Bytes) : Except ResponseFault Response :=
  let length := answer.length - 2
  match answer.drop length with
  | [sw1, sw2] => .ok ⟨answer.take length, ⟨sw1, sw2⟩⟩
  | _ => .error .incomplete

/-- The payload of a successful answer. -/
def toExcept (r : Response) : Except ResponseFault Bytes :=
  if r.isSuccess then .ok r.data else .error (.status r.status)

end Response

end PgpCard
