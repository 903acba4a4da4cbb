import PgpCard.Text.Hex

/-!
# `PgpCard.Apdu.Status`: the two status bytes of an answer

Every answer of a card ends in two bytes, SW1 and SW2. `StatusWord` is that pair, with
the questions that the layers above ask of it: is it `90 00`, does SW1 `61` announce more
bytes, does `63 Cx` carry a retry counter. `description` and `severity` are for people
and for logs; nothing is decided by them.
-/

set_option autoImplicit false

namespace PgpCard

/-- The status bytes that end an answer. -/
structure StatusWord where
  sw1 : UInt8
  sw2 : UInt8
  deriving DecidableEq, Repr

/-- How much attention a status deserves in a log. -/
inductive Severity where
  | debug
  | info
  | warn
  deriving DecidableEq, Repr

/-- The level as it is named in a log. -/
def Severity.label : Severity → String
  | .debug => "DEBUG"
  | .info => "INFO"
  | .warn => "WARN"

namespace StatusWord

/-- The status word of a 16-bit number, SW1 in the high byte. -/
def ofNat (n : Nat) : StatusWord :=
  ⟨UInt8.ofNat (n / 256), UInt8.ofNat n⟩

/-- The status word as a 16-bit number, SW1 in the high byte. -/
def toNat (s : StatusWord) : Nat :=
  s.sw1.toNat * 256 + s.sw2.toNat

/-- Normal completion, `90 00`. -/
def success : StatusWord := ⟨0x90, 0x00⟩

/-- The status is exactly `90 00`. A warning or an announcement of more bytes is not. -/
def isSuccess (s : StatusWord) : Bool :=
  s.sw1 == 0x90 && s.sw2 == 0x00

/-- Bytes that still wait on the card: SW2 under SW1 `61`. There `00` means 256 or more. -/
def remaining? (s : StatusWord) : Option UInt8 :=
  if s.sw1 = 0x61 then some s.sw2 else none

/-- Attempts left after a failed verification: the low half of SW2 in `63 Cx`. -/
def retries? (s : StatusWord) : Option UInt8 :=
  if s.sw1 = 0x63 ∧ s.sw2 / 16 = 0xC then some (s.sw2 % 16) else none

/-- Security condition not satisfied. -/
def securityNotSatisfied : StatusWord := ⟨0x69, 0x82⟩

/-- Authentication method blocked. -/
def authenticationBlocked : StatusWord := ⟨0x69, 0x83⟩

/-- File or application not found. -/
def fileNotFound : StatusWord := ⟨0x6A, 0x82⟩

/-- Wrong length. -/
def wrongLength : StatusWord := ⟨0x67, 0x00⟩

/-- The status words with a name of their own, in numerical order. -/
def named : List StatusWord :=
  [success, wrongLength, ⟨0x68, 0x84⟩, securityNotSatisfied, authenticationBlocked,
    ⟨0x69, 0x85⟩, fileNotFound, ⟨0x6A, 0x88⟩, ⟨0x6D, 0x00⟩, ⟨0x6E, 0x00⟩]

/-- Completions are routine, SW1 `62` and `63` are warnings of the card, all else failed. -/
def severity (s : StatusWord) : Severity :=
  if s.isSuccess || s.sw1 == 0x61 then .debug
  else if s.sw1 == 0x62 || s.sw1 == 0x63 then .info
  else .warn

/-- The meaning of SW2 where SW1 is `68`, `69` or `6A`. -/
def refusalDescription (s : StatusWord) : String :=
  match s.sw1.toNat, s.sw2.toNat with
  | 0x68, 0x81 => "Logical channel not supported"
  | 0x68, 0x82 => "Secure messaging not supported"
  | 0x68, 0x83 => "Last command of the chain expected"
  | 0x68, 0x84 => "Command chaining not supported"
  | 0x69, 0x82 => "Security status not satisfied"
  | 0x69, 0x83 => "Authentication method blocked"
  | 0x69, 0x85 => "Conditions of use not satisfied"
  | 0x69, 0x87 => "Expected secure messaging data objects missing"
  | 0x69, 0x88 => "Secure messaging data objects incorrect"
  | 0x6A, 0x80 => "Incorrect parameters in the data field"
  | 0x6A, 0x82 => "File or application not found"
  | 0x6A, 0x88 => "Referenced data not found"
  | _, _ => "Unknown status word"

/-- What the status says, in words. -/
def description (s : StatusWord) : String :=
  match s.sw1.toNat with
  | 0x61 => "More data available"
  | 0x62 =>
    if s.sw2 = 0x85 then "Selected file in termination state"
    else "Warning, state of non-volatile memory unchanged"
  | 0x63 =>
    if s.retries?.isSome then "Verification failed, retries left in SW2"
    else "Warning, state of non-volatile memory changed"
  | 0x6C => "Wrong Le field"
  | sw1 =>
    match sw1, s.sw2.toNat with
    | 0x90, 0x00 => "Success"
    | 0x64, 0x00 => "Execution error, memory unchanged"
    | 0x65, 0x81 => "Memory failure"
    | 0x66, 0x00 => "Security related issue"
    | 0x67, 0x00 => "Wrong length"
    | 0x6B, 0x00 => "Wrong parameters P1-P2"
    | 0x6D, 0x00 => "Instruction code not supported or invalid"
    | 0x6E, 0x00 => "Class not supported"
    | 0x6F, 0x00 => "No precise diagnosis"
    | _, _ => s.refusalDescription

/-- The status as two pairs of uppercase digits, such as `6A 82`. -/
def render (s : StatusWord) : String :=
  Hex.upper [s.sw1] ++ " " ++ Hex.upper [s.sw2]

end StatusWord

end PgpCard
