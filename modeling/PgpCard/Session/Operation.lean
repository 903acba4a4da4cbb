import PgpCard.Session.Information

/-!
# `PgpCard.Session.Operation`: everything that a caller can ask of a session

`Operation` lists the requests, and `perform` answers one. A run of a session is a list of
operations, and `runAll` folds it over a bench: an operation that fails leaves its bench
to the next one.
-/

set_option autoImplicit false

namespace PgpCard

/-- A request to a session. -/
inductive Operation (κ : Type) where
  | connectIfNecessary
  | connect
  | identify
  | refresh
  | communicate (command : Command)
  | verifyOwnPin (cls : PinClass)
  | verifyAdmin (pin : Pin)
  /-- Notes that a signature was made. -/
  | useSignature
  /-- Gives the admin verification up. -/
  | dropAdmin
  | sign (digestInfo : Bytes)
  | decipher (encrypted : Bytes)
  | url
  | holder
  | tokenInfo
  /-- Takes application data that is known from elsewhere. -/
  | describe (data : ApplicationData)
  | installChannel (state : κ)
  | clearChannel
  | teardown

/-- What a session answers. -/
inductive Answer where
  | done
  | token (t : TokenType)
  | response (r : Response)
  | bytes (b : Bytes)
  | text (s : String)
  | info (i : TokenInfo)
  deriving DecidableEq, Repr

namespace Operation

variable {τ κ : Type} [Link τ] [Channel κ]

/-- Answers a request. -/
def perform : Operation κ → SessionM τ κ Answer
  | .connectIfNecessary => do SessionM.connectIfNecessary; return .done
  | .connect => do SessionM.connect; return .done
  | .identify => do return .token (← SessionM.identify)
  | .refresh => do SessionM.refresh; return .done
  | .communicate c => do return .response (← SessionM.communicate .direct c)
  | .verifyOwnPin cls => do SessionM.verifyOwnPin cls; return .done
  | .verifyAdmin pin => do SessionM.verifyAdmin pin; return .done
  | .useSignature => do SessionM.change (·.useSignature); return .done
  | .dropAdmin => do SessionM.change (·.dropAdmin); return .done
  | .sign digestInfo => do return .bytes (← SessionM.sign digestInfo)
  | .decipher encrypted => do return .bytes (← SessionM.decipher encrypted)
  | .url => do return .text (← SessionM.url)
  | .holder => do return .text (← SessionM.holder)
  | .tokenInfo => do return .info (← SessionM.tokenInfo)
  | .describe data => do SessionM.change (·.update (.describe data)); return .done
  | .installChannel state => do SessionM.change (·.installChannel state); return .done
  | .clearChannel => do SessionM.change (·.clearChannel); return .done
  | .teardown => do SessionM.change (·.teardown); return .done

/-- The outcome of a request, and the bench after it. -/
def step (b : Bench τ κ) (op : Operation κ) : Except Error Answer × Bench τ κ :=
  op.perform.start b

/-- The bench after a list of requests, whatever their outcomes. -/
def runAll (b : Bench τ κ) (ops : List (Operation κ)) : Bench τ κ :=
  ops.foldl (fun b op => (step b op).2) b

end Operation

end PgpCard
