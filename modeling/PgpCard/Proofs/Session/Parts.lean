import PgpCard.Proofs.Step
import PgpCard.Session.Operation

/-!
# `PgpCard.Proofs.Session.Parts`: an operation by its parts

Operations are put together from exchanges, a few changes of the session, and decisions that
depend on the session and its link. `Composable` lists what a property of steps has to get
along with to pass from steps to sequences of them, and `Serves` lists the steps that carry an
operation. `Serves.perform` is the conclusion for all operations that leave a session up which
is up: they neither bring it up nor are about its channel, and they do not tear it down. `Uses`
leaves out the step that takes over descriptors, and the two operations that need it.

The steps that a bring-up shares with other operations come first. They need less than
`Serves`, since a bring-up in progress has properties of its own. A bring-up has two halves
(`bringUp_eq`): up to the reading of the application data nothing is known of the card, and from
then on it is described.
-/

set_option autoImplicit false

namespace PgpCard

open Step

namespace SessionM

variable {τ κ : Type}

/-- The property passes from steps to sequences of them. An error that a step comes to by
itself tells of no loss of the card. -/
structure Composable (P : (α : Type) → SessionM τ κ α → Prop) : Prop where
  pure : ∀ {α : Type} (a : α), P α (pure a)
  refuse : ∀ {α : Type} {e : Error}, e.lostCard = false → P α (throw e)
  session : P (Session κ) session
  link : P τ link
  bind : ∀ {α β : Type} {step : SessionM τ κ α} {next : α → SessionM τ κ β},
    P α step → (∀ a, P β (next a)) → P β (step >>= next)

/-- What every step keeps, every sequence keeps. -/
theorem keeps_composable (I : Bench τ κ → Prop) :
    Composable (τ := τ) (κ := κ) fun _ step => Keeps I step where
  pure := Keeps.pure
  refuse _ := Keeps.throw _
  session _ hb := hb
  link _ hb := hb
  bind := Keeps.bind

/-! ### The two halves of a bring-up -/

/-- What the exchanges of the first half are for. -/
def readingPurposes : List Purpose := [.probe, .select, .read .applicationData]

/-- Takes application data over, if it makes sense. -/
def takeOver (data : Bytes) : SessionM τ κ Unit :=
  match ApplicationData.decode data with
  | .error fault => throw (.invalidData fault)
  | .ok a => change (·.update (.describe a))

section Halves

variable [Link τ] [Channel κ]

/-- The first half of a bring-up: the family of the token, the selection of the application, and
the reading of its data. -/
def reading : SessionM τ κ Bytes := do
  let t ← identify
  change (·.update fun s => { s with tokenType := some t })
  let r ← communicate .select (← session).setup.commands.selectApplication
  ensure r.isSuccess (.card "Initialization failed" r.status)
  readObject .applicationData

/-- The second half of a bring-up: the descriptors and the key agreement. -/
def settling (data : Bytes) : SessionM τ κ Unit := do
  takeOver data
  change (·.update fun s => { s with pins := .fresh })
  establish

theorem bringUp_eq : bringUp = (reading >>= settling : SessionM τ κ Unit) := by
  unfold bringUp reading settling refresh
  simp only [bind_assoc]
  rfl

end Halves

namespace Composable

variable {P : (α : Type) → SessionM τ κ α → Prop}

theorem ensure (h : Composable P) (condition : Bool) {e : Error} (he : e.lostCard = false) :
    P Unit (ensure condition e) := by
  unfold SessionM.ensure
  split
  · exact h.pure ()
  · exact h.refuse he

theorem payloadOf (h : Composable P) (action : String) (r : Response) :
    P Bytes (payloadOf action r) :=
  h.bind (h.ensure _ rfl) fun _ => h.pure _

/-- Data that makes sense is taken over. -/
theorem takeOver (h : Composable P) (hdescribe : ∀ a, P Unit (change (·.update (.describe a))))
    (data : Bytes) : P Unit (takeOver data) := by
  unfold SessionM.takeOver
  cases ApplicationData.decode data with
  | error fault => exact h.refuse rfl
  | ok a => exact hdescribe a

variable [Link τ] [Channel κ]

theorem readObject (h : Composable P) {tag : ObjectTag}
    (hread : ∀ c, P Response (communicate (.read tag) c)) : P Bytes (readObject tag) :=
  h.bind h.session fun _ => h.bind (hread _) fun _ => h.bind (h.ensure _ rfl) fun _ => h.pure _

/-- The application data is read and then taken over. -/
theorem refresh (h : Composable P)
    (hread : ∀ c, P Response (communicate (.read .applicationData) c))
    (hdescribe : ∀ a, P Unit (change (·.update (.describe a)))) : P Unit refresh :=
  h.bind (h.readObject hread) (h.takeOver hdescribe)

/-- The family of the token may be known without asking, may not matter, or is asked for. -/
theorem identify (h : Composable P) (hprobe : ∀ c, P Response (communicate .probe c)) :
    P TokenType identify := by
  refine h.bind h.link fun link => ?_
  cases Link.tokenType? link with
  | some t => exact h.pure t
  | none =>
    refine h.bind h.session fun s => ?_
    split
    · exact h.bind h.session fun s => h.bind (hprobe _) fun r => h.pure _
    · exact h.pure _

/-- The application is selected and its data is read. -/
theorem reading (h : Composable P)
    (hcommunicate : ∀ purpose ∈ readingPurposes, ∀ c, P Response (communicate purpose c))
    (hname : ∀ t, P Unit (change (·.update fun s => { s with tokenType := some t }))) :
    P Bytes reading := by
  refine h.bind (h.identify (hcommunicate .probe (by decide))) fun t => ?_
  refine h.bind (hname t) fun _ => h.bind h.session fun s => ?_
  refine h.bind (hcommunicate .select (by decide) _) fun r => h.bind (h.ensure _ rfl) fun _ => ?_
  exact h.readObject (hcommunicate (.read .applicationData) (by decide))

/-- What comes before the key agreement has the property `P`, and `Q` passes to what follows
such a step. Then a bring-up has `Q` if the key agreement has it. -/
theorem bringUp (h : Composable P) {Q : SessionM τ κ Unit → Prop}
    (hbind : ∀ {α : Type} {step : SessionM τ κ α} {next : α → SessionM τ κ Unit},
      P α step → (∀ a, Q (next a)) → Q (step >>= next))
    (hcommunicate : ∀ purpose c, purpose ≠ .handshake → P Response (communicate purpose c))
    (hupdate : ∀ f : Session κ → Session κ, (∀ s, (f s).setup = s.setup) →
      P Unit (change (·.update f)))
    (hestablish : Q establish) : Q bringUp := by
  rw [bringUp_eq]
  have hpurposes : ∀ purpose ∈ readingPurposes, purpose ≠ .handshake := by
    rintro purpose hpurpose rfl
    exact absurd hpurpose (by decide)
  have hreading := h.reading (fun purpose hpurpose c => hcommunicate purpose c (hpurposes purpose hpurpose))
    fun t => hupdate _ fun _ => rfl
  refine hbind hreading fun data => ?_
  refine hbind (h.takeOver (fun a => hupdate (.describe a) fun _ => rfl) data) fun _ => ?_
  exact hbind (hupdate (fun s => { s with pins := .fresh }) fun _ => rfl) fun _ => hestablish

/-- The address of the key is one data object. -/
theorem url (h : Composable P) (hread : ∀ c, P Response (communicate (.read .url) c)) :
    P String url :=
  h.bind (h.readObject hread) fun _ => h.pure _

/-- The name of the holder is part of one data object. -/
theorem holder (h : Composable P) (hread : ∀ c, P Response (communicate (.read .cardholder) c)) :
    P String holder :=
  h.bind (h.readObject hread) fun _ => h.pure _

/-- Two data objects are read, and the rest is known. -/
theorem tokenInfo (h : Composable P) (hread : ∀ tag c, P Response (communicate (.read tag) c)) :
    P TokenInfo tokenInfo := by
  refine h.bind h.session fun before => h.bind (h.ensure _ rfl) fun u => ?_
  refine h.bind (h.holder (hread _)) fun name => h.bind (h.url (hread _)) fun address => ?_
  refine h.bind h.session fun after => h.bind h.link fun link => ?_
  split
  · exact h.refuse rfl
  · exact h.pure _

end Composable

/-- The property is one of the steps that operations are made of, up to the one that takes over
descriptors. -/
structure Uses [Link τ] [Channel κ] (P : (α : Type) → SessionM τ κ α → Prop) : Prop
    extends Composable P where
  communicate : ∀ purpose c, (∀ cls, purpose ≠ .verify cls) → purpose ≠ .sign →
    purpose ≠ .handshake → P Response (communicate purpose c)
  verify : ∀ cls pin, P Unit (verify cls pin)
  requestSignature : ∀ digestInfo, P Response (requestSignature digestInfo)
  useSignature : P Unit (change (·.useSignature))
  dropAdmin : P Unit (change (·.dropAdmin))

/-- The property is one of the steps that operations are made of. -/
structure Serves [Link τ] [Channel κ] (P : (α : Type) → SessionM τ κ α → Prop) : Prop
    extends Uses P where
  describe : ∀ a, P Unit (change (·.update (.describe a)))

end SessionM

namespace Operation

variable {κ : Type}

/-- The operation works with the session as it is. The others bring it up or tear it down, or
they are about its channel. -/
def isService : Operation κ → Bool
  | .connectIfNecessary | .connect | .installChannel _ | .clearChannel | .teardown => false
  | _ => true

/-- The operation works with the session as it is, and leaves it its descriptors. -/
def isUse : Operation κ → Bool
  | .refresh | .describe _ => false
  | op => op.isService

end Operation

namespace SessionM

variable {τ κ : Type} [Link τ] [Channel κ] {P : (α : Type) → SessionM τ κ α → Prop}

/-- What the exchange of a verification and its note keep, the verification keeps. -/
theorem keeps_verify {I : Bench τ κ → Prop} {cls : PinClass}
    (hcommunicate : ∀ c, Keeps I (communicate (.verify cls) c))
    (hverified : ∀ b, I b → I (b.update (.noteEvent cls .verified))) (pin : Pin) :
    Keeps I (verify cls pin) := by
  intro b hb
  rw [verify, run_session_bind]
  refine (hcommunicate _).bind (fun _ => (Keeps.ensure _ _).bind fun _ b hb => ?_) b hb
  exact hverified b hb

/-- A signature is noted after its exchange, whatever came of it. -/
theorem keeps_requestSignature {I : Bench τ κ → Prop}
    (hcommunicate : ∀ c, Keeps I (communicate .sign c)) (huse : ∀ b, I b → I b.useSignature)
    (digestInfo : Bytes) : Keeps I (requestSignature digestInfo) := by
  intro b hb
  rw [requestSignature, run_session_bind, run_andThen]
  exact huse _ (hcommunicate _ b hb)

namespace Uses

theorem identify (h : Uses P) : P TokenType identify :=
  h.toComposable.identify fun c => h.communicate .probe c nofun nofun nofun

theorem verifyOwnPin (h : Uses P) (cls : PinClass) : P Unit (verifyOwnPin cls) := by
  refine h.bind h.session fun s => ?_
  split
  · exact h.pure ()
  · cases s.pin with
    | none => exact h.refuse rfl
    | some pin => exact h.verify cls pin

theorem verifyAdmin (h : Uses P) (pin : Pin) : P Unit (verifyAdmin pin) := by
  refine h.bind h.session fun s => ?_
  split
  · exact h.pure ()
  · exact h.verify .admin pin

theorem sign (h : Uses P) (digestInfo : Bytes) : P Bytes (sign digestInfo) :=
  h.bind (h.verifyOwnPin .signature) fun _ =>
    h.bind (h.requestSignature digestInfo) fun r => h.payloadOf _ r

theorem decipher (h : Uses P) (encrypted : Bytes) : P Bytes (decipher encrypted) := by
  refine h.bind (h.verifyOwnPin .other) fun u => ?_
  -- The command depends on the session as the verification has left it.
  refine h.bind h.session fun s => ?_
  exact h.bind (h.communicate .decipher _ nofun nofun nofun) fun r => h.payloadOf _ r

theorem url (h : Uses P) : P String url :=
  h.toComposable.url fun c => h.communicate (.read .url) c nofun nofun nofun

theorem holder (h : Uses P) : P String holder :=
  h.toComposable.holder fun c => h.communicate (.read .cardholder) c nofun nofun nofun

theorem tokenInfo (h : Uses P) : P TokenInfo tokenInfo :=
  h.toComposable.tokenInfo fun tag c => h.communicate (.read tag) c nofun nofun nofun

/-- What the steps have, the operations have. -/
theorem perform (h : Uses P) {op : Operation κ} (hop : op.isUse = true) : P Answer op.perform := by
  cases op with
  | identify => exact h.bind h.identify fun t => h.pure _
  | communicate c => exact h.bind (h.communicate .direct c nofun nofun nofun) fun r => h.pure _
  | verifyOwnPin cls => exact h.bind (h.verifyOwnPin cls) fun u => h.pure _
  | verifyAdmin pin => exact h.bind (h.verifyAdmin pin) fun u => h.pure _
  | useSignature => exact h.bind h.useSignature fun u => h.pure _
  | dropAdmin => exact h.bind h.dropAdmin fun u => h.pure _
  | sign digestInfo => exact h.bind (h.sign digestInfo) fun b => h.pure _
  | decipher encrypted => exact h.bind (h.decipher encrypted) fun b => h.pure _
  | url => exact h.bind h.url fun s => h.pure _
  | holder => exact h.bind h.holder fun s => h.pure _
  | tokenInfo => exact h.bind h.tokenInfo fun i => h.pure _
  | refresh | describe => exact nomatch hop
  | connectIfNecessary | connect | installChannel | clearChannel | teardown => exact nomatch hop

end Uses

/-- What the steps have, the operations have, also those that take over descriptors. -/
theorem Serves.perform (h : Serves P) {op : Operation κ} (hop : op.isService = true) :
    P Answer op.perform := by
  cases op with
  | refresh =>
    refine h.bind (h.toComposable.refresh (fun c => ?_) h.describe) fun u => h.pure _
    exact h.communicate _ c nofun nofun nofun
  | describe data => exact h.bind (h.describe data) fun u => h.pure _
  | _ => exact h.toUses.perform hop

end SessionM

end PgpCard
