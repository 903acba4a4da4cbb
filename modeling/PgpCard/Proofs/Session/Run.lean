import PgpCard.Proofs.Session.Parts

/-!
# `PgpCard.Proofs.Session.Run`: what holds all along a run

The life of a session is a list of moves. Mostly its owner asks for something. Between two
requests others may have used the link, so it may be in any state, and the owner may have
exchanged the setup. `Move.run` folds the moves over a bench.

`Steady` lists the steps that all operations are made of. A property that each of them keeps
is kept by every operation (`Steady.perform`), and so it holds all along a run
(`Steady.run`).
-/

set_option autoImplicit false

namespace PgpCard

open Step SessionM

namespace Operation

variable {τ κ : Type} [Link τ]

/-- The operation brings this session up. -/
def BringsUp (b : Bench τ κ) : Operation κ → Prop
  | .connect => True
  | .connectIfNecessary => b.session.isConnected b.link = false
  | _ => False

/-- The operation may give this session descriptors: it brings the session up, or reads the
application data again, or takes over some that is known from elsewhere. -/
def Describes (b : Bench τ κ) : Operation κ → Prop
  | .refresh | .describe _ => True
  | op => op.BringsUp b

end Operation

variable {τ κ : Type}

/-- What can happen to a session and its link: the owner asks for something, others have used
the link, or the owner chooses a different setup. -/
inductive Move (τ κ : Type) where
  | asked (op : Operation κ)
  | linkChanged (link : τ)
  | setupChanged (setup : Setup κ)

variable [Link τ] [Channel κ]

/-- The bench after a move, whatever the outcome of what was asked. -/
def Move.apply (b : Bench τ κ) : Move τ κ → Bench τ κ
  | .asked op => (Operation.step b op).2
  | .linkChanged link => { b with link }
  | .setupChanged setup => b.update fun s => { s with setup }

/-- The bench after a list of moves. -/
def Move.run (b : Bench τ κ) (moves : List (Move τ κ)) : Bench τ κ := moves.foldl Move.apply b

/-- The property is kept by the steps that operations are made of, and by what others do. -/
structure Steady (I : Bench τ κ → Prop) : Prop where
  communicate : ∀ purpose c, (∀ cls, purpose ≠ .verify cls) → purpose ≠ .sign →
    Keeps I (communicate purpose c)
  verify : ∀ cls pin, Keeps I (verify cls pin)
  requestSignature : ∀ digestInfo, Keeps I (requestSignature digestInfo)
  connect : Keeps I connect
  describe : ∀ b a, I b → I (b.update (.describe a))
  installChannel : ∀ b state, I b → I (b.installChannel state)
  clearChannel : ∀ b, I b → I b.clearChannel
  useSignature : ∀ b, I b → I b.useSignature
  dropAdmin : ∀ b, I b → I b.dropAdmin
  teardown : ∀ b, I b → I b.teardown
  link : ∀ b link, I b → I { b with link }
  setup : ∀ b setup, I b → I (b.update fun s => { s with setup })

namespace Steady

variable {I : Bench τ κ → Prop}

theorem serves (h : Steady I) : Serves fun _ step => Keeps I step :=
  { keeps_composable I with
    communicate := fun purpose c hverify hsign _ => h.communicate purpose c hverify hsign
    verify := h.verify
    requestSignature := h.requestSignature
    describe := fun a b hb => h.describe b a hb
    useSignature := h.useSignature
    dropAdmin := h.dropAdmin }

theorem connectIfNecessary (h : Steady I) : Keeps I connectIfNecessary := by
  intro b hb
  rw [SessionM.connectIfNecessary, run_session_bind, run_link_bind]
  split
  · exact hb
  · exact h.connect b hb

/-- Every operation keeps the property, however it ends. -/
theorem perform (h : Steady I) (op : Operation κ) : Keeps I (op.perform (τ := τ)) := by
  cases op with
  | connectIfNecessary => exact h.connectIfNecessary.bind fun u => .pure _
  | connect => exact h.connect.bind fun u => .pure _
  | installChannel state =>
    intro b hb
    exact h.installChannel b state hb
  | clearChannel => exact h.clearChannel
  | teardown => exact h.teardown
  -- All others leave the session up, if it is.
  | _ => exact h.serves.perform rfl

/-- The property holds all along a run that starts with it. -/
theorem run (h : Steady I) (moves : List (Move τ κ)) : ∀ b, I b → I (Move.run b moves) := by
  induction moves with
  | nil =>
    intro b hb
    exact hb
  | cons m moves ih =>
    intro b hb
    -- The rest of the run starts from the bench after the first move.
    apply ih
    cases m with
    | asked op =>
      show I (op.perform.start b).2
      rw [start_eq_run]
      exact h.perform op b hb
    | linkChanged link => exact h.link b link hb
    | setupChanged setup => exact h.setup b setup hb

end Steady

end PgpCard
