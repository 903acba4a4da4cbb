import PgpCard.Proofs.Step
import PgpCard.Session.Exchange

/-!
# `PgpCard.Proofs.Link.Tap`: a link with a tap

A statement about the frames that go to a card needs a link that remembers them. `Tapped τ`
is any link `τ` with such a memory. It does what the link does and decides nothing, so a
statement about all tapped links is a statement about all links.

`frames_transmitPlain` says what one command leaves on the tap: its encoding, if it passes
the check, and nothing if not.
-/

set_option autoImplicit false

namespace PgpCard

open Step

/-- A link, with everything that was exchanged over it. -/
structure Tapped (τ : Type) where
  link : τ
  /-- The frames that went to the link and what came of them, in order. -/
  exchanges : List (Bytes × Except Fault Bytes) := []

namespace Tapped

variable {τ : Type}

/-- The frames that went to the link, in order. -/
def frames (t : Tapped τ) : List Bytes := t.exchanges.map (·.1)

/-- A step of the link behind the tap. -/
def behind {ε α : Type} (step : EStateM ε τ α) : EStateM ε (Tapped τ) α := fun t =>
  match step t.link with
  | .ok a link => .ok a { t with link }
  | .error e link => .error e { t with link }

variable [Link τ]

/-- An exchange is kept, whatever comes of it. -/
def exchange (frame : Bytes) : EStateM Fault (Tapped τ) Bytes := fun t =>
  match Link.exchange frame t.link with
  | .ok answer link => .ok answer ⟨link, t.exchanges ++ [(frame, .ok answer)]⟩
  | .error fault link => .error fault ⟨link, t.exchanges ++ [(frame, .error fault)]⟩

instance : Link (Tapped τ) where
  connect := behind Link.connect
  reset := behind Link.reset
  exchange := exchange
  isConnected t := Link.isConnected t.link
  kind t := Link.kind t.link
  persistent t := Link.persistent t.link
  tokenType? t := Link.tokenType? t.link

/-- The link behind the tap opens as it would without. -/
theorem run_connect (t : Tapped τ) :
    run Link.connect t =
      ((run Link.connect t.link).1, { t with link := (run Link.connect t.link).2 }) := by
  show run (behind Link.connect) t = _
  unfold run behind
  cases Link.connect t.link <;> rfl

/-- The link behind the tap exchanges a frame as it would without, and the tap notes it. -/
theorem run_exchange (frame : Bytes) (t : Tapped τ) :
    run (Link.exchange frame) t =
      ((run (Link.exchange frame) t.link).1, ⟨(run (Link.exchange frame) t.link).2,
        t.exchanges ++ [(frame, (run (Link.exchange frame) t.link).1)]⟩) := by
  show run (exchange frame) t = _
  unfold run exchange
  cases Link.exchange frame t.link <;> rfl

/-- An exchange is on the tap, with what came of it. -/
theorem exchanges_exchange (frame : Bytes) (t : Tapped τ) :
    (run (Link.exchange frame) t).2.exchanges =
      t.exchanges ++ [(frame, (run (Link.exchange frame) t).1)] := by
  rw [run_exchange]

theorem frames_exchange (frame : Bytes) (t : Tapped τ) :
    (run (Link.exchange frame) t).2.frames = t.frames ++ [frame] := by
  rw [frames, exchanges_exchange, List.map_append]
  rfl

end Tapped

namespace Link

variable {τ : Type} [Link τ] {c : Command}

/-- A command that fails its check is an error, and the link is left as it was. -/
theorem run_transmitPlain_of_check_error {fault : CommandFault} (h : c.check = .error fault)
    (link : τ) : run (transmitPlain c) link = (.error (.apdu (.command fault)), link) := by
  unfold run transmitPlain transmit
  rw [h]
  rfl

/-- A command that passes its check is sent, and its answer is read. -/
theorem run_transmitPlain_of_check_ok (h : c.check = .ok ()) (link : τ) :
    run (transmitPlain c) link =
      match run (exchange c.encode) link with
      | (.ok answer, link) => ((Response.decode answer).mapError (.apdu <| .response ·), link)
      | (.error fault, link) => (.error (.apdu fault), link) := by
  unfold run transmitPlain transmit
  rw [h]
  simp only [ofExcept, bind, EStateM.bind, pure, EStateM.pure]
  cases exchange c.encode link with
  | ok answer link =>
    dsimp only
    cases Response.decode answer with
    | ok r => rfl
    | error fault => rfl
  | error fault link => rfl

/-- A command that passes its check puts its encoding on the tap. -/
theorem frames_transmitPlain (h : c.check = .ok ()) (t : Tapped τ) :
    (run (transmitPlain c) t).2.frames = t.frames ++ [c.encode] := by
  rw [run_transmitPlain_of_check_ok h, ← Tapped.frames_exchange]
  rcases run (exchange c.encode) t with ⟨fault | answer, t'⟩ <;> rfl

end Link

end PgpCard
