import PgpCard.Proofs.Reader.Watch
import PgpCard.Simulator.ScriptedService

/-!
# `PgpCard.Proofs.Reader.Abandonment`: which connections a slot stops using

When a frame finds the card without its state, the session above forgets what it knew, and
brings the card up again over the slot. It takes the slot as it is if the slot has a
connection. So the slot has to give up a connection on which that happened.

`unused_after_loss_iff` says when it does. Of the three failures that amount to a lost card the
slot gives the connection up after two, a reset and a removal. When the service reports that
there is no card, the slot keeps the connection and goes on using it
(`used_after_no_smartcard`).
-/

set_option autoImplicit false

namespace PgpCard.Slot

open Step Docked

variable {σ : Type} [Service σ]

/-- What can be asked of a slot. -/
inductive Action where
  | connect
  | exchange (frame : Bytes)
  | reset

namespace Action

/-- The slot and its service after an action, whatever came of it. -/
def apply (d : Docked σ) : Action → Docked σ
  | .connect => (Step.run connectCard d).2
  | .exchange frame => (Step.run (Slot.exchange frame) d).2
  | .reset => (Step.run Slot.reset d).2

/-- The slot and its service after a list of actions. -/
def run (d : Docked σ) (actions : List Action) : Docked σ := actions.foldl apply d

end Action

/-- No action uses or takes a connection that is off. -/
theorem apply_went {d : Docked (Watched σ)} (h : d.Agrees) (action : Action) :
    ∃ ts, Went ts d (action.apply d) := by
  cases action with
  | connect => exact ⟨[], (connectCard_went h).1⟩
  | exchange frame =>
    rcases exchange_cases frame h with ⟨fault, d', hrun, hwent, -⟩ | ⟨n, outcome, d', hrun, hwent, -⟩
    all_goals
      have happly : Action.apply d (.exchange frame) = d' := congrArg Prod.snd hrun
      rw [happly]
    · exact ⟨[], hwent⟩
    · exact ⟨_, hwent⟩
  | reset => exact ⟨[], reset_went h⟩

theorem run_went (actions : List Action) : ∀ {d : Docked (Watched σ)}, d.Agrees →
    ∃ ts, Went ts d (Action.run d actions) := by
  induction actions with
  | nil =>
    intro d h
    exact ⟨[], .refl h⟩
  | cons action actions ih =>
    intro d h
    obtain ⟨ts, hfirst⟩ := apply_went h action
    obtain ⟨ts', hrest⟩ := ih hfirst.agrees
    exact ⟨ts ++ ts', hfirst.trans hrest⟩

/-- What a slot does not offer it does not use any more, whatever is asked of it. -/
theorem unused_of_not_offers {d : Docked (Watched σ)} (h : d.Agrees) {n : Nat}
    (hoff : ¬ d.Offers n) (after : List Action) {later : List Transmission}
    (hlater : (Action.run d after).service.transmissions = d.service.transmissions ++ later) :
    ∀ t ∈ later, t.connection ≠ some n := by
  obtain ⟨ts, hwent⟩ := run_went after h
  obtain rfl : ts = later := List.append_cancel_left (hwent.transmissions.symm.trans hlater)
  intro t ht hconnection
  obtain ⟨m, hm, hoffers⟩ := hwent.offered t ht
  obtain rfl : m = n := Option.some.inj (hm.symm.trans hconnection)
  exact hoff hoffers

/-- After whatever was asked of a new slot, a frame goes over a connection and finds the card
without its state. Then that connection is never used again, whatever is asked of the slot,
exactly when the failure was a reset or a removal and not that there is no card. -/
theorem unused_after_loss_iff {reader : String} {config : SlotConfig} {slot : Slot}
    (hslot : Slot.new reader config = .ok slot) (service : σ) (before : List Action)
    (frame : Bytes) {n : Nat} {fault : ServiceFault} :
    let d := Action.run { slot, service := ({ service } : Watched σ) } before
    let d' := Action.apply d (.exchange frame)
    d'.service.transmissions = d.service.transmissions ++ [⟨some n, frame, .error fault⟩] →
    (ReaderFault.service fault).toLinkFault.lostCard = true →
    ((∀ (after : List Action) (later : List Transmission),
        (Action.run d' after).service.transmissions = d'.service.transmissions ++ later →
        ∀ t ∈ later, t.connection ≠ some n) ↔
      fault ≠ .noSmartcard) := by
  intro d d' hsent hlost
  obtain ⟨ts, hbefore⟩ := run_went before (agrees_of_new hslot service)
  rcases exchange_cases frame hbefore.agrees with ⟨_, d₁, hrun, hwent, -⟩ | ⟨m, outcome, d₁, hrun,
    hwent, -, hnumber, hkept⟩
  all_goals obtain rfl : d' = d₁ := congrArg Prod.snd hrun
  · -- The frame did not go out.
    have hnone := List.append_cancel_left (hwent.transmissions.symm.trans hsent)
    exact nomatch hnone
  have hone := List.append_cancel_left (hwent.transmissions.symm.trans hsent)
  obtain ⟨rfl, rfl⟩ : m = n ∧ outcome = .error fault := by simpa using hone
  constructor
  · -- The connection is kept, so one more frame goes over it.
    rintro hunused rfl
    have hcard : d'.slot.card = some m := hkept.mpr rfl
    rcases exchange_cases frame hwent.agrees with ⟨_, d₂, -, -, hnone⟩ | ⟨m', outcome, d₂, hrun',
      hwent', hsame, -⟩
    · exact nomatch hnone.symm.trans hcard
    · obtain rfl := hsame m hcard
      have hafter : Action.run d' [.exchange frame] = d₂ := congrArg Prod.snd hrun'
      have hnever := hunused [.exchange frame] _ (hafter ▸ hwent'.transmissions)
      exact hnever _ List.mem_cons_self rfl
  · -- The connection is given up, and so it is off.
    intro hne after later
    have hends : endsConnection fault = true := ((lostCard_iff fault).mp hlost).resolve_right hne
    have hgone : d'.slot.card ≠ some m := by
      intro hcard
      exact absurd hends (ne_true_of_eq_false (hkept.mp hcard))
    exact unused_of_not_offers hwent.agrees (not_offers_iff.mpr ⟨hgone, hnumber⟩) after

section Reader

open Simulator

/-- A new slot for a reader that fails on the first frame and answers the second one. -/
def failingSlot (fault : ServiceFault) : Docked (Watched ScriptedService) :=
  let service : ScriptedService :=
    { readers := [{ name := "Reader", transmits := [.error fault, .ok [0x90, 0x00]] }] }
  { slot := { reader := "Reader" }, service := { service } }

/-- After a removal the connection is not used any more. -/
theorem unused_after_removal :
    let d' := Action.apply (failingSlot .removedCard) (.exchange [0x00])
    (ReaderFault.service .removedCard).toLinkFault.lostCard = true ∧
      d'.service.transmissions = [⟨some 0, [0x00], .error .removedCard⟩] ∧
      ∀ (after : List Action) (later : List Transmission),
        (Action.run d' after).service.transmissions = d'.service.transmissions ++ later →
        ∀ t ∈ later, t.connection ≠ some 0 := by
  have hnew : Slot.new "Reader" {} = .ok { reader := "Reader" } := rfl
  exact ⟨rfl, rfl, (unused_after_loss_iff hnew _ [] [0x00] rfl rfl).mpr nofun⟩

/-- When there is no card the session above forgets it, and the next frame goes over the same
connection all the same. -/
theorem used_after_no_smartcard :
    (ReaderFault.service .noSmartcard).toLinkFault.lostCard = true ∧
      (Action.run (failingSlot .noSmartcard)
          [.exchange [0x00], .exchange [0x01]]).service.transmissions =
        [⟨some 0, [0x00], .error .noSmartcard⟩, ⟨some 0, [0x01], .ok [0x90, 0x00]⟩] :=
  ⟨rfl, rfl⟩

end Reader

end PgpCard.Slot
