import PgpCard.Error

/-!
# `PgpCard.Proofs.Classification`: what contexts do to the classification of an error

A fault can be wrapped in contexts, to any depth. Three questions are asked of an error: of what
kind it is, whether the card has lost its state, and which status word it carries. The first two
look at the root of a fault, which no context changes. The third looks at the fault itself, so a
single context hides the status word.

`same_class_within_iff` says for which faults and contexts the answers stay the same, and that a
lost card is always an error of the link.
-/

set_option autoImplicit false

namespace PgpCard

namespace Fault

variable (contexts : List String) (f : Fault)

/-- Contexts leave the root as it is. -/
@[simp] theorem root_within : (f.within contexts).root = f.root := by
  induction contexts with
  | nil => rfl
  | cons doing contexts ih => exact ih

@[simp] theorem linkFault?_within : (f.within contexts).linkFault? = f.linkFault? := by
  rw [linkFault?, root_within, linkFault?]

@[simp] theorem isLink_within : (f.within contexts).isLink = f.isLink := by
  rw [isLink, linkFault?_within, isLink]

@[simp] theorem lostCard_within : (f.within contexts).lostCard = f.lostCard := by
  rw [lostCard, linkFault?_within, lostCard]

end Fault

namespace Error

/-- Under a context no status word is seen. -/
theorem statusWord?_within_cons (doing : String) (contexts : List String) (f : Fault) :
    statusWord? (.apdu (f.within (doing :: contexts))) = none := rfl

/-- A lost card is an error of the link, whether the error says so directly or at its root. -/
theorem kind_of_lostCard {e : Error} (h : e.lostCard = true) : e.kind = .link := by
  cases e with
  | link fault => rfl
  | apdu fault =>
    -- Only a fault that is one of the link at its root can have lost the card.
    have hlink : fault.isLink = true := by
      rw [lostCard, Fault.lostCard, Option.any_eq_true] at h
      obtain ⟨l, hl, -⟩ := h
      exact Option.isSome_of_eq_some hl
    rw [kind, if_pos hlink]
  | _ => exact nomatch h

/-- Contexts never change of which kind an error is, nor whether the card has lost its state. They
leave the status word as it is just where there are no contexts or there is no status word: under
one context it is gone. Every error that tells of a lost card is one of the link. -/
theorem same_class_within_iff (contexts : List String) (f : Fault) :
    (kind (.apdu (f.within contexts)) = kind (.apdu f) ∧
      lostCard (.apdu (f.within contexts)) = lostCard (.apdu f)) ∧
    (statusWord? (.apdu (f.within contexts)) = statusWord? (.apdu f) ↔
      contexts = [] ∨ statusWord? (.apdu f) = none) ∧
    ∀ e : Error, e.lostCard = true → e.kind = .link := by
  refine ⟨⟨?_, f.lostCard_within contexts⟩, ?_, fun e => kind_of_lostCard⟩
  · show (if (f.within contexts).isLink then _ else _) = _
    rw [Fault.isLink_within]
    rfl
  · cases contexts with
    | nil => exact ⟨fun _ => Or.inl rfl, fun _ => rfl⟩
    | cons doing contexts =>
      rw [statusWord?_within_cons]
      constructor
      · intro h
        exact Or.inr h.symm
      · rintro (h | h)
        · exact nomatch h
        · exact h.symm

/-- A reset of the card in two contexts. -/
theorem same_class_within_iff_reset :
    let e : Error := .apdu (Fault.within ["reading", "GET DATA"] (.link .cardReset))
    e.lostCard = true ∧ e.kind = .link := by
  intro e
  obtain ⟨⟨-, hlost⟩, -, hkind⟩ :=
    same_class_within_iff ["reading", "GET DATA"] (.link .cardReset)
  have hlost : e.lostCard = true := hlost
  exact ⟨hlost, hkind e hlost⟩

/-- The status word of a refused command is gone once the fault is put in a context, while the kind
of the error stays. -/
theorem status_hidden_by_context :
    let refused : Fault := .response (.status ⟨0x69, 0x82⟩)
    statusWord? (.apdu refused) = some ⟨0x69, 0x82⟩ ∧
      statusWord? (.apdu (refused.within ["reading"])) = none ∧
      kind (.apdu (refused.within ["reading"])) = kind (.apdu refused) := by
  decide

end Error

end PgpCard
