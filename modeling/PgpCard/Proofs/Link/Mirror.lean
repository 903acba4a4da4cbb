import Mathlib.Data.List.Forall2
import PgpCard.Proofs.Link.Sending

/-!
# `PgpCard.Proofs.Link.Mirror`: two links that answer alike

Two links whose states are related can stand for each other if nothing that is done with them
tells them apart. `Mirrors` says so: they look the same, they open alike, and frames that count
as alike come to the same and leave the links related. The frames themselves may differ, as far
as the links do not care about the difference.

`couples_exchangePlain` carries this over from frames to whole exchanges. The two commands
have to go out in framings that agree piece by piece: each piece is refused in both or sent in
frames that are alike (`Paired`). The requests for more depend on the answers only, so they are
the same ones.

`Mirrors.tapped` puts a tap on both links. What the taps show is alike frame by frame.
-/

set_option autoImplicit false

namespace PgpCard

open Step

namespace Link

variable {τ τ' : Type} [Link τ] [Link τ'] {alike : Bytes → Bytes → Prop} {T : τ → τ' → Prop}

/-- Links in related states look the same, and what is done with them comes to the same and leaves
them related, where frames that are alike count as the same. -/
structure Mirrors (alike : Bytes → Bytes → Prop) (T : τ → τ' → Prop) : Prop where
  isConnected : ∀ l l', T l l' → isConnected l = isConnected l'
  kind : ∀ l l', T l l' → kind l = kind l'
  tokenType? : ∀ l l', T l l' → tokenType? l = tokenType? l'
  connect : Couples T connect connect fun _ => T
  exchange : ∀ f f', alike f f' → Couples T (exchange f) (exchange f') fun _ => T

/-- Both commands are refused with the same complaint, or they go out in frames that are alike. -/
structure Paired (alike : Bytes → Bytes → Prop) (c c' : Command) : Prop where
  check : c.check = c'.check
  encode : alike c.encode c'.encode

theorem Paired.refl (halike : ∀ f, alike f f) (c : Command) : Paired alike c c :=
  ⟨rfl, halike c.encode⟩

theorem couples_transmitPlain (h : Mirrors alike T) {c c' : Command} (hc : Paired alike c c') :
    Couples T (transmitPlain c) (transmitPlain c') fun _ => T := by
  intro l l' hl
  cases hcheck : c.check with
  | error fault =>
    rw [run_transmitPlain_of_check_error hcheck,
      run_transmitPlain_of_check_error (hc.check.symm.trans hcheck)]
    exact ⟨rfl, hl⟩
  | ok u =>
    rw [run_transmitPlain_of_check_ok hcheck,
      run_transmitPlain_of_check_ok (hc.check.symm.trans hcheck)]
    obtain ⟨hout, hstill⟩ := h.exchange _ _ hc.encode l l' hl
    rcases hrun : run (exchange c.encode) l with ⟨outcome, l₁⟩
    rcases hrun' : run (exchange c'.encode) l' with ⟨outcome', l₁'⟩
    rw [hrun, hrun'] at hout hstill
    obtain rfl : outcome = outcome' := hout
    cases outcome with
    | error fault => exact ⟨rfl, hstill⟩
    | ok answer => exact ⟨rfl, hstill⟩

/-- Chains that agree segment by segment. The induction is on the segments of both. -/
theorem couples_transmitSegments (h : Mirrors alike T) (total : Nat) {cs cs' : List Command}
    (hcs : List.Forall₂ (Paired alike) cs cs') : ∀ sent,
      Couples T (transmitSegments total sent cs) (transmitSegments total sent cs') fun _ => T := by
  induction hcs with
  | nil =>
    intro sent
    exact .throw _
  | @cons c c' rest rest' hc hrest ih =>
    intro sent
    have hfirst := couples_transmitPlain h hc
    -- The last segment is sent differently, so the rest is looked at as well.
    cases hrest with
    | nil => exact hfirst.seq fun r => .pure _
    | cons hd hrest =>
      refine hfirst.seq fun r => ?_
      by_cases hok : r.isSuccess = true
      · simp only [if_pos hok]
        exact ih (sent + 1)
      · simp only [if_neg hok]
        exact .pure _

theorem couples_transmitFramed (h : Mirrors alike T) {commands : CommandSet}
    {card : CardCapabilities} {c c' : Command} (hfits : commands.fitsShort c = commands.fitsShort c')
    (hcs : List.Forall₂ (Paired alike) (framing commands card c) (framing commands card c')) :
    Couples T (transmitFramed commands card c) (transmitFramed commands card c') fun _ => T := by
  unfold framing at hcs
  unfold transmitFramed
  rw [← hfits] at hcs ⊢
  by_cases hext : card.extendedLength = true
  · simp only [if_pos hext] at hcs ⊢
    exact couples_transmitPlain h (List.forall₂_cons.mp hcs).1
  simp only [if_neg hext] at hcs ⊢
  by_cases hshort : commands.fitsShort c = true
  · simp only [if_pos hshort] at hcs ⊢
    exact couples_transmitPlain h (List.forall₂_cons.mp hcs).1
  simp only [if_neg hshort] at hcs ⊢
  by_cases hchaining : card.chaining = true
  · simp only [if_pos hchaining] at hcs ⊢
    unfold transmitChain
    rw [← hcs.length_eq]
    refine (couples_transmitSegments h _ hcs 0).seq fun outcome => ?_
    cases outcome with
    | completed r => exact .pure r
    | aborted step total status => exact .throw _
  · simp only [if_neg hchaining]
    exact .throw _

/-- The requests for more are the same, since so are the answers. -/
theorem couples_collect (h : Mirrors alike T) (halike : ∀ f, alike f f)
    (getResponse : UInt8 → Command) (limit left : Nat) : ∀ r,
      Couples T (collect getResponse limit left r) (collect getResponse limit left r)
        fun _ => T := by
  induction left with
  | zero =>
    intro r
    rw [collect, collect]
    cases r.status.remaining? with
    | none => exact .pure r
    | some sw2 => exact .throw _
  | succ left ih =>
    intro r
    rw [collect, collect]
    cases r.status.remaining? with
    | none => exact .pure r
    | some sw2 =>
      refine (couples_transmitPlain h (.refl halike _)).seq fun next => ?_
      exact (ih next).seq fun rest => .pure _

/-- What holds of the single frames holds of the exchange. -/
theorem couples_exchangePlain (h : Mirrors alike T) (halike : ∀ f, alike f f)
    {commands : CommandSet} (maxRounds : Nat) {card : CardCapabilities} {c c' : Command}
    (hfits : commands.fitsShort c = commands.fitsShort c')
    (hcs : List.Forall₂ (Paired alike) (framing commands card c) (framing commands card c')) :
    Couples T (exchangePlain commands maxRounds card c) (exchangePlain commands maxRounds card c')
      fun _ => T :=
  (couples_transmitFramed h hfits hcs).seq fun r =>
    couples_collect h halike commands.getResponse maxRounds maxRounds r

/-- With a tap on each, links in related states have taken frames that are alike. -/
def Tapping (alike : Bytes → Bytes → Prop) (T : τ → τ' → Prop) (t : Tapped τ) (t' : Tapped τ') :
    Prop :=
  T t.link t'.link ∧ List.Forall₂ alike t.frames t'.frames

/-- A tap does not tell the links apart. -/
theorem Mirrors.tapped (h : Mirrors alike T) : Mirrors alike (Tapping alike T) where
  isConnected t t' ht := h.isConnected _ _ ht.1
  kind t t' ht := h.kind _ _ ht.1
  tokenType? t t' ht := h.tokenType? _ _ ht.1
  connect t t' ht := by
    obtain ⟨hout, hstill⟩ := h.connect _ _ ht.1
    rw [Tapped.run_connect, Tapped.run_connect]
    exact ⟨hout, hstill, ht.2⟩
  exchange f f' hf t t' ht := by
    obtain ⟨hout, hstill⟩ := h.exchange f f' hf _ _ ht.1
    rw [Tapped.run_exchange, Tapped.run_exchange]
    refine ⟨hout, hstill, ?_⟩
    rw [Tapped.frames, Tapped.frames, List.map_append, List.map_append]
    exact List.rel_append ht.2 (.cons hf .nil)

end Link

end PgpCard
