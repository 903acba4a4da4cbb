import PgpCard.Proofs.Link.Framing
import PgpCard.Proofs.Link.ShortForm
import PgpCard.Proofs.Session.Loss
import PgpCard.Simulator.ToyChannel

/-!
# `PgpCard.Proofs.Session.Refusal`: commands that the host refuses

A command that no frame can hold is refused by the host itself: it fails its check, with a
command fault. What the card has seen by then depends on the framing, since the check is made
for each frame by itself. A command that goes out in one frame is checked before anything is
sent. In a chain it is the last segment that inherits the expected length of the command, so an
expected length of zero comes to light when all the others have been sent, and the card is
left in the middle of the chain.

`sent_of_refused` says this of every exchange that fails with a command fault. A link can also
report such a fault by itself, and then the fault is on its tap. `Blames` is what every step has
that sends only valid commands: a command fault in its outcome is one that the link has
reported. It passes from the single frames to the requests for more, which are always valid.
A framing is valid up to its last command (`refused_transmitSegments`).
-/

set_option autoImplicit false

namespace PgpCard

open Step Command

namespace Fault

/-- The complaint about the command that this fault is at its root, if it is one. -/
def complaint? (f : Fault) : Option CommandFault :=
  match f.root with
  | .command complaint => some complaint
  | _ => none

/-- The command is at fault, under whatever contexts. -/
def isCommand (f : Fault) : Bool := f.complaint?.isSome

/-- A fault of the command does not tell that the card is lost. -/
theorem lostCard_of_isCommand {f : Fault} (h : f.isCommand = true) : f.lostCard = false := by
  unfold isCommand complaint? at h
  unfold lostCard linkFault?
  cases hroot : f.root with
  | command complaint => rfl
  | _ =>
    rw [hroot] at h
    exact nomatch h

end Fault

/-- The complaint about the command with which an exchange has failed, if it has. -/
def Outcome.complaint? {α : Type} : Except Error α → Option CommandFault
  | .error (.apdu fault) => fault.complaint?
  | _ => none

/-- A complaint is that of the fault with which the exchange has failed. -/
theorem Outcome.eq_of_complaint? {α : Type} {o : Except Error α} {complaint : CommandFault}
    (h : Outcome.complaint? o = some complaint) :
    ∃ fault, o = .error (.apdu fault) ∧ fault.complaint? = some complaint := by
  unfold Outcome.complaint? at h
  split at h
  · exact ⟨_, rfl, h⟩
  · exact nomatch h

namespace Command

/-- All segments of a chain but the last are valid, whatever the command asks for. The last one
asks for what the command does. -/
theorem segments_eq_append (short : Command) (data : Bytes) : ∃ front last,
    segments short data = front ++ [last] ∧ (∀ s ∈ front, s.check = .ok ()) ∧
    (maxShortNc < data.length → front ≠ []) ∧ last.nc ≤ maxShortNc ∧ last.le = short.le := by
  induction data using segments_induction with
  | last data hlength =>
    refine ⟨[], { short with data := some data }, segments_of_length_le short hlength, by simp,
      fun h => absurd hlength (Nat.not_le.mpr h), hlength, rfl⟩
  | further data hlength ih =>
    obtain ⟨front, last, hsegments, hvalid, -, hnc, hle⟩ := ih
    refine ⟨short.segment (data.take maxShortNc) :: front, last, ?_, ?_,
      fun _ => List.cons_ne_nil _ _, hnc, hle⟩
    · rw [segments_of_lt_length short hlength, hsegments]
      rfl
    · exact List.forall_mem_cons.mpr ⟨check_segment short data, hvalid⟩

/-- What is wrong with a clamped command that has little data can only be that it expects an
answer of no bytes. -/
theorem check_clamped_eq_error {c s : Command} {fault : CommandFault}
    (h : s.check = .error fault) (hnc : s.nc ≤ maxShortNc) (hle : s.le = c.toShort.le) :
    c.le = some 0 ∧ fault = .expectedLengthOutOfRange 0 := by
  have hdata : ¬maxExtendedNc < s.nc := Nat.not_lt.mpr (Nat.le_trans hnc (by decide))
  rw [check, if_neg hdata, hle, toShort] at h
  cases hasked : c.le with
  | none =>
    rw [hasked] at h
    cases h
  | some le =>
    rw [hasked, Option.map_some] at h
    dsimp only at h
    split at h
    · rename_i hrange
      obtain rfl : le = 0 := by
        unfold maxShortNe maxExtendedNe at hrange
        omega
      exact ⟨rfl, (Except.error.inj h).symm⟩
    · cases h

end Command

namespace Link

variable {τ : Type}

/-- Where the step ends in a command fault, the link has reported that fault for one of the
frames that it was sent. -/
def Blames {α : Type} (step : EStateM Error (Tapped τ) α) : Prop :=
  ∀ t, ∃ new, (run step t).2.exchanges = t.exchanges ++ new ∧
    ∀ fault, (run step t).1 = .error (.apdu fault) → fault.isCommand = true →
      ∃ frame, (frame, .error fault) ∈ new

theorem additive_blames : Additive fun _ new o => ∀ fault, o = .error (.apdu fault) →
    fault.isCommand = true → ∃ frame, (frame, .error fault) ∈ new where
  pure _ := nofun
  giveUp he := by
    rintro fault ⟨⟩
    exact nomatch he
  stop hblame fault h := hblame fault (congrArg Except.error (Except.error.inj h))
  goOn _ hblame fault h hfault := by
    obtain ⟨frame, hframe⟩ := hblame fault h hfault
    exact ⟨frame, List.mem_append_right _ hframe⟩

theorem blames_composable : Composable (τ := Tapped τ) fun _ step => Blames step :=
  additive_blames.composable

variable [Link τ]

/-- The host does not refuse a valid command. -/
theorem transmitPlain_blames {c : Command} (h : c.check = .ok ()) :
    Blames (τ := τ) (transmitPlain c) := by
  refine adds_transmitPlain (Φ := fun _ new o => ∀ fault, o = .error (.apdu fault) →
    fault.isCommand = true → ∃ frame, (frame, .error fault) ∈ new)
    (fun fault hrefused => nomatch h.symm.trans hrefused) ?_ ?_
  · rintro fault fault' ⟨⟩ -
    exact ⟨c.encode, List.mem_singleton_self _⟩
  · intro answer fault hfault hcommand
    -- An answer that cannot be read is the fault of the answer.
    cases hdecode : Response.decode answer with
    | ok r =>
      rw [hdecode] at hfault
      exact nomatch hfault
    | error e =>
      rw [hdecode] at hfault
      obtain rfl : Fault.response e = fault := Error.apdu.inj (Except.error.inj hfault)
      exact nomatch hcommand

/-- What the tap shows of a step that has ended in a command fault: the link has reported that
fault, or these frames have gone out and the host has refused what should follow them. -/
def Refused (frames : List Bytes) (refusal : CommandFault → Prop) (fault : Fault)
    (t t' : Tapped τ) : Prop :=
  ∃ new, t'.exchanges = t.exchanges ++ new ∧
    ((∃ frame, (frame, .error fault) ∈ new) ∨
      new.map Prod.fst = frames ∧ ∃ complaint, fault = .command complaint ∧ refusal complaint)

omit [Link τ] in
theorem Refused.mono {frames : List Bytes} {refusal refusal' : CommandFault → Prop} {fault : Fault}
    {t t' : Tapped τ} (h : Refused frames refusal fault t t')
    (himp : ∀ complaint, refusal complaint → refusal' complaint) :
    Refused frames refusal' fault t t' := by
  obtain ⟨new, hnew, hblame | ⟨hframes, complaint, hfault, hrefusal⟩⟩ := h
  · exact ⟨new, hnew, Or.inl hblame⟩
  · exact ⟨new, hnew, Or.inr ⟨hframes, complaint, hfault, himp complaint hrefusal⟩⟩

/-- A single command that fails with a command fault was not sent, unless the link has reported
the fault. -/
theorem refused_transmitPlain {c : Command} {t t' : Tapped τ} {fault : Fault}
    (h : run (transmitPlain c) t = (.error (.apdu fault), t')) (hfault : fault.isCommand = true) :
    Refused [] (c.check = .error ·) fault t t' := by
  cases hcheck : c.check with
  | ok u =>
    obtain ⟨new, hnew, hblame⟩ := transmitPlain_blames hcheck t
    rw [h] at hnew hblame
    exact ⟨new, hnew, Or.inl (hblame fault rfl hfault)⟩
  | error complaint =>
    rw [run_transmitPlain_of_check_error hcheck] at h
    obtain ⟨hout, rfl⟩ := Prod.mk.inj h
    obtain rfl : Fault.command complaint = fault := Error.apdu.inj (Except.error.inj hout)
    exact ⟨[], (List.append_nil _).symm, Or.inr ⟨rfl, complaint, rfl, rfl⟩⟩

/-- A chain that fails with a command fault has come to its last segment, unless the link has
reported the fault. The induction is on the valid segments before it. -/
theorem refused_transmitSegments (total : Nat) {last : Command} {t' : Tapped τ} {fault : Fault}
    (hfault : fault.isCommand = true) {front : List Command} :
    ∀ (sent : Nat) (t : Tapped τ), (∀ s ∈ front, s.check = .ok ()) →
      run (transmitSegments total sent (front ++ [last])) t = (.error (.apdu fault), t') →
      Refused (front.map encode) (last.check = .error ·) fault t t' := by
  induction front with
  | nil =>
    intro sent t _ h
    rcases hrun : run (transmitPlain last) t with ⟨e | r, t₁⟩
    · have hall : run (transmitSegments total sent [last]) t = (.error e, t₁) :=
        run_bind_of_error hrun
      obtain ⟨hout, rfl⟩ := Prod.mk.inj (hall.symm.trans h)
      obtain rfl := Except.error.inj hout
      exact refused_transmitPlain hrun hfault
    · have hall : run (transmitSegments total sent [last]) t = (.ok (.completed r), t₁) :=
        run_bind_of_ok hrun
      cases (Prod.mk.inj (hall.symm.trans h)).1
  | cons c front ih =>
    intro sent t hvalid h
    obtain ⟨hc, hfront⟩ := List.forall_mem_cons.mp hvalid
    -- The segment is not the last one, so there is a next one.
    obtain ⟨d, rest, hrest⟩ : ∃ d rest, front ++ [last] = d :: rest :=
      List.exists_cons_of_ne_nil (by simp)
    rw [List.cons_append, hrest] at h
    obtain ⟨new, hnew, hblame⟩ := transmitPlain_blames hc t
    rcases hrun : run (transmitPlain c) t with ⟨e | r, t₁⟩
    · have hall : run (transmitSegments total sent (c :: d :: rest)) t = (.error e, t₁) :=
        run_bind_of_error hrun
      obtain ⟨hout, rfl⟩ := Prod.mk.inj (hall.symm.trans h)
      rw [hrun] at hnew hblame
      obtain rfl := Except.error.inj hout
      exact ⟨new, hnew, Or.inl (hblame fault rfl hfault)⟩
    · have hall : run (transmitSegments total sent (c :: d :: rest)) t =
          run (if r.isSuccess then transmitSegments total (sent + 1) (d :: rest)
            else pure (.aborted (sent + 1) total r.status)) t₁ := run_bind_of_ok hrun
      rw [hall] at h
      by_cases hok : r.isSuccess = true
      · rw [if_pos hok, ← hrest] at h
        rw [hrun] at hnew
        obtain ⟨new', hnew', hrefused⟩ := ih (sent + 1) t₁ hfront h
        refine ⟨new ++ new', by rw [hnew', hnew, List.append_assoc], ?_⟩
        rcases hrefused with ⟨frame, hframe⟩ | ⟨hframes, hcomplaint⟩
        · exact Or.inl ⟨frame, List.mem_append_right new hframe⟩
        · refine Or.inr ⟨?_, hcomplaint⟩
          -- The segment is all that was sent so far.
          have hfirst : new.map Prod.fst = [c.encode] := by
            have hall := frames_transmitPlain hc t
            rw [hrun, Tapped.frames, hnew, List.map_append] at hall
            exact List.append_cancel_left hall
          rw [List.map_append, hfirst, hframes]
          rfl
      · rw [if_neg hok] at h
        cases (Prod.mk.inj h).1

/-- What a complaint about a command in its framing says of the command. It comes before anything
is sent just if there is one frame only, and later only about an answer of no bytes. -/
structure Explains (card : CardCapabilities) (c : Command) (complaint : CommandFault) : Prop where
  early : (framing .standard card c).dropLast = [] ↔
    card.extendedLength = true ∨ c.nc ≤ maxShortNc
  late : (framing .standard card c).dropLast ≠ [] →
    c.le = some 0 ∧ complaint = .expectedLengthOutOfRange 0

/-- A command in its framing that fails with a command fault has sent all of its frames but the
last, unless the link has reported the fault. -/
theorem refused_transmitFramed {card : CardCapabilities} {c : Command} {t t' : Tapped τ}
    {fault : Fault} (hfault : fault.isCommand = true)
    (h : run (transmitFramed .standard card c) t = (.error (.apdu fault), t')) :
    Refused ((framing .standard card c).dropLast.map encode) (Explains card c) fault t t' := by
  -- The one frame of a command is the last one.
  have hsingle : ∀ {s : Command}, framing .standard card c = [s] →
      card.extendedLength = true ∨ c.nc ≤ maxShortNc →
      run (transmitPlain s) t = (.error (.apdu fault), t') →
      Refused ((framing .standard card c).dropLast.map encode) (Explains card c) fault t t' := by
    intro s hframing hone hs
    have hnone : (framing .standard card c).dropLast = [] := by rw [hframing]; rfl
    rw [hnone]
    exact (refused_transmitPlain hs hfault).mono fun _ _ =>
      ⟨iff_of_true hnone hone, fun hlate => absurd hnone hlate⟩
  unfold transmitFramed at h
  by_cases hext : card.extendedLength = true
  · rw [if_pos hext] at h
    exact hsingle (if_pos hext) (Or.inl hext) h
  rw [if_neg hext] at h
  by_cases hfits : CommandSet.standard.fitsShort c = true
  · rw [if_pos hfits] at h
    exact hsingle ((if_neg hext).trans (if_pos hfits)) (Or.inr (of_decide_eq_true hfits)) h
  rw [if_neg hfits] at h
  have hlong : ¬c.nc ≤ maxShortNc := fun hnc => hfits (decide_eq_true hnc)
  by_cases hchaining : card.chaining = true
  · rw [if_pos hchaining] at h
    obtain ⟨front, last, hsegments, hvalid, hfront, hnc, hle⟩ :=
      segments_eq_append c.toShort c.payload
    have hchain : CommandSet.standard.chain c = front ++ [last] := (if_neg hlong).trans hsegments
    have hframing : framing .standard card c = front ++ [last] := by
      rw [framing, if_neg hext, if_neg hfits, if_pos hchaining, hchain]
    rw [transmitChain, hchain] at h
    rcases hrun : run (transmitSegments (front ++ [last]).length 0 (front ++ [last])) t
      with ⟨e | outcome, t₁⟩
    · rw [run_bind_of_error hrun] at h
      obtain ⟨hout, rfl⟩ := Prod.mk.inj h
      obtain rfl := Except.error.inj hout
      have hdrop : (framing .standard card c).dropLast = front := by
        rw [hframing, List.dropLast_concat]
      rw [hdrop]
      refine (refused_transmitSegments _ hfault 0 t hvalid hrun).mono fun _ hcomplaint =>
        ⟨iff_of_false ?_ ?_, fun _ => check_clamped_eq_error hcomplaint hnc hle⟩
      · rw [hdrop]
        exact hfront (Nat.not_le.mp hlong)
      · exact not_or.mpr ⟨hext, hlong⟩
    · -- A refused segment is an error of its own.
      rw [run_bind_of_ok hrun] at h
      cases outcome <;> exact nomatch (Prod.mk.inj h).1
  · rw [if_neg hchaining] at h
    exact nomatch (Prod.mk.inj h).1

/-- An exchange that fails with a command fault has not come to the requests for more, unless
the link has reported the fault. -/
theorem refused_exchangePlain {card : CardCapabilities} {c : Command} {maxRounds : Nat}
    {t t' : Tapped τ} {fault : Fault} (hfault : fault.isCommand = true)
    (h : run (exchangePlain .standard maxRounds card c) t = (.error (.apdu fault), t')) :
    Refused ((framing .standard card c).dropLast.map encode) (Explains card c) fault t t' := by
  unfold exchangePlain at h
  rcases hrun : run (transmitFramed .standard card c) t with ⟨e | r, t₁⟩
  · rw [run_bind_of_error hrun] at h
    exact refused_transmitFramed hfault (hrun.trans h)
  · rw [run_bind_of_ok hrun] at h
    obtain ⟨sent, hsent, -⟩ :=
      counted_composable.transmitFramed (fun s _ => transmitPlain_counted s) t
    rw [hrun] at hsent
    -- A request for more is valid, whatever the card has announced.
    have hmore : ∀ sw2, Blames (τ := τ) (transmitPlain (CommandSet.standard.getResponse sw2)) :=
      fun sw2 => transmitPlain_blames
        (check_of_short (short_getResponse sw2).nc (short_getResponse sw2).le)
    obtain ⟨new, hnew, hblame⟩ := blames_composable.collect hmore maxRounds maxRounds r t₁
    rw [h] at hnew hblame
    obtain ⟨frame, hframe⟩ := hblame fault rfl hfault
    refine ⟨sent ++ new, ?_, Or.inl ⟨frame, List.mem_append_right sent hframe⟩⟩
    rw [hnew, hsent, List.append_assoc]

end Link

namespace SessionM

open Link

variable {τ κ : Type} [Link τ] [Channel κ]

/-- An exchange of the session that fails with a command fault has failed so on the link, with
the command as the channel in use has protected it. -/
theorem Course.onWire_of_command {c : Command} {b b' : Bench τ κ} {fault : Fault}
    (h : Course c b (.error (.apdu fault)) b') (hfault : fault.isCommand = true) :
    ∃ framed tag earlier, b'.journal = .framed framed tag :: (earlier ++ b.journal) ∧
      b.onWire framed = (.error (.apdu fault), b'.link) := by
  cases h with
  | @failed framed tag b₁ e link hprep hwire =>
    obtain ⟨earlier, hjournal, -⟩ := hprep.worked.journal
    have hkept : (Error.apdu fault).lostCard = false := Fault.lostCard_of_isCommand hfault
    rw [afterExchange_of_kept hkept]
    exact ⟨framed, tag, earlier, congrArg _ hjournal, hwire⟩

/-- An exchange with the standard commands that fails with a complaint about the command has sent
nothing of the command that the channel in use has made of it, where that goes out in one frame.
Where it goes out as a chain, all of it was sent but the last segment, which asks for an answer of
no bytes. The one other reason for such a failure is that the link itself has complained. -/
theorem sent_of_refused {b : Bench (Tapped τ) κ} (hstock : b.session.setup.commands = .standard)
    (purpose : Purpose) (c : Command) {complaint : CommandFault}
    (hrefused : Outcome.complaint? ((communicate purpose c).start b).1 = some complaint) :
    let b' := ((communicate purpose c).start b).2
    let card := b.session.cardOrBaseline
    ∃ exchanges events framed tag,
      b'.link.exchanges = b.link.exchanges ++ exchanges ∧ b'.journal = events ++ b.journal ∧
      .framed framed tag ∈ events ∧
      ((∃ frame fault, (frame, .error fault) ∈ exchanges ∧ fault.complaint? = some complaint) ∨
        exchanges.map Prod.fst = (framing .standard card framed).dropLast.map encode ∧
        (exchanges = [] ↔ card.extendedLength = true ∨ framed.nc ≤ maxShortNc) ∧
        (exchanges ≠ [] → framed.le = some 0 ∧ complaint = .expectedLengthOutOfRange 0)) := by
  intro b' card
  obtain ⟨o, b₁, hcourse, hrun⟩ := run_communicate_eq purpose c b
  have hstart : (communicate purpose c).start b = (o, b₁.record (.concluded purpose o)) := by
    rw [start_eq_run, hrun]
  have hb' : b' = b₁.record (.concluded purpose o) := congrArg Prod.snd hstart
  rw [hstart] at hrefused
  obtain ⟨fault, rfl, hcomplaint⟩ := Outcome.eq_of_complaint? hrefused
  have hfault : fault.isCommand = true := Option.isSome_of_eq_some hcomplaint
  obtain ⟨framed, tag, earlier, hjournal, hwire⟩ := hcourse.onWire_of_command hfault
  have hwire : run (exchangePlain .standard b.session.setup.config.maxRounds card framed) b.link =
      (.error (.apdu fault), b₁.link) := by
    rw [← hstock]
    exact hwire
  obtain ⟨exchanges, hexchanges, hcause⟩ := refused_exchangePlain hfault hwire
  refine ⟨exchanges, .concluded purpose (.error (.apdu fault)) :: .framed framed tag ::
    (earlier ++ [.dispatched purpose c b.session.pins]), framed, tag, ?_, ?_, by simp, ?_⟩
  · rw [hb']
    exact hexchanges
  · rw [hb']
    show _ :: b₁.journal = _
    rw [hjournal]
    simp [Bench.record]
  rcases hcause with ⟨frame, hframe⟩ | ⟨hframes, complaint', rfl, hexplains⟩
  · exact Or.inl ⟨frame, fault, hframe, hcomplaint⟩
  · obtain rfl : complaint' = complaint := Option.some.inj hcomplaint
    have hnone : exchanges = [] ↔ (framing .standard card framed).dropLast = [] := by
      calc exchanges = [] ↔ exchanges.map Prod.fst = [] := List.map_eq_nil_iff.symm
        _ ↔ (framing .standard card framed).dropLast = [] := by rw [hframes, List.map_eq_nil_iff]
    exact Or.inr ⟨hframes, hnone.trans hexplains.early,
      fun hsome => hexplains.late (mt hnone.mpr hsome)⟩

section Trial

open Simulator

/-- A session for a card that takes chains and no extended lengths, and that takes one frame. -/
def chainTrial : Bench (Tapped ScriptedLink) ToyChannel :=
  { session := { Session.new {} none with card := some { chaining := true } }
    link := ⟨{ connected := true, turns := [.answer [0x90, 0x00]] }, []⟩ }

/-- A command that asks for an answer of no bytes. -/
def askingForNothing (data : Bytes) : Command :=
  { cla := 0x00, ins := 0x2A, p1 := 0x80, p2 := 0x86, data := some data, le := some 0 }

/-- A command that asks for an answer of no bytes and fits one frame is not sent. -/
theorem sent_of_refused_short :
    let c := askingForNothing [0x55]
    let o := ((communicate .direct c).start chainTrial).1
    let b' := ((communicate .direct c).start chainTrial).2
    Outcome.complaint? o = some (.expectedLengthOutOfRange 0) ∧ b'.link.exchanges = [] := by
  intro c o b'
  have ho : Outcome.complaint? o = some (.expectedLengthOutOfRange 0) := by decide +kernel
  refine ⟨ho, ?_⟩
  obtain ⟨exchanges, events, framed, tag, hexchanges, hjournal, hframed, hcause⟩ :=
    sent_of_refused (b := chainTrial) rfl .direct c ho
  -- The command goes to the link as it is.
  have hjournal : b'.journal = events := hjournal.trans (List.append_nil events)
  have hplain : ∀ e ∈ b'.journal, ∀ d tag, e = .framed d tag → d.nc = c.nc := by
    rintro e he d tag rfl
    have hall : b'.journal.all (fun | .framed d _ => d.nc = c.nc | _ => true) = true := by
      decide +kernel
    exact of_decide_eq_true (List.all_eq_true.mp hall _ he)
  have hnc : framed.nc ≤ maxShortNc := by
    rw [hplain _ (hjournal ▸ hframed) framed tag rfl]
    decide
  have hexchanges : b'.link.exchanges = exchanges := hexchanges
  rcases hcause with ⟨frame, fault, hmem, -⟩ | ⟨-, hnone, -⟩
  · -- The link has not complained.
    have hall : b'.link.exchanges.all (·.2.isOk) = true := by decide +kernel
    rw [← hexchanges] at hmem
    exact nomatch List.all_eq_true.mp hall _ hmem
  · rw [hexchanges]
    exact hnone.mpr (Or.inr hnc)

/-- A long command that asks for an answer of no bytes is refused when all of its segments but the
last were sent, and the card waits for the last one. -/
theorem refused_in_mid_chain :
    let c := askingForNothing (List.replicate 256 0x55)
    let o := ((communicate .direct c).start chainTrial).1
    let b' := ((communicate .direct c).start chainTrial).2
    Outcome.complaint? o = some (.expectedLengthOutOfRange 0) ∧ b'.link.frames.length = 1 ∧
      Inbox.read? b'.link.frames =
        some { unfinished := some (c.toShort.segment (List.replicate 255 0x55)) } := by
  decide +kernel

end Trial

end SessionM

end PgpCard
