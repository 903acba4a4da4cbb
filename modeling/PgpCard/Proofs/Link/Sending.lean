import PgpCard.Proofs.Link.Tap

/-!
# `PgpCard.Proofs.Link.Sending`: the frames of a command, and their answers

A logical command goes out as it is, in short form, or as a chain of short segments. The
list of commands that go to the link one by one is its `framing`.

`frames_transmitFramed` says what a tap shows of it. Whatever the link answers, the frames
that reach it are the first ones of the framing, each of them valid, and all of them if the
sending succeeds.

`Answers` says what the link has to do for that: the commands, sent one after another, get
the answers of a list. Where all answers but the last are `90 00` the sending succeeds with
the last one (`run_transmitFramed_of_answers`).
-/

set_option autoImplicit false

namespace PgpCard

open Step Command

namespace Link

/-- The commands that go to the link one by one for one logical command. -/
def framing (commands : CommandSet) (card : CardCapabilities) (c : Command) : List Command :=
  if card.extendedLength then [c]
  else if commands.fitsShort c then [commands.toShort c]
  else if card.chaining then commands.chain c
  else []

variable {τ : Type}

/-- What the tap shows after the commands `cs` were sent one by one, in so far as that
worked: valid ones from the front of the list, and all of them if `complete`. -/
def Shows (t t' : Tapped τ) (cs : List Command) (complete : Prop) : Prop :=
  ∃ n, t'.frames = t.frames ++ (cs.take n).map encode ∧ (∀ c ∈ cs.take n, c.check = .ok ()) ∧
    (complete → cs.length ≤ n)

/-- What the tap shows for the first command and then for the others is what it shows for
all of them. -/
theorem Shows.cons {t t' t'' : Tapped τ} {c : Command} {cs : List Command} {complete : Prop}
    (hfirst : Shows t t' [c] True) (hrest : Shows t' t'' cs complete) :
    Shows t t'' (c :: cs) complete := by
  obtain ⟨n, hframes, hvalid, hlength⟩ := hfirst
  obtain ⟨m, hframes', hvalid', hlength'⟩ := hrest
  -- The first command was sent, so `n` is at least one.
  have hone : [c].take n = [c] := List.take_of_length_le (hlength trivial)
  rw [hone] at hframes hvalid
  refine ⟨m + 1, ?_, ?_, ?_⟩
  · rw [hframes', hframes]
    simp
  · intro s hs
    rcases List.mem_cons.mp hs with rfl | hs
    · exact hvalid s List.mem_cons_self
    · exact hvalid' s hs
  · intro h
    exact Nat.succ_le_succ (hlength' h)

/-- If the first command was not followed by the others, the tap shows it at most. -/
theorem Shows.stop {t t' : Tapped τ} {c : Command} {cs : List Command} {sent complete : Prop}
    (hfirst : Shows t t' [c] sent) (hcomplete : ¬complete) : Shows t t' (c :: cs) complete := by
  obtain ⟨n, hframes, hvalid, -⟩ := hfirst
  have htake : [c].take n = (c :: cs).take (min n 1) := by
    cases n with
    | zero => rfl
    | succ n => simp
  exact ⟨min n 1, htake ▸ hframes, htake ▸ hvalid, fun h => absurd h hcomplete⟩

variable [Link τ]

/-- One command is sent whole, or not at all if it is invalid. -/
theorem shows_transmitPlain (c : Command) (t : Tapped τ) :
    Shows t (run (transmitPlain c) t).2 [c] (∃ r, (run (transmitPlain c) t).1 = .ok r) := by
  cases hcheck : c.check with
  | error fault =>
    -- The command is not sent at all.
    refine ⟨0, ?_, by simp, ?_⟩
    · rw [run_transmitPlain_of_check_error hcheck]
      simp
    · rintro ⟨r, hr⟩
      rw [run_transmitPlain_of_check_error hcheck] at hr
      exact nomatch hr
  | ok u =>
    refine ⟨1, ?_, ?_, fun _ => Nat.le_refl 1⟩
    · rw [frames_transmitPlain hcheck]
      rfl
    · intro s hs
      obtain rfl : s = c := by simpa using hs
      exact hcheck

/-- The segments of a chain go out from the first one on. The chain is completed only when
all of them did. -/
theorem shows_transmitSegments (total : Nat) :
    ∀ (segments : List Command) (sent : Nat) (t : Tapped τ),
      Shows t (run (transmitSegments total sent segments) t).2 segments
        (∃ r, (run (transmitSegments total sent segments) t).1 = .ok (.completed r)) := by
  intro segments
  induction segments with
  | nil => intro sent t; exact ⟨0, by simp [transmitSegments], by simp, by simp⟩
  | cons c rest ih =>
    intro sent t
    have hc := shows_transmitPlain c t
    rcases hrun : run (transmitPlain c) t with ⟨fault | r, t'⟩
    · -- The link failed or the segment is invalid, so nothing follows.
      rw [hrun] at hc
      have hall : run (transmitSegments total sent (c :: rest)) t = (.error fault, t') := by
        cases rest <;> exact run_bind_of_error hrun
      rw [hall]
      exact hc.stop (by rintro ⟨r, hr⟩; exact nomatch hr)
    · rw [hrun] at hc
      obtain ⟨n, hframes, hvalid, hlength⟩ := hc
      have hfirst : Shows t t' [c] True := ⟨n, hframes, hvalid, fun _ => hlength ⟨r, rfl⟩⟩
      cases rest with
      | nil =>
        rw [show run (transmitSegments total sent [c]) t = (.ok (.completed r), t') from
          run_bind_of_ok hrun]
        exact ⟨n, hframes, hvalid, fun _ => hlength ⟨r, rfl⟩⟩
      | cons d rest =>
        have hstep : run (transmitSegments total sent (c :: d :: rest)) t =
            run (if r.isSuccess then transmitSegments total (sent + 1) (d :: rest)
              else pure (.aborted (sent + 1) total r.status)) t' := run_bind_of_ok hrun
        rw [hstep]
        -- Only `90 00` lets the next segment out.
        by_cases hok : r.isSuccess = true
        · rw [if_pos hok]
          exact hfirst.cons (ih (sent + 1) t')
        · rw [if_neg hok]
          exact hfirst.stop (by rintro ⟨r, hr⟩; exact nomatch hr)

/-- Whatever the link answers, the frames that reach it are the first ones of the framing,
each of them valid, and all of them if the sending succeeds. -/
theorem frames_transmitFramed (commands : CommandSet) (card : CardCapabilities) (c : Command)
    (t : Tapped τ) :
    Shows t (run (transmitFramed commands card c) t).2 (framing commands card c)
      (∃ r, (run (transmitFramed commands card c) t).1 = .ok r) := by
  unfold transmitFramed framing
  -- The framing makes the same choices as the sending.
  split
  · exact shows_transmitPlain c t
  · split
    · exact shows_transmitPlain _ t
    · split
      · have hchain := shows_transmitSegments (commands.chain c).length (commands.chain c) 0 t
        obtain ⟨n, hframes, hvalid, hlength⟩ := hchain
        rw [run_bind]
        unfold transmitChain
        rcases hrun : run (transmitSegments (commands.chain c).length 0 (commands.chain c)) t
          with ⟨e | ⟨r⟩ | ⟨step, total, status⟩, t'⟩
        · rw [hrun] at hframes
          exact ⟨n, hframes, hvalid, by rintro ⟨r, hr⟩; exact nomatch hr⟩
        · rw [hrun] at hframes hlength
          exact ⟨n, hframes, hvalid, fun _ => hlength ⟨r, rfl⟩⟩
        · rw [hrun] at hframes
          exact ⟨n, hframes, hvalid, by rintro ⟨r, hr⟩; exact nomatch hr⟩
      · exact ⟨0, by simp, by simp, by rintro ⟨r, hr⟩; exact nomatch hr⟩

/-- The link takes these frames one after another: each gets an answer, and each before the
last gets `90 00`. -/
def Takes : List Bytes → τ → Prop
  | [], _ => True
  | frame :: frames, link =>
    (∃ answer r, (run (exchange frame) link).1 = .ok answer ∧ Response.decode answer = .ok r ∧
      (frames ≠ [] → r.isSuccess = true)) ∧
    Takes frames (run (exchange frame) link).2

/-- The link after these commands were sent one by one. -/
def after (cs : List Command) (link : τ) : τ :=
  cs.foldl (fun link c => (run (transmitPlain c) link).2) link

/-- Sent one by one, these commands get these answers. -/
def Answers : List Command → List Response → τ → Prop
  | [], [], _ => True
  | c :: cs, r :: rs, link =>
    (run (transmitPlain c) link).1 = .ok r ∧ Answers cs rs (run (transmitPlain c) link).2
  | _, _, _ => False

/-- Sent one by one, these commands all get `90 00`. -/
def Acknowledged (cs : List Command) (link : τ) : Prop :=
  ∃ acks : List Response, (∀ ack ∈ acks, ack.isSuccess = true) ∧ Answers cs acks link

theorem after_append (cs ds : List Command) (link : τ) :
    after (cs ++ ds) link = after ds (after cs link) := List.foldl_append

/-- Each command gets one answer. -/
theorem length_of_answers {cs : List Command} :
    ∀ {rs : List Response} {link : τ}, Answers cs rs link → rs.length = cs.length := by
  induction cs with
  | nil =>
    intro rs link h
    cases rs with
    | nil => rfl
    | cons r rs => exact absurd h id
  | cons c cs ih =>
    intro rs link h
    cases rs with
    | nil => exact absurd h id
    | cons r rs => exact congrArg (· + 1) (ih h.2)

/-- What is answered from start to end is answered up to any point, and from there on. -/
theorem answers_append {cs ds : List Command} {ss : List Response} :
    ∀ {rs : List Response} {link : τ}, rs.length = cs.length → Answers (cs ++ ds) (rs ++ ss) link →
      Answers cs rs link ∧ Answers ds ss (after cs link) := by
  induction cs with
  | nil =>
    intro rs link hlength h
    obtain rfl := List.eq_nil_of_length_eq_zero hlength
    exact ⟨trivial, h⟩
  | cons c cs ih =>
    intro rs link hlength h
    cases rs with
    | nil => exact nomatch hlength
    | cons r rs =>
      obtain ⟨hfirst, hrest⟩ := ih (Nat.succ.inj hlength) h.2
      exact ⟨⟨h.1, hfirst⟩, hrest⟩

/-- What was answered was valid, so it is on the tap. -/
theorem check_of_run_transmitPlain {c : Command} {r : Response} {link : τ}
    (h : (run (transmitPlain c) link).1 = .ok r) : c.check = .ok () := by
  cases hcheck : c.check with
  | ok u => rfl
  | error fault =>
    rw [run_transmitPlain_of_check_error hcheck] at h
    exact nomatch h

theorem check_of_answers {cs : List Command} :
    ∀ {rs : List Response} {link : τ}, Answers cs rs link → ∀ c ∈ cs, c.check = .ok () := by
  induction cs with
  | nil => exact fun _ _ hc => absurd hc List.not_mem_nil
  | cons c cs ih =>
    intro rs link h
    cases rs with
    | nil => exact absurd h id
    | cons r rs => exact List.forall_mem_cons.mpr ⟨check_of_run_transmitPlain h.1, ih h.2⟩

/-- Valid commands are all on the tap, whatever comes of them. -/
theorem frames_after_of_check {cs : List Command} :
    ∀ {t : Tapped τ}, (∀ c ∈ cs, c.check = .ok ()) →
      (after cs t).frames = t.frames ++ cs.map encode := by
  induction cs with
  | nil => exact fun _ => (List.append_nil _).symm
  | cons c cs ih =>
    intro t hvalid
    obtain ⟨hc, hcs⟩ := List.forall_mem_cons.mp hvalid
    show (after cs (run (transmitPlain c) t).2).frames = _
    rw [ih hcs, frames_transmitPlain hc, List.append_assoc]
    rfl

theorem frames_after {cs : List Command} {rs : List Response} {t : Tapped τ}
    (h : Answers cs rs t) : (after cs t).frames = t.frames ++ cs.map encode :=
  frames_after_of_check (check_of_answers h)

/-- A command that is answered moves the link on. -/
theorem run_transmitPlain_of_answer {c : Command} {r : Response} {link : τ}
    (h : (run (transmitPlain c) link).1 = .ok r) :
    run (transmitPlain c) link = (.ok r, after [c] link) := Prod.ext h rfl

/-- Behind segments that were acknowledged the chain goes on with those that are left. The
induction is on the acknowledged ones, which are never the last. -/
theorem run_transmitSegments_append (total : Nat) {front : List Command} (c : Command)
    (rest : List Command) :
    ∀ {sent : Nat} {link : τ}, Acknowledged front link →
      run (transmitSegments total sent (front ++ c :: rest)) link =
        run (transmitSegments total (sent + front.length) (c :: rest)) (after front link) := by
  induction front with
  | nil => exact fun _ => rfl
  | cons d front ih =>
    rintro sent link ⟨acks, hacks, hanswers⟩
    cases acks with
    | nil => exact absurd hanswers id
    | cons ack acks =>
      obtain ⟨hack, hacks⟩ := List.forall_mem_cons.mp hacks
      -- There is a next segment, so this one has to be acknowledged.
      obtain ⟨e, es, hnext⟩ : ∃ e es, front ++ c :: rest = e :: es := by cases front <;> simp
      have hstep : run (transmitSegments total sent (d :: (front ++ c :: rest))) link =
          run (if ack.isSuccess then transmitSegments total (sent + 1) (front ++ c :: rest)
            else pure (.aborted (sent + 1) total ack.status)) (after [d] link) := by
        rw [hnext]
        exact run_bind_of_ok (run_transmitPlain_of_answer hanswers.1)
      have hfront : Acknowledged front (after [d] link) := ⟨acks, hacks, hanswers.2⟩
      rw [List.cons_append, hstep, if_pos hack, ih hfront, List.length_cons, Nat.add_right_comm]
      rfl

/-- A chain is completed by the answer to its last segment, if the others got `90 00`. -/
theorem run_transmitSegments_of_answers (total : Nat) {segments : List Command}
    {acks : List Response} {r : Response} {link : τ} (sent : Nat)
    (hacks : ∀ ack ∈ acks, ack.isSuccess = true) (h : Answers segments (acks ++ [r]) link) :
    run (transmitSegments total sent segments) link = (.ok (.completed r), after segments link) := by
  have hlength := length_of_answers h
  rcases List.eq_nil_or_concat segments with rfl | ⟨front, last, rfl⟩
  · exact absurd hlength (by simp)
  · rw [List.concat_eq_append] at h ⊢
    obtain ⟨hfront, hlast⟩ := answers_append (by simpa using hlength) h
    rw [run_transmitSegments_append total last [] ⟨acks, hacks, hfront⟩, after_append]
    exact run_bind_of_ok (run_transmitPlain_of_answer hlast.1)

/-- The answer to a command is the one to the last of its frames, if the others got `90 00`. -/
theorem run_transmitFramed_of_answers {commands : CommandSet} {card : CardCapabilities}
    {c : Command} {acks : List Response} {r : Response} {link : τ}
    (hacks : ∀ ack ∈ acks, ack.isSuccess = true)
    (h : Answers (framing commands card c) (acks ++ [r]) link) :
    run (transmitFramed commands card c) link = (.ok r, after (framing commands card c) link) := by
  -- A command that goes out in one frame has no acknowledgements.
  have hsingle : ∀ {s : Command}, Answers [s] (acks ++ [r]) link →
      run (transmitPlain s) link = (.ok r, after [s] link) := by
    intro s hs
    obtain rfl : acks = [] := by simpa using length_of_answers hs
    exact run_transmitPlain_of_answer hs.1
  unfold framing at h ⊢
  unfold transmitFramed
  by_cases hext : card.extendedLength = true
  · simp only [if_pos hext] at h ⊢
    exact hsingle h
  simp only [if_neg hext] at h ⊢
  by_cases hfits : commands.fitsShort c = true
  · simp only [if_pos hfits] at h ⊢
    exact hsingle h
  simp only [if_neg hfits] at h ⊢
  by_cases hchaining : card.chaining = true
  · simp only [if_pos hchaining] at h ⊢
    exact run_bind_of_ok (run_transmitSegments_of_answers _ 0 hacks h)
  · -- Without any frame there is no answer.
    rw [if_neg hchaining] at h
    exact absurd (length_of_answers h) (by simp)

/-- A link that takes valid commands answers them, all but the last with `90 00`. -/
theorem answers_of_takes {cs : List Command} :
    ∀ {link : τ}, cs ≠ [] → (∀ c ∈ cs, c.check = .ok ()) → Takes (cs.map encode) link →
      ∃ acks r, (∀ ack ∈ acks, ack.isSuccess = true) ∧ Answers cs (acks ++ [r]) link := by
  induction cs with
  | nil => exact fun hne => absurd rfl hne
  | cons c rest ih =>
    rintro link - hvalid ⟨⟨answer, r, hanswer, hdecode, hsuccess⟩, htakes⟩
    have hrun : run (transmitPlain c) link = (.ok r, (run (exchange c.encode) link).2) := by
      rw [run_transmitPlain_of_check_ok (hvalid c List.mem_cons_self)]
      rcases hexchange : run (exchange c.encode) link with ⟨fault | answer', link'⟩
      · rw [hexchange] at hanswer
        exact nomatch hanswer
      · rw [hexchange] at hanswer
        obtain rfl : answer' = answer := Except.ok.inj hanswer
        show ((Response.decode answer').mapError _, link') = _
        rw [hdecode]
        rfl
    cases rest with
    | nil => exact ⟨[], r, by simp, congrArg Prod.fst hrun, trivial⟩
    | cons d rest =>
      have hok : r.isSuccess = true := hsuccess (List.cons_ne_nil _ _)
      -- This is not the last frame, so its answer is an acknowledgement.
      obtain ⟨acks, last, hacks, hanswers⟩ := ih (List.cons_ne_nil d rest)
        (fun s hs => hvalid s (List.mem_cons_of_mem c hs)) htakes
      refine ⟨r :: acks, last, List.forall_mem_cons.mpr ⟨hok, hacks⟩, congrArg Prod.fst hrun, ?_⟩
      rw [hrun]
      exact hanswers

/-- A command whose frames are valid is answered by a link that takes them. -/
theorem ok_transmitFramed_of_takes (commands : CommandSet) (card : CardCapabilities)
    (c : Command) (link : τ) (hne : framing commands card c ≠ [])
    (hvalid : ∀ s ∈ framing commands card c, s.check = .ok ())
    (htakes : Takes ((framing commands card c).map encode) link) :
    ∃ r, (run (transmitFramed commands card c) link).1 = .ok r := by
  obtain ⟨acks, r, hacks, hanswers⟩ := answers_of_takes hne hvalid htakes
  rw [run_transmitFramed_of_answers hacks hanswers]
  exact ⟨r, rfl⟩

end Link

end PgpCard
