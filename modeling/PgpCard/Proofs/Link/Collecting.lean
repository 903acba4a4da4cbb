import PgpCard.Proofs.Link.Sending

/-!
# `PgpCard.Proofs.Link.Collecting`: an answer in several parts

As long as the status of an answer announces more bytes, they are fetched and put behind what
is there already. `run_collect_of_answers` unrolls the rounds over which the card goes on
announcing: their payloads are put in front of whatever comes of the part after them. What
comes of that part is known where it announces nothing more, and where the limit is used up.

`collect_within` holds for every card, also for one that stops to answer. The rounds are
counted by the frames on the tap.

However many parts there are, the status of the whole answer is the one that came last
(`heard_exchangePlain`).
-/

set_option autoImplicit false

namespace PgpCard

open Step Command

namespace StatusWord

variable {s : StatusWord}

theorem remaining?_of_announces (h : s.sw1 = 0x61) : s.remaining? = some s.sw2 := if_pos h

theorem remaining?_eq_none_iff : s.remaining? = none ↔ s.sw1 ≠ 0x61 := by
  unfold remaining?
  split <;> simp_all

end StatusWord

namespace Link

variable {τ : Type} [Link τ]

/-- A part that announces nothing more is the whole of what is left. -/
theorem run_collect_of_final (more : UInt8 → Command) (limit left : Nat) {r : Response}
    (h : r.status.sw1 ≠ 0x61) (link : τ) :
    run (collect more limit left r) link = (.ok r, link) := by
  have hnone := StatusWord.remaining?_eq_none_iff.mpr h
  cases left <;> rw [collect, hnone] <;> rfl

/-- Where the limit is used up nothing more is fetched. -/
theorem run_collect_of_exhausted (more : UInt8 → Command) (limit : Nat) {r : Response}
    (h : r.status.sw1 = 0x61) (link : τ) :
    run (collect more limit 0 r) link = (.error (.continuationLimit limit), link) := by
  rw [collect, StatusWord.remaining?_of_announces h]
  rfl

/-- What was collected, with bytes in front that came before. -/
def prepended (data : Bytes) (collected : Except Error Response × τ) : Except Error Response × τ :=
  (collected.1.map fun r => { r with data := data ++ r.data }, collected.2)

omit [Link τ] in
@[simp] theorem prepended_nil (collected : Except Error Response × τ) :
    prepended [] collected = collected := by
  rcases collected with ⟨e | r, link⟩ <;> rfl

omit [Link τ] in
theorem prepended_append (data data' : Bytes) (collected : Except Error Response × τ) :
    prepended (data ++ data') collected = prepended data (prepended data' collected) := by
  rcases collected with ⟨e | r, link⟩
  · rfl
  · simp only [prepended, Except.map, List.append_assoc]

/-- Where more bytes are announced and fetched, they come behind the payload so far. -/
theorem run_collect_of_announces (more : UInt8 → Command) (limit left : Nat) {r next : Response}
    {link : τ} (h : r.status.sw1 = 0x61)
    (hnext : (run (transmitPlain (more r.status.sw2)) link).1 = .ok next) :
    run (collect more limit (left + 1) r) link =
      prepended r.data (run (collect more limit left next) (after [more r.status.sw2] link)) := by
  rw [collect, StatusWord.remaining?_of_announces h]
  show run (transmitPlain (more r.status.sw2) >>= _) link = _
  rw [run_bind_of_ok (run_transmitPlain_of_answer hnext), run_bind]
  rcases run (collect more limit left next) (after [more r.status.sw2] link) with ⟨e | r', link'⟩
  · rfl
  · rfl

/-- The rounds over which the card goes on announcing put their payloads in front of what
comes of the part after them. The induction is on these rounds, with any number of rounds left
beyond them. -/
theorem run_collect_of_answers (more : UInt8 → Command) (limit : Nat) (last : Response)
    {front : List Response} :
    ∀ {left : Nat} {link : τ}, (∀ r ∈ front, r.status.sw1 = 0x61) → front.length ≤ left →
      Answers (front.map fun r => more r.status.sw2) (front ++ [last]).tail link →
      run (collect more limit left (front.headD last)) link =
        prepended (front.flatMap Response.data)
          (run (collect more limit (left - front.length) last)
            (after (front.map fun r => more r.status.sw2) link)) := by
  induction front with
  | nil =>
    intro left link _ _ _
    rw [List.flatMap_nil, prepended_nil]
    rfl
  | cons r front ih =>
    intro left link hannounced hwithin hanswers
    obtain ⟨hr, hfront⟩ := List.forall_mem_cons.mp hannounced
    cases left with
    | zero => exact absurd hwithin (Nat.not_succ_le_zero _)
    | succ left =>
      -- The next part is the first one of those that are left.
      have htail : front ++ [last] = front.headD last :: (front ++ [last]).tail := by
        cases front <;> rfl
      have hanswers' : Answers (more r.status.sw2 :: front.map fun r => more r.status.sw2)
          (front.headD last :: (front ++ [last]).tail) link := by
        rw [← htail]
        exact hanswers
      show run (collect more limit (left + 1) r) link = _
      rw [run_collect_of_announces more limit left hr hanswers'.1,
        show after [more r.status.sw2] link = (run (transmitPlain (more r.status.sw2)) link).2 from rfl,
        ih hfront (Nat.le_of_succ_le_succ hwithin) hanswers'.2, ← prepended_append,
        List.length_cons, Nat.succ_sub_succ]
      rfl

/-- Whatever the card answers, no more is fetched than the limit allows, and what is collected
in the end announces nothing more. -/
theorem collect_within (more : UInt8 → Command) (limit left : Nat) :
    ∀ (r : Response) (t : Tapped τ), ∃ fetched : List UInt8,
      (run (collect more limit left r) t).2.frames =
        t.frames ++ fetched.map (fun sw2 => (more sw2).encode) ∧
      fetched.length ≤ left ∧
      ∀ r', (run (collect more limit left r) t).1 = .ok r' → r'.status.sw1 ≠ 0x61 := by
  induction left with
  | zero =>
    intro r t
    by_cases h : r.status.sw1 = 0x61
    · rw [run_collect_of_exhausted more limit h]
      exact ⟨[], by simp, Nat.le_refl 0, nofun⟩
    · rw [run_collect_of_final more limit 0 h]
      exact ⟨[], by simp, Nat.le_refl 0, by rintro r' ⟨⟩; exact h⟩
  | succ left ih =>
    intro r t
    by_cases h : r.status.sw1 = 0x61
    · cases hnext : (run (transmitPlain (more r.status.sw2)) t).1 with
      | error e =>
        -- The card has not answered, so at most one more frame was sent.
        obtain ⟨n, hframes, -, -⟩ := shows_transmitPlain (more r.status.sw2) t
        have hrun : run (collect more limit (left + 1) r) t =
            (.error e, (run (transmitPlain (more r.status.sw2)) t).2) := by
          rw [collect, StatusWord.remaining?_of_announces h]
          exact run_bind_of_error (Prod.ext hnext rfl)
        rw [hrun]
        refine ⟨[r.status.sw2].take n, ?_, ?_, nofun⟩
        · rw [hframes]
          cases n <;> simp
        · exact Nat.le_trans (List.length_take_le' _ _) (Nat.succ_le_succ (Nat.zero_le _))
      | ok next =>
        obtain ⟨fetched, hframes, hlength, hfinal⟩ := ih next (after [more r.status.sw2] t)
        rw [run_collect_of_announces more limit left h hnext]
        refine ⟨r.status.sw2 :: fetched, ?_, Nat.succ_le_succ hlength, ?_⟩
        · show (run (collect more limit left next) (after [more r.status.sw2] t)).2.frames = _
          have hanswer : Answers [more r.status.sw2] [next] t := And.intro hnext trivial
          rw [hframes, frames_after hanswer]
          simp
        · intro r' hr'
          -- The status is the one of what was collected after this part.
          cases hrest : (run (collect more limit left next) (after [more r.status.sw2] t)).1 with
          | error e =>
            rw [prepended, hrest] at hr'
            exact nomatch hr'
          | ok r'' =>
            rw [prepended, hrest] at hr'
            obtain rfl := Except.ok.inj hr'
            exact hfinal r'' hrest
    · rw [run_collect_of_final more limit (left + 1) h]
      exact ⟨[], by simp, Nat.zero_le _, by rintro r' ⟨⟩; exact h⟩

/-- Whatever the card answers, the frames of a whole exchange are some of the command, from the
first one on, and then requests for more: none before all frames of the command went out, and
no more of them than the limit allows. Where the command is answered, all its frames went out and
the answer announces nothing more. -/
theorem exchangePlain_within (commands : CommandSet) (maxRounds : Nat) (card : CardCapabilities)
    (c : Command) (t : Tapped τ) : ∃ (n : Nat) (fetched : List UInt8),
      (run (exchangePlain commands maxRounds card c) t).2.frames =
        t.frames ++ (((framing commands card c).take n).map encode ++
          fetched.map fun sw2 => (commands.getResponse sw2).encode) ∧
      fetched.length ≤ maxRounds ∧ (fetched ≠ [] → (framing commands card c).length ≤ n) ∧
      ∀ r, (run (exchangePlain commands maxRounds card c) t).1 = .ok r →
        (framing commands card c).length ≤ n ∧ r.status.sw1 ≠ 0x61 := by
  obtain ⟨n, hframes, -, hcomplete⟩ := frames_transmitFramed commands card c t
  rcases hrun : run (transmitFramed commands card c) t with ⟨e | r, t'⟩
  · -- Nothing is fetched where the command itself was not answered.
    rw [hrun] at hframes
    have hall : run (exchangePlain commands maxRounds card c) t = (.error e, t') :=
      run_bind_of_error hrun
    rw [hall]
    refine ⟨n, [], ?_, Nat.zero_le _, fun hne => absurd rfl hne, nofun⟩
    rw [List.map_nil, List.append_nil]
    exact hframes
  · rw [hrun] at hframes hcomplete
    have hall : run (exchangePlain commands maxRounds card c) t =
        run (collect commands.getResponse maxRounds maxRounds r) t' := run_bind_of_ok hrun
    obtain ⟨fetched, hfetched, hlength, hfinal⟩ :=
      collect_within commands.getResponse maxRounds maxRounds r t'
    rw [hall]
    have hwhole : (framing commands card c).length ≤ n := hcomplete ⟨r, rfl⟩
    refine ⟨n, fetched, ?_, hlength, fun _ => hwhole, fun r' hr' => ⟨hwhole, hfinal r' hr'⟩⟩
    rw [hfetched, hframes, List.append_assoc]

end Link

/-! ### The last answer -/

/-- The last exchange on the tap was answered, with this status. -/
def Tapped.Heard {τ : Type} (t : Tapped τ) (status : StatusWord) : Prop :=
  ∃ frame answer r, t.exchanges.getLast? = some (frame, .ok answer) ∧
    Response.decode answer = .ok r ∧ r.status = status

namespace Link

variable {τ : Type} [Link τ]

/-- An answer to one command is the last on the tap. -/
theorem heard_transmitPlain {c : Command} {r : Response} {t t' : Tapped τ}
    (h : run (transmitPlain c) t = (.ok r, t')) : t'.Heard r.status := by
  have hcheck := check_of_run_transmitPlain (congrArg Prod.fst h)
  have hexchanges := Tapped.exchanges_exchange c.encode t
  rw [run_transmitPlain_of_check_ok hcheck] at h
  rcases hrun : run (exchange c.encode) t with ⟨fault | answer, t₁⟩
  · rw [hrun] at h
    exact nomatch congrArg Prod.fst h
  · rw [hrun] at h hexchanges
    obtain ⟨hdecode, rfl⟩ := Prod.mk.inj h
    refine ⟨c.encode, answer, r, ?_, ?_, rfl⟩
    · rw [hexchanges]
      exact List.getLast?_concat
    · cases hanswer : Response.decode answer with
      | ok r' =>
        rw [hanswer] at hdecode
        exact congrArg Except.ok (Except.ok.inj hdecode)
      | error fault =>
        rw [hanswer] at hdecode
        exact nomatch hdecode

/-- The answer to a chain is the one to its last segment. The induction is on the segments. -/
theorem heard_transmitSegments (total : Nat) {segments : List Command} {r : Response} {t' : Tapped τ} :
    ∀ {sent : Nat} {t : Tapped τ},
      run (transmitSegments total sent segments) t = (.ok (.completed r), t') → t'.Heard r.status := by
  induction segments with
  | nil => exact fun h => nomatch congrArg Prod.fst h
  | cons c rest ih =>
    intro sent t h
    cases rest with
    | nil =>
      obtain ⟨r', t₁, hfirst, hrest⟩ := run_bind_eq_ok h
      obtain ⟨hr, rfl⟩ := Prod.mk.inj hrest
      obtain rfl : r' = r := ChainOutcome.completed.inj (Except.ok.inj hr)
      exact heard_transmitPlain hfirst
    | cons d rest =>
      obtain ⟨r', t₁, -, hrest⟩ := run_bind_eq_ok h
      by_cases hok : r'.isSuccess = true
      · rw [if_pos hok] at hrest
        exact ih hrest
      · rw [if_neg hok] at hrest
        exact nomatch congrArg Prod.fst hrest

theorem heard_transmitFramed {commands : CommandSet} {card : CardCapabilities} {c : Command}
    {r : Response} {t t' : Tapped τ} (h : run (transmitFramed commands card c) t = (.ok r, t')) :
    t'.Heard r.status := by
  unfold transmitFramed at h
  split at h
  · exact heard_transmitPlain h
  · split at h
    · exact heard_transmitPlain h
    · split at h
      · obtain ⟨outcome, t₁, hchain, hrest⟩ := run_bind_eq_ok h
        cases outcome with
        | completed r' =>
          obtain ⟨hr, rfl⟩ := Prod.mk.inj hrest
          obtain rfl : r' = r := Except.ok.inj hr
          exact heard_transmitSegments _ hchain
        | aborted step total status => exact nomatch congrArg Prod.fst hrest
      · exact nomatch congrArg Prod.fst h

/-- What is collected has the status of the part that was fetched last, if any was. -/
theorem heard_collect (more : UInt8 → Command) (limit left : Nat) :
    ∀ {r r' : Response} {t t' : Tapped τ}, t.Heard r.status →
      run (collect more limit left r) t = (.ok r', t') → t'.Heard r'.status := by
  induction left with
  | zero =>
    intro r r' t t' hheard h
    by_cases hmore : r.status.sw1 = 0x61
    · rw [run_collect_of_exhausted more limit hmore] at h
      exact nomatch congrArg Prod.fst h
    · rw [run_collect_of_final more limit 0 hmore] at h
      obtain ⟨hr, rfl⟩ := Prod.mk.inj h
      obtain rfl : r = r' := Except.ok.inj hr
      exact hheard
  | succ left ih =>
    intro r r' t t' hheard h
    by_cases hmore : r.status.sw1 = 0x61
    · rw [collect, StatusWord.remaining?_of_announces hmore] at h
      obtain ⟨next, t₁, hnext, hrest⟩ := run_bind_eq_ok h
      obtain ⟨rest, t₂, hcollected, hend⟩ := run_bind_eq_ok hrest
      have hlast := ih (heard_transmitPlain hnext) hcollected
      -- The status of the whole is the one of the rest.
      obtain ⟨hr, rfl⟩ := Prod.mk.inj hend
      obtain rfl := Except.ok.inj hr
      exact hlast
    · rw [run_collect_of_final more limit (left + 1) hmore] at h
      obtain ⟨hr, rfl⟩ := Prod.mk.inj h
      obtain rfl : r = r' := Except.ok.inj hr
      exact hheard

/-- The status of the whole answer is that of the last answer on the tap. -/
theorem heard_exchangePlain {commands : CommandSet} {maxRounds : Nat} {card : CardCapabilities}
    {c : Command} {r : Response} {t t' : Tapped τ}
    (h : run (exchangePlain commands maxRounds card c) t = (.ok r, t')) : t'.Heard r.status := by
  obtain ⟨first, t₁, hframed, hcollect⟩ := run_bind_eq_ok h
  exact heard_collect _ _ _ (heard_transmitFramed hframed) hcollect

end Link

end PgpCard
