import PgpCard.Session.Basic

/-!
# `PgpCard.Proofs.Step`: reasoning about steps that can fail

A step of a link, a session or a channel takes a state and leaves a state, also when it
fails. `Step.run` puts the two results of a step side by side: how it ended, and what it
left. The equations of `run` say what the building blocks of a step do, and
`run_bind_eq_ok` takes a sequence of two steps apart.

`Ensures P step Q` is the statement that is used most: started where `P` holds, the step
ends as `Q` says, on each of its ways out. `Keeps I step` is the case of an invariant. `Couples`
is about two runs: started in related states, two steps end alike and in related states. Their
rules follow the building blocks, so that a proof about a step has the shape of the step.
-/

set_option autoImplicit false

namespace PgpCard.Step

variable {ε σ α β : Type}

/-- How a step ends, and the state that it leaves. -/
def run (step : EStateM ε σ α) (s : σ) : Except ε α × σ :=
  match step s with
  | .ok a s => (.ok a, s)
  | .error e s => (.error e, s)

/-- What is started is run. -/
theorem start_eq_run {τ κ : Type} (step : SessionM τ κ α) (b : Bench τ κ) :
    step.start b = run step b := by
  unfold SessionM.start run
  cases step b <;> rfl

@[simp] theorem run_pure (a : α) (s : σ) : run (pure a : EStateM ε σ α) s = (.ok a, s) := rfl

@[simp] theorem run_throw (e : ε) (s : σ) :
    run (throw e : EStateM ε σ α) s = (.error e, s) := rfl

/-- A sequence goes on with its second step where the first one succeeds. -/
theorem run_bind (step : EStateM ε σ α) (next : α → EStateM ε σ β) (s : σ) :
    run (step >>= next) s =
      match run step s with
      | (.ok a, s) => run (next a) s
      | (.error e, s) => (.error e, s) := by
  show run (EStateM.bind step next) s = _
  unfold run EStateM.bind
  cases step s <;> rfl

theorem run_bind_of_ok {step : EStateM ε σ α} {next : α → EStateM ε σ β} {s s' : σ} {a : α}
    (h : run step s = (.ok a, s')) : run (step >>= next) s = run (next a) s' := by
  rw [run_bind, h]

theorem run_bind_of_error {step : EStateM ε σ α} {next : α → EStateM ε σ β} {s s' : σ} {e : ε}
    (h : run step s = (.error e, s')) : run (step >>= next) s = (.error e, s') := by
  rw [run_bind, h]

/-- What is made of a result does not touch the state. -/
theorem run_bind_pure (step : EStateM ε σ α) (f : α → β) (s : σ) :
    run (step >>= fun a => pure (f a)) s = ((run step s).1.map f, (run step s).2) := by
  rw [run_bind]
  rcases run step s with ⟨e | a, s'⟩ <;> rfl

/-- A sequence succeeds when both of its steps do, one after the other. -/
theorem run_bind_eq_ok {step : EStateM ε σ α} {next : α → EStateM ε σ β} {s s'' : σ} {b : β}
    (h : run (step >>= next) s = (.ok b, s'')) :
    ∃ a s', run step s = (.ok a, s') ∧ run (next a) s' = (.ok b, s'') := by
  rcases hstep : run step s with ⟨e | a, s'⟩
  · rw [run_bind_of_error hstep] at h
    exact nomatch h
  · rw [run_bind_of_ok hstep] at h
    exact ⟨a, s', rfl, h⟩

/-! ### The steps of a session -/

section Session

open SessionM

variable {τ κ : Type} (b : Bench τ κ)

@[simp] theorem run_session_bind (next : Session κ → SessionM τ κ α) :
    run (session >>= next) b = run (next b.session) b := rfl

@[simp] theorem run_link_bind (next : τ → SessionM τ κ α) :
    run (link >>= next) b = run (next b.link) b := rfl

@[simp] theorem run_change_bind (f : Bench τ κ → Bench τ κ) (next : Unit → SessionM τ κ α) :
    run (change f >>= next) b = run (next ()) (f b) := rfl

/-- What follows a step whatever comes of it does not alter its outcome. -/
theorem run_andThen (step : SessionM τ κ α) (f : Except Error α → Bench τ κ → Bench τ κ) :
    run (step.andThen f) b = ((run step b).1, f (run step b).1 (run step b).2) := by
  unfold run andThen
  cases step b <;> rfl

/-- A step of the link alters nothing but the link. -/
theorem run_onLink (wrap : ε → Error) (step : EStateM ε τ α) :
    run (onLink wrap step) b =
      ((run step b.link).1.mapError wrap, { b with link := (run step b.link).2 }) := by
  unfold run onLink
  cases step b.link <;> rfl

end Session

/-! ### What a step ensures -/

/-- Started where `P` holds, the step ends as `Q` says. -/
def Ensures (P : σ → Prop) (step : EStateM ε σ α) (Q : Except ε α → σ → Prop) : Prop :=
  ∀ s, P s → Q (run step s).1 (run step s).2

/-- The step keeps an invariant, however it ends. -/
abbrev Keeps (I : σ → Prop) (step : EStateM ε σ α) : Prop := Ensures I step fun _ => I

variable {P : σ → Prop} {Q : Except ε β → σ → Prop} {R : Except ε α → σ → Prop}
variable {I : σ → Prop}

theorem Ensures.mono {P' : σ → Prop} {Q' : Except ε β → σ → Prop} {step : EStateM ε σ β}
    (h : Ensures P step Q) (hP : ∀ s, P' s → P s) (hQ : ∀ o s, Q o s → Q' o s) :
    Ensures P' step Q' :=
  fun s hs => hQ _ _ (h s (hP s hs))

/-- A sequence: the second step starts where the first one succeeded. -/
theorem Ensures.bind {step : EStateM ε σ α} {next : α → EStateM ε σ β}
    (hstep : Ensures P step R) (hnext : ∀ a, Ensures (R (.ok a)) (next a) Q)
    (herror : ∀ e s, R (.error e) s → Q (.error e) s) : Ensures P (step >>= next) Q := by
  intro s hs
  have h := hstep s hs
  rcases hrun : run step s with ⟨e | a, s'⟩
  · rw [hrun] at h
    rw [run_bind_of_error hrun]
    exact herror e s' h
  · rw [hrun] at h
    rw [run_bind_of_ok hrun]
    exact hnext a s' h

theorem Keeps.pure (a : α) : Keeps I (pure a : EStateM ε σ α) := fun _ hs => hs

theorem Keeps.throw (e : ε) : Keeps I (throw e : EStateM ε σ α) := fun _ hs => hs

theorem Keeps.bind {step : EStateM ε σ α} {next : α → EStateM ε σ β} (hstep : Keeps I step)
    (hnext : ∀ a, Keeps I (next a)) : Keeps I (step >>= next) :=
  Ensures.bind hstep hnext fun _ _ h => h

theorem Keeps.ensure {τ κ : Type} {I : Bench τ κ → Prop} (condition : Bool) (e : Error) :
    Keeps I (SessionM.ensure condition e) := by
  intro b hb
  unfold SessionM.ensure
  split <;> exact hb

/-! ### Two runs side by side -/

/-- Started in related states, the two steps end with the same outcome, and as `S` says. -/
def Couples {σ' : Type} (R : σ → σ' → Prop) (step : EStateM ε σ α) (step' : EStateM ε σ' α)
    (S : Except ε α → σ → σ' → Prop) : Prop :=
  ∀ s s', R s s' →
    (run step s).1 = (run step' s').1 ∧ S (run step s).1 (run step s).2 (run step' s').2

namespace Couples

variable {σ' : Type} {R : σ → σ' → Prop}

theorem mono {R' : σ → σ' → Prop} {S S' : Except ε α → σ → σ' → Prop} {step : EStateM ε σ α}
    {step' : EStateM ε σ' α} (h : Couples R step step' S) (hR : ∀ s s', R' s s' → R s s')
    (hS : ∀ o s s', S o s s' → S' o s s') : Couples R' step step' S' := by
  intro s s' hs
  obtain ⟨hout, hstate⟩ := h s s' (hR s s' hs)
  exact ⟨hout, hS _ _ _ hstate⟩

theorem pure (a : α) :
    Couples R (pure a : EStateM ε σ α) (pure a : EStateM ε σ' α) fun _ => R :=
  fun _ _ hs => ⟨rfl, hs⟩

theorem throw (e : ε) :
    Couples R (throw e : EStateM ε σ α) (throw e : EStateM ε σ' α) fun _ => R :=
  fun _ _ hs => ⟨rfl, hs⟩

/-- Two sequences: the second steps start where the first ones both succeeded, with the same
result. -/
theorem bind {S : Except ε α → σ → σ' → Prop} {T : Except ε β → σ → σ' → Prop}
    {step : EStateM ε σ α} {step' : EStateM ε σ' α} {next : α → EStateM ε σ β}
    {next' : α → EStateM ε σ' β} (hstep : Couples R step step' S)
    (hnext : ∀ a, Couples (S (.ok a)) (next a) (next' a) T)
    (herror : ∀ e s s', S (.error e) s s' → T (.error e) s s') :
    Couples R (step >>= next) (step' >>= next') T := by
  intro s s' hs
  obtain ⟨hout, hstate⟩ := hstep s s' hs
  rcases hrun : run step s with ⟨e | a, s₁⟩
  all_goals
    rcases hrun' : run step' s' with ⟨e' | a', s₁'⟩
    all_goals rw [hrun, hrun'] at hout hstate
  · obtain rfl := Except.error.inj hout
    rw [run_bind_of_error hrun, run_bind_of_error hrun']
    exact ⟨rfl, herror e s₁ s₁' hstate⟩
  · exact nomatch hout
  · exact nomatch hout
  · obtain rfl := Except.ok.inj hout
    rw [run_bind_of_ok hrun, run_bind_of_ok hrun']
    exact hnext a s₁ s₁' hstate

/-- Two sequences of steps that keep the relation, however they end. -/
theorem seq {step : EStateM ε σ α} {step' : EStateM ε σ' α} {next : α → EStateM ε σ β}
    {next' : α → EStateM ε σ' β} (hstep : Couples R step step' fun _ => R)
    (hnext : ∀ a, Couples R (next a) (next' a) fun _ => R) :
    Couples R (step >>= next) (step' >>= next') fun _ => R :=
  hstep.bind hnext fun _ _ _ h => h

section Session

variable {τ τ' κ : Type} {R : Bench τ κ → Bench τ' κ → Prop}
  {S : Except Error α → Bench τ κ → Bench τ' κ → Prop}

/-- What follows may depend on the sessions, as far as the relation says how they differ. -/
theorem session_bind {next : Session κ → SessionM τ κ α} {next' : Session κ → SessionM τ' κ α}
    (h : ∀ b b', R b b' → Couples R (next b.session) (next' b'.session) S) :
    Couples R (SessionM.session >>= next) (SessionM.session >>= next') S :=
  fun b b' hb => h b b' hb b b' hb

theorem link_bind {next : τ → SessionM τ κ α} {next' : τ' → SessionM τ' κ α}
    (h : ∀ b b', R b b' → Couples R (next b.link) (next' b'.link) S) :
    Couples R (SessionM.link >>= next) (SessionM.link >>= next') S :=
  fun b b' hb => h b b' hb b b' hb

theorem change {R' : Bench τ κ → Bench τ' κ → Prop} {f : Bench τ κ → Bench τ κ}
    {f' : Bench τ' κ → Bench τ' κ} (h : ∀ b b', R b b' → R' (f b) (f' b')) :
    Couples R (SessionM.change f) (SessionM.change f') fun _ => R' :=
  fun b b' hb => ⟨rfl, h b b' hb⟩

/-- What follows whatever comes of the steps may depend on how they ended. -/
theorem andThen {S' : Except Error α → Bench τ κ → Bench τ' κ → Prop} {step : SessionM τ κ α}
    {step' : SessionM τ' κ α} {f : Except Error α → Bench τ κ → Bench τ κ}
    {f' : Except Error α → Bench τ' κ → Bench τ' κ} (hstep : Couples R step step' S)
    (hf : ∀ o b b', S o b b' → S' o (f o b) (f' o b')) :
    Couples R (step.andThen f) (step'.andThen f') S' := by
  intro b b' hb
  obtain ⟨hout, hstate⟩ := hstep b b' hb
  rw [run_andThen, run_andThen, ← hout]
  exact ⟨rfl, hf _ _ _ hstate⟩

theorem ensure (condition : Bool) (e : Error) :
    Couples R (SessionM.ensure condition e) (SessionM.ensure condition e) fun _ => R := by
  unfold SessionM.ensure
  split
  · exact pure ()
  · exact throw e

end Session

end Couples

end PgpCard.Step
