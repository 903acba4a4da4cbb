import PgpCard.Proofs.Session.PinHistory

/-!
# `PgpCard.Proofs.Session.Handover`: what a call with a PIN hands over

Four operations need a PIN: the two verifications, signing and deciphering. Each begins with a
demand for one class. `Demanded` has one constructor for each way in which that can go: the class
is verified already, there is no PIN to verify it with, or the card is asked. Afterwards the class
is verified exactly if the demand succeeded (`Demanded.pins`), and at most one VERIFY was handed
over (`Demanded.handed`). What else an operation hands over comes after a demand that succeeded,
so `handsOver_of_pinClass?` is put together from the two.

`unverified_sign` is about the other end of a signature: whatever came of it, the verification is
used up, but under the policy of several signatures per verification.
-/

set_option autoImplicit false

namespace PgpCard

open Step SessionM

namespace Event

/-- The command that the entry tells to be handed over for exchange. -/
def handed? : Event → Option Command
  | .dispatched _ c _ => some c
  | _ => none

/-- Nothing is handed over inside of an exchange. -/
theorem filterMap_handed?_of_isWork {work : List Event} (h : ∀ e ∈ work, e.isWork = true) :
    work.filterMap handed? = [] := by
  rw [List.filterMap_eq_nil_iff]
  intro e he
  have hwork := h e he
  cases e with
  | dispatched => exact nomatch hwork
  | _ => rfl

end Event

namespace Operation

variable {κ : Type}

/-- The class that the operation needs to be verified. -/
def pinClass? : Operation κ → Option PinClass
  | .verifyOwnPin cls => some cls
  | .verifyAdmin _ => some .admin
  | .sign _ => some .signature
  | .decipher _ => some .other
  | _ => none

/-- What the operation asks of the card once its class is verified, in the standard commands. -/
def securityCommand? : Operation κ → Option Command
  | .sign digestInfo => some (.sign digestInfo)
  | .decipher encrypted => some (.decipher encrypted)
  | _ => none

end Operation

/-- Several signatures are allowed only by a first PW status byte of `01`. -/
theorem ApplicationData.pinStatus_of_multipleSignatures {a : ApplicationData}
    (h : a.multipleSignatures = true) : ∃ rest, a.pinStatus = some (0x01 :: rest) := by
  unfold multipleSignatures at h
  split at h
  · next policy rest hstatus =>
    obtain rfl : policy = 0x01 := by simpa using h
    exact ⟨rest, hstatus⟩
  · exact nomatch h

namespace SessionM

variable {τ κ : Type} [Link τ] [Channel κ]

/-! ### One exchange -/

/-- The entries of one exchange. -/
theorem journal_communicate (purpose : Purpose) (c : Command) (b : Bench τ κ) :
    ∃ work, (∀ e ∈ work, e.isWork = true) ∧ (run (communicate purpose c) b).2.journal =
      (.concluded purpose (run (communicate purpose c) b).1 ::
        (work ++ [.dispatched purpose c b.session.pins])) ++ b.journal := by
  obtain ⟨work, hwork, hpassed⟩ := communicate_passed purpose c b
  exact ⟨work, hwork, hpassed.journal⟩

theorem handed_communicate (purpose : Purpose) (c : Command) (b : Bench τ κ) :
    ∃ events, (run (communicate purpose c) b).2.journal = events ++ b.journal ∧
      events.filterMap Event.handed? = [c] ∧
      .concluded purpose (run (communicate purpose c) b).1 ∈ events := by
  obtain ⟨work, hwork, hjournal⟩ := journal_communicate purpose c b
  refine ⟨_, hjournal, ?_, List.mem_cons_self⟩
  show (work ++ [Event.dispatched purpose c b.session.pins]).filterMap Event.handed? = [c]
  rw [List.filterMap_append, Event.filterMap_handed?_of_isWork hwork]
  rfl

theorem setup_communicate (purpose : Purpose) (c : Command) (b : Bench τ κ) :
    (run (communicate purpose c) b).2.session.setup = b.session.setup := by
  obtain ⟨o, b', hexchanged, hrun⟩ := run_communicate purpose c b
  rw [hrun]
  exact hexchanged.setup_and_pin.1

/-- An exchange by itself verifies nothing. -/
theorem unverified_communicate (cls : PinClass) (purpose : Purpose) (c : Command) :
    Keeps (fun b : Bench τ κ => b.session.pins.get cls = .unverified) (communicate purpose c) := by
  intro b hb
  obtain ⟨o, b', hexchanged, hrun⟩ := run_communicate purpose c b
  rw [hrun]
  show b'.session.pins.get cls = .unverified
  rw [hexchanged.session]
  cases Outcome.lost o with
  | false => exact hb
  | true => cases cls <;> rfl

/-! ### The demand for a class -/

/-- The card accepts the PIN, which is remembered, or it does not. -/
theorem verify_cases {cls : PinClass} {pin : Pin} {o : Except Error Unit} {b b' : Bench τ κ}
    (hrun : run (verify cls pin) b = (o, b')) :
    let exchanged := run (communicate (.verify cls)
      (b.session.setup.commands.verify cls pin.bytes)) b
    ((Event.concluded (.verify cls) exchanged.1).verifies cls = true ∧ o = .ok () ∧
      b' = exchanged.2.update (.noteEvent cls .verified)) ∨
    ∃ e, o = .error e ∧ b' = exchanged.2 := by
  intro exchanged
  rcases hexchanged : exchanged with ⟨e | r, b₁⟩
  · rw [verify, run_session_bind, run_bind_of_error hexchanged] at hrun
    obtain ⟨rfl, rfl⟩ := Prod.mk.inj hrun
    exact Or.inr ⟨e, rfl, rfl⟩
  · rw [verify, run_session_bind, run_bind_of_ok hexchanged, ensure] at hrun
    cases hsuccess : r.isSuccess with
    | false =>
      rw [hsuccess] at hrun
      obtain ⟨rfl, rfl⟩ := Prod.mk.inj hrun
      exact Or.inr ⟨_, rfl, rfl⟩
    | true =>
      rw [hsuccess] at hrun
      obtain ⟨rfl, rfl⟩ := Prod.mk.inj hrun
      exact Or.inl ⟨by simp [Event.verifies, hsuccess], rfl, rfl⟩

/-- The ways in which the demand for a class can go. -/
inductive Demanded (cls : PinClass) (b : Bench τ κ) : Except Error Unit → Bench τ κ → Prop where
  | known (hknown : b.session.pins.get cls = .verified) : Demanded cls b (.ok ()) b
  | missing {e : Error} (hunknown : b.session.pins.get cls = .unverified) :
      Demanded cls b (.error e) b
  | asked {o : Except Error Unit} {b' : Bench τ κ} {pin : Pin}
      (hunknown : b.session.pins.get cls = .unverified) (hrun : run (verify cls pin) b = (o, b')) :
      Demanded cls b o b'

omit [Link τ] [Channel κ] in
theorem unverified_of_not_isVerified {s : PinState} (h : ¬s.isVerified = true) :
    s = .unverified := by
  cases s with
  | unverified => rfl
  | verified => exact absurd rfl h

theorem verifyOwnPin_demanded (cls : PinClass) (b : Bench τ κ) :
    Demanded cls b (run (verifyOwnPin cls) b).1 (run (verifyOwnPin cls) b).2 := by
  rw [verifyOwnPin, run_session_bind]
  split
  · next hverified => exact .known (by simpa [PinState.isVerified] using hverified)
  · next hunverified =>
    have hunknown := unverified_of_not_isVerified hunverified
    cases b.session.pin with
    | none => exact .missing hunknown
    | some pin => exact .asked hunknown rfl

theorem verifyAdmin_demanded (pin : Pin) (b : Bench τ κ) :
    Demanded .admin b (run (verifyAdmin pin) b).1 (run (verifyAdmin pin) b).2 := by
  rw [verifyAdmin, run_session_bind]
  split
  · next hverified => exact .known (by simpa [PinState.isVerified] using hverified)
  · next hunverified => exact .asked (unverified_of_not_isVerified hunverified) rfl

namespace Demanded

variable {cls : PinClass} {o : Except Error Unit} {b b' : Bench τ κ}

/-- The class is verified in the end exactly if the demand succeeded. -/
theorem pins (h : Demanded cls b o b') :
    b'.session.pins.get cls = if o.isOk then .verified else .unverified := by
  cases h with
  | known hknown => exact hknown
  | missing hunknown => exact hunknown
  | @asked o b' pin hunknown hrun =>
    have hkept := unverified_communicate cls (.verify cls)
      (b.session.setup.commands.verify cls pin.bytes) b hunknown
    rcases verify_cases hrun with ⟨-, rfl, rfl⟩ | ⟨e, rfl, rfl⟩
    · show (PinStates.apply _ cls .verified).get cls = .verified
      rw [PinStates.apply, PinStates.get_set, if_pos rfl]
      rfl
    · exact hkept

theorem setup (h : Demanded cls b o b') : b'.session.setup = b.session.setup := by
  cases h with
  | known hknown => rfl
  | missing hunknown => rfl
  | @asked o b' pin hunknown hrun =>
    have hkept := setup_communicate (.verify cls)
      (b.session.setup.commands.verify cls pin.bytes) b
    rcases verify_cases hrun with ⟨-, -, rfl⟩ | ⟨e, -, rfl⟩
    · exact hkept
    · exact hkept

/-- One VERIFY is handed over at most, and none for a class that is verified. A demand that
succeeds has found the class verified or has had a VERIFY accepted. -/
theorem handed (h : Demanded cls b o b') (hstock : b.session.setup.commands = .standard) :
    ∃ events, b'.journal = events ++ b.journal ∧
      (events.filterMap Event.handed? = [] ∨ b.session.pins.get cls = .unverified ∧
        ∃ pin, events.filterMap Event.handed? = [.verify cls pin]) ∧
      (o = .ok () → b.session.pins.get cls = .verified ∨
        events.any (Event.verifies cls) = true) := by
  cases h with
  | known hknown => exact ⟨[], rfl, Or.inl rfl, fun _ => Or.inl hknown⟩
  | missing hunknown => exact ⟨[], rfl, Or.inl rfl, nofun⟩
  | @asked o b' pin hunknown hrun =>
    obtain ⟨events, hjournal, hhanded, hconcluded⟩ := handed_communicate (.verify cls)
      (b.session.setup.commands.verify cls pin.bytes) b
    have hverify : events.filterMap Event.handed? = [.verify cls pin.bytes] := by
      rw [hhanded, hstock]
      rfl
    rcases verify_cases hrun with ⟨hverifies, rfl, rfl⟩ | ⟨e, rfl, rfl⟩
    · refine ⟨events, hjournal, Or.inr ⟨hunknown, pin.bytes, hverify⟩, fun _ => Or.inr ?_⟩
      exact List.any_eq_true.mpr ⟨_, hconcluded, hverifies⟩
    · exact ⟨events, hjournal, Or.inr ⟨hunknown, pin.bytes, hverify⟩, nofun⟩

end Demanded

/-! ### What comes after the demand -/

omit [Link τ] [Channel κ] in
/-- To look at the status of an answer changes nothing. -/
theorem bench_payloadOf (action : String) (step : SessionM τ κ Response) (b : Bench τ κ) :
    (run (step >>= payloadOf action) b).2 = (run step b).2 := by
  rcases hrun : run step b with ⟨e | r, b'⟩
  · rw [run_bind_of_error hrun]
  · rw [run_bind_of_ok hrun, payloadOf, ensure]
    cases r.isSuccess <;> rfl

/-- What a step does that begins with a demand: it ends with a demand that fails, and goes on
from one that succeeds. -/
theorem demand_cases {α : Type} (cls : PinClass) (next : SessionM τ κ α) (b : Bench τ κ) :
    ∃ o b₁, run (verifyOwnPin cls) b = (o, b₁) ∧ Demanded cls b o b₁ ∧
      ((∃ e, o = .error e ∧ (run (verifyOwnPin cls >>= fun _ => next) b).2 = b₁) ∨
        o = .ok () ∧ (run (verifyOwnPin cls >>= fun _ => next) b).2 = (run next b₁).2) := by
  have hdemanded := verifyOwnPin_demanded cls b
  rcases hrun : run (verifyOwnPin cls) b with ⟨e | ⟨⟩, b₁⟩
  all_goals
    rw [hrun] at hdemanded
    refine ⟨_, b₁, rfl, hdemanded, ?_⟩
  · exact Or.inl ⟨e, rfl, by rw [run_bind_of_error hrun]⟩
  · exact Or.inr ⟨rfl, by rw [run_bind_of_ok hrun]⟩

/-- A signature is requested after a demand that succeeded, and is noted whatever came of it. -/
theorem sign_cases (digestInfo : Bytes) (b : Bench τ κ) :
    ∃ o b₁, run (verifyOwnPin .signature) b = (o, b₁) ∧ Demanded .signature b o b₁ ∧
      ((∃ e, o = .error e ∧ (run (sign digestInfo) b).2 = b₁) ∨
        o = .ok () ∧ (run (sign digestInfo) b).2 =
          (run (communicate .sign (b₁.session.setup.commands.sign digestInfo)) b₁).2.useSignature) := by
  obtain ⟨o, b₁, hrun, hdemanded, hcases⟩ := demand_cases .signature
    (requestSignature digestInfo >>= payloadOf "Failed to sign") b
  refine ⟨o, b₁, hrun, hdemanded, hcases.imp_right fun ⟨hok, hb'⟩ => ⟨hok, ?_⟩⟩
  rw [sign, hb', bench_payloadOf, requestSignature, run_session_bind, run_andThen]

/-- A decipherment is requested after a demand that succeeded. -/
theorem decipher_cases (encrypted : Bytes) (b : Bench τ κ) :
    ∃ o b₁, Demanded .other b o b₁ ∧
      ((∃ e, o = .error e ∧ (run (decipher encrypted) b).2 = b₁) ∨
        o = .ok () ∧ (run (decipher encrypted) b).2 =
          (run (communicate .decipher (b₁.session.setup.commands.decipher encrypted)) b₁).2) := by
  obtain ⟨o, b₁, -, hdemanded, hcases⟩ := demand_cases .other (do
    let r ← communicate .decipher ((← session).setup.commands.decipher encrypted)
    payloadOf "Failed to decipher" r) b
  refine ⟨o, b₁, hdemanded, hcases.imp_right fun ⟨hok, hb'⟩ => ⟨hok, ?_⟩⟩
  rw [decipher, hb', run_session_bind, bench_payloadOf]

/-- What a call hands over for a class: one VERIFY at most, and only if the class was not verified;
and then the command that the class is needed for at most, and only if the class was verified or
the VERIFY was accepted. -/
def HandsOver (cls : PinClass) (command? : Option Command) (b b' : Bench τ κ) : Prop :=
  ∃ events security verifications, b'.journal = events ++ b.journal ∧
    events.filterMap Event.handed? = security ++ verifications ∧
    (verifications = [] ∨
      b.session.pins.get cls = .unverified ∧ ∃ pin, verifications = [.verify cls pin]) ∧
    (security = [] ∨ security = command?.toList ∧
      (b.session.pins.get cls = .verified ∨ events.any (Event.verifies cls) = true))

theorem Demanded.handsOver {cls : PinClass} {o : Except Error Unit} {b b' : Bench τ κ}
    (h : Demanded cls b o b') (hstock : b.session.setup.commands = .standard)
    (command? : Option Command) : HandsOver cls command? b b' := by
  obtain ⟨events, hjournal, hverifications, -⟩ := h.handed hstock
  refine ⟨events, [], _, hjournal, rfl, ?_, Or.inl rfl⟩
  exact hverifications

/-- A demand that succeeds, and then one command. -/
theorem Demanded.handsOver_then {cls : PinClass} {b b₁ b' : Bench τ κ} {c : Command}
    {later : List Event} (h : Demanded cls b (.ok ()) b₁)
    (hstock : b.session.setup.commands = .standard) (hjournal : b'.journal = later ++ b₁.journal)
    (hlater : later.filterMap Event.handed? = [c]) : HandsOver cls (some c) b b' := by
  obtain ⟨events, hjournal₁, hverifications, hverified⟩ := h.handed hstock
  refine ⟨later ++ events, [c], events.filterMap Event.handed?, ?_, ?_, hverifications,
    Or.inr ⟨rfl, ?_⟩⟩
  · rw [hjournal, hjournal₁, List.append_assoc]
  · rw [List.filterMap_append, hlater]
  · rw [List.any_append]
    exact (hverified rfl).imp_right fun hany => by rw [hany, Bool.or_true]

/-- The operations that need a class keep to this. -/
theorem handsOver_of_pinClass? {op : Operation κ} {cls : PinClass} (hop : op.pinClass? = some cls)
    {b : Bench τ κ} (hstock : b.session.setup.commands = .standard) :
    HandsOver cls op.securityCommand? b (Operation.step b op).2 := by
  show HandsOver cls op.securityCommand? b (op.perform.start b).2
  rw [start_eq_run]
  cases op with
  | verifyOwnPin cls' =>
    obtain rfl : cls' = cls := Option.some.inj hop
    show HandsOver cls' _ b (run (verifyOwnPin cls' >>= fun u => pure _) b).2
    rw [run_bind_pure]
    exact (verifyOwnPin_demanded cls' b).handsOver hstock _
  | verifyAdmin pin =>
    obtain rfl : PinClass.admin = cls := Option.some.inj hop
    show HandsOver .admin _ b (run (verifyAdmin pin >>= fun u => pure _) b).2
    rw [run_bind_pure]
    exact (verifyAdmin_demanded pin b).handsOver hstock _
  | sign digestInfo =>
    obtain rfl : PinClass.signature = cls := Option.some.inj hop
    show HandsOver .signature _ b (run (sign digestInfo >>= fun bytes => pure _) b).2
    rw [run_bind_pure]
    obtain ⟨o, b₁, -, hdemanded, ⟨e, rfl, hb'⟩ | ⟨rfl, hb'⟩⟩ := sign_cases digestInfo b
    all_goals rw [hb']
    · exact hdemanded.handsOver hstock _
    · obtain ⟨events, hjournal, hhanded, -⟩ := handed_communicate .sign
        (b₁.session.setup.commands.sign digestInfo) b₁
      rw [hdemanded.setup, hstock] at hhanded
      -- The use of the signature is noted after the exchange.
      have hnoted : ∀ multiple, (Event.signatureUsed multiple :: events).filterMap Event.handed? =
          [.sign digestInfo] := fun _ => hhanded
      exact hdemanded.handsOver_then hstock (congrArg _ hjournal) (hnoted _)
  | decipher encrypted =>
    obtain rfl : PinClass.other = cls := Option.some.inj hop
    show HandsOver .other _ b (run (decipher encrypted >>= fun bytes => pure _) b).2
    rw [run_bind_pure]
    obtain ⟨o, b₁, hdemanded, ⟨e, rfl, hb'⟩ | ⟨rfl, hb'⟩⟩ := decipher_cases encrypted b
    all_goals rw [hb']
    · exact hdemanded.handsOver hstock _
    · obtain ⟨events, hjournal, hhanded, -⟩ := handed_communicate .decipher
        (b₁.session.setup.commands.decipher encrypted) b₁
      rw [hdemanded.setup, hstock] at hhanded
      exact hdemanded.handsOver_then hstock hjournal hhanded
  | _ => exact nomatch hop

/-- After a call to sign, whatever came of it, the signature class is verified only if the card
that is known then allows several signatures per verification. -/
theorem unverified_sign (digestInfo : Bytes) (b : Bench τ κ) :
    let b' := (run (sign digestInfo) b).2
    b'.session.pins.get .signature = .unverified ∨ b'.session.multipleSignatures = true := by
  intro b'
  obtain ⟨o, b₁, -, hdemanded, ⟨e, rfl, hb'⟩ | ⟨rfl, hb'⟩⟩ := sign_cases digestInfo b
  · -- The demand has failed.
    rw [show b' = b₁ from hb']
    exact Or.inl hdemanded.pins
  · rw [show b' = _ from hb']
    generalize (run (communicate .sign (b₁.session.setup.commands.sign digestInfo)) b₁).2 = b₂
    show (b₂.session.pins.apply .signature (.signatureUsed b₂.session.multipleSignatures)).get
      .signature = .unverified ∨ b₂.session.multipleSignatures = true
    cases b₂.session.multipleSignatures with
    | false => exact Or.inl rfl
    | true => exact Or.inr rfl

end SessionM

end PgpCard
