import PgpCard.Proofs.Tool.Turns
import PgpCard.Simulator.ScriptedService
import PgpCard.Tool.Run

/-!
# `PgpCard.Proofs.Tool.RetryCounter`: how the tool treats the retry counters of a card

A card counts the wrong PINs that it is given, and locks up after a few. So a tool must not send
a PIN more often than it is asked to, nor to an application that it has not looked at.

Each action of the tool has a plan: the turns of a bring-up, and then a few of its own
(`Tool.turns`). `prepare_plays` says that the step of an action follows its plan, and
`run_follows` that this is all that the service gets to see of a command line, however the
service and the card behave. What there is to say about PINs is then read off the plans
(`retry_counter_guarded`).

The session of the tool is a new one each time, with the standard setup. It has no channel, and
its PINs are not verified until the one turn that is about that (`Session.Ready`).
-/

set_option autoImplicit false

namespace PgpCard

open Step Docked

/-! ### The turns -/

namespace Turn

/-- A command that has to be answered with `90 00`. -/
def succeeding (c : Command) : Turn := ⟨c, fun r => r.isSuccess = true⟩

/-- A command that may be answered in any way. -/
def asking (c : Command) : Turn := ⟨c, fun _ => True⟩

/-- The application data has to be there, and to be readable. -/
def applicationData : Turn :=
  ⟨.getData .applicationData, fun r =>
    r.isSuccess = true ∧ ∃ a, ApplicationData.decode r.data = .ok a⟩

/-- The turns of a bring-up without secure messaging, over a link that cannot name its token. -/
def bringUp : List Turn :=
  [asking (.select Aid.fidesmo), succeeding (.select Aid.openPgp), applicationData]

/-- A PIN for one class. -/
def verification (cls : PinClass) (pin : Pin) : Turn := succeeding (.verify cls pin.bytes)

end Turn

/-! ### The steps of a session -/

namespace Session

variable {κ : Type}

/-- The setup is the standard one, and there is no channel. -/
structure Simple (s : Session κ) : Prop where
  setup : s.setup = {}
  channel : s.channel = none

/-- Moreover the session has this PIN, and nothing is verified. -/
structure Ready (pin : Option Pin) (s : Session κ) : Prop extends s.Simple where
  pin : s.pin = pin
  pins : s.pins = .fresh

end Session

namespace SessionM

open Session Turn

variable {σ κ α : Type} {P : Session κ → Prop} {Q : α → Session κ → Prop} {pin : Option Pin}

section Steps

variable [Service σ]

/-- Opening the link says nothing. -/
theorem plays_openLink : Plays (σ := σ) P [] openLink fun _ => P := by
  refine .link_bind fun d => ?_
  split
  · exact .pure fun _ hs => hs
  · intro b hagrees hb
    have hsilent : Went [] b.link (run Link.connect b.link).2 := by
      show Went [] b.link (run (Slot.asLink Slot.connectCard) b.link).2
      rw [Link.run_asLink]
      exact (Slot.connectCard_went hagrees).1
    rw [run_onLink]
    exact ⟨[], .silent hsilent, .nil [], fun _ _ => ⟨.nil, hb⟩⟩

variable [Channel κ]

/-- The card is asked for something without which the step does not go on. -/
theorem plays_succeeding (hP : ∀ s, P s → s.Simple) {purpose : Purpose} {c : Command}
    {e : Response → Error} {p : List Turn} {next : Response → SessionM (Docked (Watched σ)) κ α}
    (h : ∀ r, Plays P p (next r) Q) :
    Plays P (succeeding c :: p)
      (do let r ← communicate purpose c; ensure r.isSuccess (e r); next r) Q := by
  refine .ask (fun s hs => ?_) (fun s hs => (hP s hs).channel) (fun r _ => ?_) fun r hr => ?_
  · rw [(hP s hs).setup]
  · exact .ensure_bind fun _ => h r
  · exact .ensure_bind fun hok => absurd hok hr

/-- The card is asked for something, whatever it says. -/
theorem plays_asking (hP : ∀ s, P s → s.Simple) (purpose : Purpose) (c : Command) :
    Plays (σ := σ) P [asking c] (communicate purpose c) fun _ => P := by
  rw [← bind_pure (communicate purpose c)]
  refine .ask (fun s hs => ?_) (fun s hs => (hP s hs).channel) (fun r _ => .pure fun _ hs => hs)
    fun r hr => absurd trivial hr
  rw [(hP s hs).setup]

theorem plays_readObject (tag : ObjectTag) :
    Plays (σ := σ) (κ := κ) (Ready pin) [succeeding (.getData tag)] (readObject tag)
      fun _ => Ready pin := by
  refine .session_bind fun s hs => ?_
  rw [hs.setup]
  exact plays_succeeding (fun _ hs => hs.toSimple) fun r => .pure fun _ hs => hs

theorem plays_refresh :
    Plays (σ := σ) (κ := κ) (Ready pin) [applicationData] refresh fun _ => Ready pin := by
  rw [refresh, readObject]
  simp only [bind_assoc, pure_bind]
  refine .session_bind fun s hs => ?_
  rw [hs.setup]
  refine .ask (fun s hs => ?_) (fun s hs => hs.channel) (fun r hr => ?_) fun r hr => ?_
  · rw [hs.setup]
  · obtain ⟨hok, a, ha⟩ := hr
    rw [ha]
    exact .ensure_bind fun _ => .change (fun _ => rfl) fun b hb =>
      ⟨⟨hb.setup, hb.channel⟩, hb.pin, hb.pins⟩
  · -- What was read is not application data.
    refine .ensure_bind fun hok => ?_
    cases ha : ApplicationData.decode r.data with
    | error fault => exact .throw [] _
    | ok a => exact absurd ⟨hok, a, ha⟩ hr

/-- A slot cannot name its token, so the token is asked. -/
theorem plays_identify :
    Plays (σ := σ) (κ := κ) (Ready pin) [asking (.select Aid.fidesmo)] identify
      fun _ => Ready pin := by
  refine .link_bind fun d => .session_bind fun s hs => ?_
  rw [hs.setup]
  refine .session_bind fun s hs => ?_
  rw [hs.setup]
  exact Plays.bind (p := [asking (.select Aid.fidesmo)]) (q := [])
    (plays_asking (fun _ hs => hs.toSimple) .probe _) fun r => .pure fun _ hs => hs

/-- Without a provider there is no agreement, and none is required. -/
theorem plays_establish :
    Plays (σ := σ) (κ := κ) (Ready pin) [] establish fun _ => Ready pin := by
  have hwithout : Plays (σ := σ) (κ := κ) (Ready pin) [] (withoutChannel .unavailable)
      fun _ => Ready pin := by
    refine .session_bind fun s hs => ?_
    rw [hs.setup]
    exact .pure fun _ hs => hs
  refine .session_bind fun s hs => ?_
  rw [hs.setup]
  cases s.application <;> exact hwithout

theorem plays_bringUp :
    Plays (σ := σ) (κ := κ) (Ready pin) Turn.bringUp SessionM.bringUp fun _ => Ready pin := by
  refine Plays.bind (p := [asking (.select Aid.fidesmo)])
    (q := [succeeding (.select Aid.openPgp), applicationData]) plays_identify fun t => ?_
  -- The family of the token is noted.
  refine Plays.bind (p := []) (.change (Q := Ready pin) (fun _ => rfl) fun b hb =>
    ⟨⟨hb.setup, hb.channel⟩, hb.pin, hb.pins⟩) fun _ => ?_
  refine .session_bind fun s hs => ?_
  rw [hs.setup]
  refine plays_succeeding (fun _ hs => hs.toSimple) fun r => ?_
  refine Plays.bind (p := [applicationData]) (q := []) plays_refresh fun _ => ?_
  -- A selection undoes all verifications, and there were none.
  refine Plays.bind (p := []) (.change (Q := Ready pin) (fun _ => rfl) fun b hb =>
    ⟨⟨hb.setup, hb.channel⟩, hb.pin, rfl⟩) fun _ => ?_
  exact plays_establish

/-- A new session has to be brought up. -/
theorem plays_connectIfNecessary :
    Plays (σ := σ) (κ := κ) (· = .new {} pin) Turn.bringUp connectIfNecessary
      fun _ => Ready pin := by
  have hconnect : Plays (σ := σ) (κ := κ) (Ready pin) Turn.bringUp connect fun _ => Ready pin := by
    refine Plays.bind (p := []) plays_openLink fun _ => ?_
    refine Plays.bind (p := []) (.change (Q := Ready pin) link_clean fun b hb => ?_) fun _ => ?_
    · rw [session_clean]
      exact ⟨⟨hb.setup, rfl⟩, hb.pin, rfl⟩
    · refine plays_bringUp.andThen (fun o b => ?_) fun a b hb => hb
      cases o <;> rfl
  -- A new session has no application data, so it does not count as connected.
  refine .session_bind fun s hs => .link_bind fun d => ?_
  subst hs
  exact hconnect.mono (fun s hs => hs ▸ ⟨⟨rfl, rfl⟩, rfl, rfl⟩) fun _ _ hs => hs

theorem plays_verify (cls : PinClass) (given : Pin) :
    Plays (σ := σ) (κ := κ) (Ready pin) [verification cls given] (verify cls given)
      fun _ => Simple := by
  refine .session_bind fun s hs => ?_
  rw [hs.setup]
  exact plays_succeeding (fun _ hs => hs.toSimple) fun r =>
    .change (fun _ => rfl) fun b hb => ⟨hb.setup, hb.channel⟩

/-- As long as nothing is verified the PIN is sent. -/
theorem plays_verifyOwnPin (cls : PinClass) (own : Pin) :
    Plays (σ := σ) (κ := κ) (Ready (some own)) [verification cls own] (verifyOwnPin cls)
      fun _ => Simple := by
  refine .session_bind fun s hs => ?_
  rw [hs.pins, hs.pin]
  -- No class counts as verified, which is for each of them to see.
  cases cls <;> exact plays_verify _ own

theorem plays_verifyAdmin (given : Pin) :
    Plays (σ := σ) (κ := κ) (Ready pin) [verification .admin given] (verifyAdmin given)
      fun _ => Simple := by
  refine .session_bind fun s hs => ?_
  rw [hs.pins]
  exact plays_verify .admin given

omit [Service σ] [Channel κ] in
theorem plays_payloadOf (action : String) (r : Response) :
    Plays (σ := σ) P [] (payloadOf action r) fun _ => P :=
  .ensure_bind fun _ => .pure fun _ hs => hs

theorem plays_sign (own : Pin) (digestInfo : Bytes) :
    Plays (σ := σ) (κ := κ) (Ready (some own))
      [verification .signature own, asking (.sign digestInfo)] (sign digestInfo)
      fun _ => Simple := by
  refine Plays.bind (p := [verification .signature own]) (q := [asking (.sign digestInfo)])
    (plays_verifyOwnPin .signature own) fun _ => ?_
  have hrequest : Plays (σ := σ) (κ := κ) Simple [asking (.sign digestInfo)]
      (requestSignature digestInfo) fun _ => Simple := by
    refine .session_bind fun s hs => ?_
    rw [hs.setup]
    exact (plays_asking (fun _ hs => hs) .sign _).andThen (fun _ _ => rfl)
      fun _ b hb => ⟨hb.setup, hb.channel⟩
  exact Plays.bind (p := [asking (.sign digestInfo)]) (q := []) hrequest fun r =>
    plays_payloadOf _ r

theorem plays_decipher (own : Pin) (encrypted : Bytes) :
    Plays (σ := σ) (κ := κ) (Ready (some own))
      [verification .other own, asking (.decipher encrypted)] (decipher encrypted)
      fun _ => Simple := by
  refine Plays.bind (p := [verification .other own]) (q := [asking (.decipher encrypted)])
    (plays_verifyOwnPin .other own) fun _ => ?_
  refine .session_bind fun s hs => ?_
  rw [hs.setup]
  exact Plays.bind (p := [asking (.decipher encrypted)]) (q := [])
    (plays_asking (fun _ hs => hs) .decipher _) fun r => plays_payloadOf _ r

theorem plays_tokenInfo :
    Plays (σ := σ) (κ := κ) (Ready pin)
      [succeeding (.getData .cardholder), succeeding (.getData .url)] tokenInfo
      fun _ => Ready pin := by
  have hholder : Plays (σ := σ) (κ := κ) (Ready pin) [succeeding (.getData .cardholder)] holder
      fun _ => Ready pin :=
    Plays.bind (q := []) (plays_readObject .cardholder) fun _ => .pure fun _ hs => hs
  have hurl : Plays (σ := σ) (κ := κ) (Ready pin) [succeeding (.getData .url)] url
      fun _ => Ready pin :=
    Plays.bind (q := []) (plays_readObject .url) fun _ => .pure fun _ hs => hs
  refine .session_bind fun before _ => .ensure_bind fun _ => ?_
  refine Plays.bind (p := [succeeding (.getData .cardholder)])
    (q := [succeeding (.getData .url)]) hholder fun holder => ?_
  refine Plays.bind (p := [succeeding (.getData .url)]) (q := []) hurl fun url => ?_
  refine .session_bind fun after _ => .link_bind fun d => ?_
  cases snapshot before after (Link.kind d) holder url with
  | error fault => exact .throw [] _
  | ok info => exact .pure fun _ hs => hs

end Steps

end SessionM

/-! ### The actions of the tool -/

namespace Tool

open Turn

/-- What an action asks for after the bring-up, if its data can be read. -/
def requests : Action → Except Hex.Fault (List Turn)
  | .info => .ok [succeeding (.getData .cardholder), succeeding (.getData .url)]
  | .verifyPin pin admin => .ok [verification (if admin then .admin else .other) (.ofText pin)]
  | .sign pin data => do
    let digestInfo ← HexArgument.read data
    return [verification .signature (.ofText pin), asking (.sign digestInfo)]
  | .decipher pin data => do
    let encrypted ← HexArgument.read data
    return [verification .other (.ofText pin), asking (.decipher encrypted)]

/-- The turns of an action. With data that cannot be read there are none. -/
def turns (action : Action) : List Turn :=
  match requests action with
  | .ok more => Turn.bringUp ++ more
  | .error _ => []

/-- Something comes of a sequence only if something came of its first step. -/
theorem exists_of_bind_eq_ok {ε α β : Type} {first : Except ε α} {next : α → Except ε β} {b : β}
    (h : (first >>= next) = .ok b) : ∃ a, first = .ok a ∧ next a = .ok b := by
  cases first with
  | error e => exact nomatch h
  | ok a => exact ⟨a, rfl, h⟩

variable {σ : Type} [Service σ]

/-- What an action does once the session is up follows the bring-up. -/
theorem plays_connected {pin : Option Pin} {more : List Turn} {α : Type} {step : ToolM (Watched σ) α}
    {result : α → List String} {Q : α → Session Empty → Prop}
    (h : SessionM.Plays (Session.Ready pin) more step Q) :
    SessionM.Plays (· = .new {} pin) (Turn.bringUp ++ more)
      (do SessionM.connectIfNecessary; let a ← step; return result a) fun _ _ => True := by
  refine .bind SessionM.plays_connectIfNecessary fun _ => ?_
  rw [← List.append_nil more]
  exact h.bind fun a => .pure fun _ _ => trivial

/-- The step of an action follows the turns of the action. -/
theorem prepare_plays {action : Action} {pin : Option Pin} {step : ToolM (Watched σ) (List String)}
    (h : prepare action = .ok (pin, step)) :
    SessionM.Plays (· = .new {} pin) (turns action) step fun _ _ => True := by
  cases action with
  | info =>
    obtain ⟨rfl, rfl⟩ := Prod.mk.inj (Except.ok.inj h)
    refine .bind SessionM.plays_connectIfNecessary fun _ => ?_
    exact SessionM.Plays.bind (q := []) SessionM.plays_tokenInfo fun info =>
      .session_bind fun s _ => .pure fun _ _ => trivial
  | verifyPin given admin =>
    -- PW1 is the PIN of the session. PW3 is not, and is handed over.
    cases admin with
    | false =>
      obtain ⟨rfl, rfl⟩ := Prod.mk.inj (Except.ok.inj h)
      exact plays_connected (SessionM.plays_verifyOwnPin .other (.ofText given))
    | true =>
      obtain ⟨rfl, rfl⟩ := Prod.mk.inj (Except.ok.inj h)
      exact plays_connected (SessionM.plays_verifyAdmin (.ofText given))
  | sign given data =>
    obtain ⟨digestInfo, hread, hstep⟩ := exists_of_bind_eq_ok h
    obtain ⟨rfl, rfl⟩ := Prod.mk.inj (Except.ok.inj hstep)
    rw [turns, requests, hread]
    exact plays_connected (SessionM.plays_sign (.ofText given) digestInfo)
  | decipher given data =>
    obtain ⟨encrypted, hread, hstep⟩ := exists_of_bind_eq_ok h
    obtain ⟨rfl, rfl⟩ := Prod.mk.inj (Except.ok.inj hstep)
    rw [turns, requests, hread]
    exact plays_connected (SessionM.plays_decipher (.ofText given) encrypted)

/-- All that a slot gets to do for an action follows the turns of the action, from its beginning to
the release of the slot. -/
theorem perform_follows (action : Action) {d : Docked (Watched σ)} (hagrees : d.Agrees) :
    ∃ log : List Dialogue, (perform action d).2.transmissions =
        d.service.transmissions ++ log.flatMap (·.sent) ∧
      (∀ dialogue ∈ log, dialogue.Sound) ∧ Follows (turns action) log := by
  have hreleased : ∀ {d' : Docked (Watched σ)}, d'.Agrees →
      (Slot.release d').service.transmissions = d'.service.transmissions := by
    intro d' h
    exact (Slot.disconnectIfAny_went h .leave).transmissions.trans (List.append_nil _)
  rw [perform, attempt]
  cases hprepare : prepare (σ := Watched σ) action with
  | error fault =>
    -- The card is not touched.
    exact ⟨[], by rw [hreleased hagrees]; simp, nofun, .nil _⟩
  | ok prepared =>
    obtain ⟨pin, step⟩ := prepared
    obtain ⟨log, hspoke, hfollows, -⟩ :=
      prepare_plays hprepare { session := .new {} pin, link := d } hagrees rfl
    refine ⟨log, ?_, hspoke.sound, hfollows⟩
    have hend := (hreleased hspoke.went.agrees).trans hspoke.went.transmissions
    dsimp only
    rw [start_eq_run]
    rcases hrun : Step.run step { session := .new {} pin, link := d } with ⟨e | lines, b⟩
    all_goals rw [hrun] at hend
    · exact hend
    · exact hend

/-- The turns that a command line leads to, none where it does not get as far as a token. -/
def asked : Request → List Turn
  | .task (.token _ action) => turns action
  | _ => []

/-- All that a service gets to see of a command line follows its turns. -/
theorem run_follows (service : σ) (args : List String) :
    ∃ log : List Dialogue, (Tool.run ({ service } : Watched σ) args).2.transmissions =
        log.flatMap (·.sent) ∧
      (∀ d ∈ log, d.Sound) ∧ Follows (asked (Request.ofArguments args)) log := by
  have hsilent : ∀ p, ∃ log : List Dialogue, ([] : List Transmission) = log.flatMap (·.sent) ∧
      (∀ d ∈ log, d.Sound) ∧ Follows p log := fun p => ⟨[], rfl, nofun, .nil p⟩
  unfold Tool.run
  cases Request.ofArguments args with
  | usage => exact hsilent _
  | help => exact hsilent _
  | version => exact hsilent _
  | task task =>
    dsimp only
    unfold doTask
    cases Service.establish ({ service } : Watched σ) with
    | error fault => exact hsilent _
    | ok u =>
      cases task with
      | list => exact hsilent _
      | token wanted action =>
        dsimp only
        unfold onToken
        cases pickReader ({ service } : Watched σ) wanted with
        | error message => exact hsilent _
        | ok reader =>
          dsimp only
          cases hslot : Slot.new reader {} with
          | error fault => exact hsilent _
          | ok slot => exact perform_follows action (Slot.agrees_of_new hslot service)

/-! ### PINs -/

/-- The action is one that needs a PIN, and it can read its data if it takes any. -/
def Action.Verifies : Action → Prop
  | .info => False
  | .verifyPin _ _ => True
  | .sign _ data | .decipher _ data => ∃ bytes, HexArgument.read data = .ok bytes

/-- The card was asked for the OpenPGP application, and has selected it. -/
def Selected (d : Dialogue) : Prop := d.command = .select Aid.openPgp ∧ d.Accepted

/-- The card was asked for its application data, and has sent some that can be read. -/
def Described (d : Dialogue) : Prop :=
  d.command = .getData .applicationData ∧
    ∃ r a, d.outcome = .ok r ∧ r.isSuccess = true ∧ ApplicationData.decode r.data = .ok a

/-- What was said to the card for a request does not put its PINs at risk. -/
structure Guarded (request : Request) (log : List Dialogue) : Prop where
  /-- Nothing was transmitted after a frame that was not answered, so nothing was transmitted
  again. -/
  ended : ∀ t ∈ (log.flatMap (·.sent)).dropLast, t.answered = true
  /-- No command was sent after one that came to nothing. -/
  answered : ∀ d ∈ log.dropLast, ∃ r, d.outcome = .ok r
  /-- There was one VERIFY command at most. -/
  once : (log.map (·.command)).countP (·.ins = Ins.verify) ≤ 1
  /-- VERIFY was for an action that verifies, and whose data could be read. -/
  requested : ∀ d ∈ log, d.command.ins = Ins.verify →
    ∃ reader action, request = .task (.token reader action) ∧ action.Verifies
  /-- Before VERIFY the application was selected, and then described. -/
  described : ∀ front d back, log = front ++ d :: back → d.command.ins = Ins.verify →
    ∃ select read, [select, read].Sublist front ∧ Selected select ∧ Described read
  /-- Before a key was used a PIN was sent as a whole, and accepted. -/
  verified : ∀ front d back, log = front ++ d :: back → d.command.ins = Ins.securityOperation →
    ∃ v ∈ front, v.command.ins = Ins.verify ∧ v.Whole ∧ v.Accepted

/-- Where no turn is left nothing was said. -/
theorem Guarded.nil (request : Request) : Guarded request [] := by
  refine ⟨nofun, nofun, Nat.zero_le _, nofun, fun front d back h => ?_, fun front d back h => ?_⟩
  all_goals exact absurd h.symm (by simp)

/-- The turns of a bring-up were done, and then others. -/
theorem bringUp_done {q : List Turn} {done : List Dialogue}
    (h : List.Forall₂ Turn.Taken (Turn.bringUp ++ q) done) :
    ∃ probe select read later, done = probe :: select :: read :: later ∧
      (succeeding (.select Aid.openPgp)).Taken select ∧ Turn.applicationData.Taken read ∧
      List.Forall₂ Turn.Taken q later := by
  obtain ⟨probe, rest₁, -, hrest₁, rfl⟩ := List.forall₂_cons_left_iff.mp h
  obtain ⟨select, rest₂, hselect, hrest₂, rfl⟩ := List.forall₂_cons_left_iff.mp hrest₁
  obtain ⟨read, later, hread, hlater, rfl⟩ := List.forall₂_cons_left_iff.mp hrest₂
  exact ⟨probe, select, read, later, rfl, hselect, hread, hlater⟩

/-- A bring-up neither verifies a PIN nor uses a key. -/
theorem notMem_bringUp {c : Command} (hins : c.ins = Ins.verify ∨ c.ins = Ins.securityOperation) :
    c ∉ Turn.bringUp.map (·.command) := by
  have hothers : ∀ c ∈ Turn.bringUp.map (·.command),
      c.ins ≠ Ins.verify ∧ c.ins ≠ Ins.securityOperation := by
    decide
  intro hmem
  obtain ⟨hverify, hkey⟩ := hothers c hmem
  exact hins.elim hverify hkey

/-- After a bring-up an action asks for data only, or it can read its own data, and verifies a PIN
before it uses a key, if it does. -/
theorem requests_cases {action : Action} {more : List Turn} (h : requests action = .ok more) :
    (∀ turn ∈ more, turn.command.ins = Ins.getData) ∨
    action.Verifies ∧ ∃ cls pin rest, more = verification cls pin :: rest ∧
      ∀ turn ∈ rest, turn.command.ins = Ins.securityOperation := by
  cases action with
  | info =>
    obtain rfl := Except.ok.inj h
    left
    simp only [List.forall_mem_cons]
    decide
  | verifyPin given admin =>
    obtain rfl := Except.ok.inj h
    exact Or.inr ⟨trivial, _, _, [], rfl, nofun⟩
  | sign given data =>
    obtain ⟨digestInfo, hread, hmore⟩ := exists_of_bind_eq_ok h
    obtain rfl := Except.ok.inj hmore
    exact Or.inr ⟨⟨digestInfo, hread⟩, _, _, _, rfl, List.forall_mem_singleton.mpr rfl⟩
  | decipher given data =>
    obtain ⟨encrypted, hread, hmore⟩ := exists_of_bind_eq_ok h
    obtain rfl := Except.ok.inj hmore
    exact Or.inr ⟨⟨encrypted, hread⟩, _, _, _, rfl, List.forall_mem_singleton.mpr rfl⟩

/-- An action that sends a PIN or uses a key verifies first. -/
theorem verifies_of_mem {action : Action} {more : List Turn} {c : Command}
    (h : requests action = .ok more) (hc : c ∈ more.map (·.command))
    (hins : c.ins = Ins.verify ∨ c.ins = Ins.securityOperation) :
    action.Verifies ∧ ∃ cls pin rest, more = verification cls pin :: rest := by
  rcases requests_cases h with hreads | ⟨hverifies, cls, pin, rest, hmore, -⟩
  · obtain ⟨turn, hturn, rfl⟩ := List.mem_map.mp hc
    rw [hreads turn hturn] at hins
    exact absurd hins (by decide)
  · exact ⟨hverifies, cls, pin, rest, hmore⟩

/-- A bring-up is done before a PIN is sent and before a key is used. -/
theorem after_bringUp {more : List Turn} {front back : List Dialogue} {d : Dialogue}
    (h : Follows (Turn.bringUp ++ more) (front ++ d :: back))
    (hins : d.command.ins = Ins.verify ∨ d.command.ins = Ins.securityOperation) :
    d.command ∈ more.map (·.command) ∧
      ∃ done later, front = done ++ later ∧ List.Forall₂ Turn.Taken Turn.bringUp done := by
  have hnot := notMem_bringUp hins
  refine ⟨?_, h.done_of_notMem hnot⟩
  have hmem : d.command ∈ (front ++ d :: back).map (·.command) := List.mem_map_of_mem (by simp)
  have hplan := h.commands.subset hmem
  rw [List.map_append] at hplan
  exact (List.mem_append.mp hplan).resolve_left hnot

theorem countP_verify_eq_zero {p : List Turn} (h : ∀ turn ∈ p, turn.command.ins ≠ Ins.verify) :
    (p.map (·.command)).countP (·.ins = Ins.verify) = 0 := by
  rw [List.countP_eq_zero]
  intro c hc
  obtain ⟨turn, hturn, rfl⟩ := List.mem_map.mp hc
  exact fun hverify => h turn hturn (of_decide_eq_true hverify)

/-- There is one VERIFY command at most among the turns of an action. -/
theorem countP_verify_le {action : Action} {more : List Turn} (h : requests action = .ok more) :
    ((Turn.bringUp ++ more).map (·.command)).countP (·.ins = Ins.verify) ≤ 1 := by
  have hbringUp : (Turn.bringUp.map (·.command)).countP (·.ins = Ins.verify) = 0 := rfl
  rw [List.map_append, List.countP_append, hbringUp, Nat.zero_add]
  rcases requests_cases h with hreads | ⟨-, cls, pin, rest, rfl, hkeys⟩
  · have hnone := countP_verify_eq_zero fun turn hturn => (hreads turn hturn).trans_ne (by decide)
    rw [hnone]
    exact Nat.zero_le 1
  · have hnone := countP_verify_eq_zero fun turn hturn => (hkeys turn hturn).trans_ne (by decide)
    rw [List.map_cons, List.countP_cons, hnone]
    exact Nat.le_refl 1

/-- A session that follows the turns of an action is guarded. -/
theorem guarded_of_follows {reader : Option String} {action : Action} {log : List Dialogue}
    (hsound : ∀ d ∈ log, d.Sound) (h : Follows (turns action) log) :
    Guarded (.task (.token reader action)) log := by
  rw [turns] at h
  cases hmore : requests action with
  | error fault =>
    rw [hmore] at h
    rw [h.eq_nil]
    exact .nil _
  | ok more =>
    rw [hmore] at h
    have h : Follows (Turn.bringUp ++ more) log := h
    refine ⟨h.goesOn hsound, h.answered, ?_, fun d hd hins => ?_, ?_, ?_⟩
    · exact Nat.le_trans h.commands.sublist.countP_le (countP_verify_le hmore)
    · -- The command is not one of the bring-up, so the action has asked for it.
      obtain ⟨front, back, rfl⟩ := List.append_of_mem hd
      obtain ⟨hlate, -⟩ := after_bringUp h (Or.inl hins)
      obtain ⟨hverifies, -⟩ := verifies_of_mem hmore hlate (Or.inl hins)
      exact ⟨reader, action, rfl, hverifies⟩
    · -- Everything of the bring-up was done before.
      rintro front d back rfl hins
      obtain ⟨-, done, later, rfl, hdone⟩ := after_bringUp h (Or.inl hins)
      obtain ⟨probe, select, read, rest, rfl, hselect, hread, -⟩ := bringUp_done (q := []) hdone
      obtain ⟨r, hr, hok, a, ha⟩ := hread.answer
      refine ⟨select, read, ?_, ⟨hselect.command, hselect.answer⟩, hread.command, r, a, hr, hok, ha⟩
      exact .cons _ (.cons_cons _ (.cons_cons _ (List.nil_sublist _)))
    · -- So was the verification, which comes next and is not the use of a key.
      rintro front d back rfl hins
      obtain ⟨hlate, -⟩ := after_bringUp h (Or.inr hins)
      obtain ⟨-, cls, pin, rest, rfl⟩ := verifies_of_mem hmore hlate (Or.inr hins)
      have hplan : Follows ((Turn.bringUp ++ [verification cls pin]) ++ rest)
          (front ++ d :: back) := by
        rwa [List.append_assoc]
      have hnot : d.command ∉ (Turn.bringUp ++ [verification cls pin]).map (·.command) := by
        rw [List.map_append]
        intro hmem
        rcases List.mem_append.mp hmem with hmem | hmem
        · exact notMem_bringUp (Or.inr hins) hmem
        · rw [List.mem_singleton.mp hmem] at hins
          exact absurd hins (by decide : Ins.verify ≠ Ins.securityOperation)
      obtain ⟨done, later, rfl, hdone⟩ := hplan.done_of_notMem hnot
      obtain ⟨probe, select, read, own, rfl, -, -, hown⟩ := bringUp_done hdone
      obtain ⟨v, others, hv, -, rfl⟩ := List.forall₂_cons_left_iff.mp hown
      obtain ⟨r, hr, hok⟩ := hv.answer
      have hv' : v ∈ probe :: select :: read :: v :: others ++ later := by simp
      have hwhole : v.Whole := (hsound v (List.mem_append_left _ hv')).whole r hr
      exact ⟨v, hv', congrArg Command.ins hv.command, hwhole, r, hr, hok⟩

/-- What follows the turns of a request is guarded. -/
theorem guarded_of_asked {request : Request} {log : List Dialogue} (hsound : ∀ d ∈ log, d.Sound)
    (h : Follows (asked request) log) : Guarded request log := by
  cases request with
  | task task =>
    cases task with
    | token reader action => exact guarded_of_follows hsound h
    | list =>
      rw [h.eq_nil]
      exact .nil _
  | _ =>
    rw [h.eq_nil]
    exact .nil _

/-- However the service and the card behave, what the tool transmits for a command line is a list
of dialogues that does not put the PINs of the card at risk. -/
theorem retry_counter_guarded (service : σ) (args : List String) :
    ∃ log : List Dialogue,
      (Tool.run ({ service } : Watched σ) args).2.transmissions = log.flatMap (·.sent) ∧
      (∀ d ∈ log, d.Sound ∧ ∀ t ∈ d.sent,
        t.frame[1]? = some d.command.ins ∨ t.frame[1]? = some Ins.getResponse) ∧
      Guarded (Request.ofArguments args) log := by
  obtain ⟨log, htransmitted, hsound, hfollows⟩ := run_follows service args
  exact ⟨log, htransmitted, fun d hd => ⟨hsound d hd, (hsound d hd).ins⟩,
    guarded_of_asked hsound hfollows⟩

open Simulator in
/-- A signature takes three frames to bring the session up, one for the PIN and one for the
digest. -/
example :
    let described : Bytes := [0x6E, 0x16, 0x4F, 0x01, 0xD2, 0x5F, 0x52, 0x08, 0x00, 0x73, 0x00, 0x00,
      0x80, 0x00, 0x90, 0x00, 0x73, 0x06, 0xC0, 0x02, 0x00, 0x00, 0xC4, 0x00, 0x90, 0x00]
    let transmits := [[0x6A, 0x82], [0x90, 0x00], described, [0x90, 0x00], [0x01, 0x90, 0x00]]
    let service : ScriptedService :=
      { readers := [{ name := "Reader", transmits := transmits.map .ok }] }
    let args := ["--reader", "Reader", "sign", "--pin", "123456", "00"]
    (Tool.run ({ service } : Watched ScriptedService) args).2.transmissions.map (·.frame[1]?) =
      [some Ins.select, some Ins.select, some Ins.getData, some Ins.verify,
        some Ins.securityOperation] := by
  decide +kernel

end Tool

end PgpCard
