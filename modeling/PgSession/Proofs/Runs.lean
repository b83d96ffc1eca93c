import PgSession.Proofs.Waiting

/-!
Runs of a client. Each operation that its phase allows does what one operation of a session does, and
leads to the phase that goes with the outcome. A whole handshake is its four stages one after
another, so a property of the stages is a property of every run.
-/

namespace PgSession.Proofs
open Wire Session

variable {τ α : Type} [Transport τ]

/-- What every operation relies on, and what it leaves behind. -/
structure Sturdy (session : Session τ) : Prop where
  sound : Sound session.buffer
  discreet : Discreet session.buses

theorem Refines.does {action direct : Action τ α} (refines : Refines Sound action direct Same)
    {session : Session τ} (sturdy : Sturdy session)
    {described : List Call → Report → Except (Halt Error) α → Prop}
    (does : Does session direct described) :
    ∃ calls, Advances session calls (final (action session)) ∧ Sturdy (final (action session)) ∧
      described calls (reported (final (action session))) (outcome (action session)) := by
  obtain ⟨buffer, sound, ran⟩ := refines.run sturdy.sound
  obtain ⟨calls, advances, holds⟩ := does sturdy.discreet
  rw [ran]
  refine ⟨calls, ?_⟩
  cases found : direct session with
  | ok value session' =>
    rw [found] at advances holds
    exact ⟨⟨advances.outlook, advances.calls, advances.discreet⟩, ⟨sound, advances.discreet⟩, holds⟩
  | error halt session' =>
    rw [found] at advances holds
    exact ⟨⟨advances.outlook, advances.calls, advances.discreet⟩, ⟨sound, advances.discreet⟩, holds⟩

theorem new_sturdy (config : Config) (link : τ) : Sturdy (Session.new config link) := by
  obtain ⟨buses, fresh, responses⟩ := new_eq config link
  rw [fresh]
  exact ⟨Sound.new _, fun topic entry member seen => (responses topic entry member seen).2⟩

omit [Transport τ] in
theorem subscribe_sturdy {session : Session τ} (sturdy : Sturdy session) (topic : Topic)
    (observer : Observer) : Sturdy (session.subscribe topic observer.response).2 := by
  refine ⟨sturdy.sound, ?_⟩
  intro other entry member seen
  simp only [Session.subscribe, get_set] at member
  split at member
  · simp only [Bus.subscribe, List.mem_append, List.mem_singleton] at member
    rcases member with earlier | rfl
    · exact sturdy.discreet topic entry earlier seen
    · cases seen <;> rfl
  · exact sturdy.discreet other entry member seen

omit [Transport τ] in
theorem unsubscribe_sturdy {session : Session τ} (sturdy : Sturdy session) (topic : Topic)
    (id : Nat) : Sturdy (session.unsubscribe topic id).2 := by
  refine ⟨sturdy.sound, ?_⟩
  intro other entry member
  simp only [Session.unsubscribe, get_set] at member
  split at member
  · exact sturdy.discreet topic entry (List.mem_filter.mp member).1
  · exact sturdy.discreet other entry member

/-- A client after operations, one after another. -/
def performAll (client : Client τ) (operations : List Operation) : Client τ :=
  operations.foldl (fun client operation => (client.perform operation).2) client

/-- The phase an outcome leads to. -/
def leads (success failure : Phase) : Except (Halt Error) Unit → Phase
  | .ok () => success
  | .error (.failed _) => failure
  | .error (.crashed _) => .done

theorem leads_done (result : Except (Halt Error) Unit) : leads .done .done result = .done := by
  rcases result with (_ | _) | _ <;> rfl

/-- The answer an outcome amounts to. -/
def answered : Except (Halt Error) Unit → Answer
  | .ok () => .finished (.ok ())
  | .error (.failed error) => .finished (.error error)
  | .error (.crashed crash) => .crashed crash

omit [Transport τ] in
theorem advance_eq (session : Session τ) (action : Action τ Unit) (success failure : Phase) :
    Client.advance session action success failure =
      (answered (outcome (action session)),
        ⟨leads success failure (outcome (action session)), final (action session)⟩) := by
  unfold Client.advance
  split <;> next ran => rw [ran]; rfl

omit [Transport τ] in
/-- An operation answers as its counterpart without a buffer does, and leaves what that leaves. -/
theorem Refines.advance {action direct : Action τ Unit}
    (refines : Refines Sound action direct Same) {session : Session τ}
    (sound : Sound session.buffer) (success failure : Phase) : ∃ buffer, Sound buffer ∧
    Client.advance session action success failure =
      (answered (outcome (direct session)),
        ⟨leads success failure (outcome (direct session)), { final (direct session) with buffer }⟩) := by
  obtain ⟨buffer, still, ran⟩ := refines.run sound
  exact ⟨buffer, still, by rw [advance_eq, ran, outcome_withBuffer, final_withBuffer]⟩

/-- The stages of a whole handshake. -/
def stages : List Operation := [.secure, .sendStartup, .authenticate, .ready]

theorem perform_allowed {client : Client τ} {operation : Operation}
    (allowed : client.phase.allows operation) : client.perform operation = client.run operation :=
  if_pos allowed

theorem perform_refused {client : Client τ} {operation : Operation}
    (refused : client.phase.allows operation = false) :
    client.perform operation = (.wrongPhase, client) :=
  if_neg (by rw [refused]; exact Bool.false_ne_true)

omit [Transport τ] in
private theorem advance_error {session session' : Session τ} {action : Action τ Unit}
    {halt : Halt Error} (ran : action session = .error halt session') (success : Phase) :
    (Client.advance session action success .done).2 = ⟨.done, session'⟩ := by
  rw [advance_eq, ran]
  cases halt <;> rfl

theorem performAll_done (session : Session τ) (operations : List Operation) :
    performAll ⟨.done, session⟩ operations = ⟨.done, session⟩ := by
  induction operations with
  | nil => rfl
  | cons operation operations ih =>
    have refused : Phase.done.allows operation = false := by cases operation <;> rfl
    rw [performAll, List.foldl_cons, perform_refused refused]
    exact ih

theorem startup_of_handshake {phase : Phase} (allowed : phase.allows .handshake) :
    phase = .startup := by
  cases phase <;> first | rfl | cases allowed

/-- A stage that fails is the last, and one that succeeds hands on to the others. -/
private theorem stage_then {phase next last : Phase} {session : Session τ} {operation : Operation}
    {action rest : Action τ Unit} (operations : List Operation)
    (performs : (Client.perform ⟨phase, session⟩ operation).2 =
      (Client.advance session action next .done).2)
    (others : ∀ session, (Client.advance session rest last .done).2 =
      performAll ⟨next, session⟩ operations) :
    (Client.advance session (action >>= fun _ => rest) last .done).2 =
      performAll ⟨phase, session⟩ (operation :: operations) := by
  rw [performAll, List.foldl_cons, performs, ← performAll]
  cases ran : action session with
  | ok nothing session' =>
    have continues : Client.advance session (action >>= fun _ => rest) last .done =
        Client.advance session' rest last .done := by
      rw [Client.advance, bind_ok ran, ← Client.advance]
    rw [continues, others, advance_eq, ran]
    rfl
  | error halt session' =>
    rw [advance_error (bind_error ran), advance_error ran, performAll_done]

/-- A whole handshake is its stages. -/
theorem handshake_stages {client : Client τ} (allowed : client.phase.allows .handshake) :
    (client.perform .handshake).2 = performAll client stages := by
  obtain ⟨phase, session⟩ := client
  obtain rfl := startup_of_handshake allowed
  refine stage_then _ rfl fun session => ?_
  refine stage_then _ rfl fun session => ?_
  refine stage_then _ rfl fun session => ?_
  rfl

/-- What holds at the start and is kept by every stage holds after every run. -/
theorem performAll_induction {motive : Client τ → Prop} {permits : Operation → Prop}
    (step : ∀ client operation, motive client → permits operation → operation ≠ .handshake →
      client.phase.allows operation → motive (client.run operation).2)
    (parts : ∀ stage ∈ stages, permits stage) {operations : List Operation}
    (permitted : ∀ operation ∈ operations, permits operation) {client : Client τ}
    (start : motive client) : motive (performAll client operations) := by
  have one : ∀ client operation, motive client → permits operation → operation ≠ .handshake →
      motive (client.perform operation).2 := by
    intro client operation holds permit single
    cases allowed : client.phase.allows operation with
    | true =>
      rw [perform_allowed allowed]
      exact step client operation holds permit single allowed
    | false =>
      rw [perform_refused allowed]
      exact holds
  induction operations generalizing client with
  | nil => exact start
  | cons operation operations ih =>
    obtain ⟨first, others⟩ := List.forall_mem_cons.mp permitted
    refine ih others ?_
    change motive (client.perform operation).2
    by_cases whole : operation = .handshake
    · -- Its stages are operations for which the step is known, even if an early one ends the run.
      subst whole
      cases allowed : client.phase.allows .handshake with
      | false =>
        rw [perform_refused allowed]
        exact start
      | true =>
        rw [handshake_stages allowed]
        have secured := one _ _ start (parts .secure (by simp [stages])) nofun
        have sent := one _ _ secured (parts .sendStartup (by simp [stages])) nofun
        have authenticated := one _ _ sent (parts .authenticate (by simp [stages])) nofun
        exact one _ _ authenticated (parts .ready (by simp [stages])) nofun
    · exact one client operation start first whole

/-- Operations that need no call. -/
def quiet : Operation → Bool
  | .subscribe .. | .unsubscribe .. | .settings | .parameter _ => true
  | _ => false

/-- What an operation does in a phase that allows it: its calls, what is reported then, its answer and
the next phase. -/
inductive Ran (before : Outlook τ) (report : Report) :
    Phase → Operation → List Call → Report → Answer → Phase → Prop
  | still {phase : Phase} {operation : Operation} {answer : Answer} (quiet : quiet operation) :
    Ran before report phase operation [] report answer phase
  | handshake {calls : List Call} {report' : Report} {result : Except (Halt Error) Unit}
    (does : Shaking before report calls report' result) :
    Ran before report .startup .handshake calls report' (answered result)
      (leads .connection .done result)
  | secure {calls : List Call} {report' : Report} {result : Except (Halt Error) Unit}
    (does : Securing before report calls report' result) :
    Ran before report .startup .secure calls report' (answered result) (leads .secured .done result)
  | sendStartup {calls : List Call} {report' : Report} {result : Except (Halt Error) Unit}
    (does : Introducing before report calls report' result) :
    Ran before report .secured .sendStartup calls report' (answered result)
      (leads .authenticating .done result)
  | authenticate {calls : List Call} {report' : Report} {result : Except (Halt Error) Unit}
    (does : Authenticating before report calls report' result) :
    Ran before report .authenticating .authenticate calls report' (answered result)
      (leads .authenticated .done result)
  | ready {calls : List Call} {report' : Report} {result : Except (Halt Error) Unit}
    (does : Readying before report calls report' result) :
    Ran before report .authenticated .ready calls report' (answered result)
      (leads .connection .done result)
  | tick (timeout : Nat) {calls : List Call} {report' : Report} {result : Except (Halt Error) Unit}
    (ticks : Ticking before report timeout calls report' result) :
    Ran before report .connection (.tick timeout) calls report' (answered result)
      (leads .connection .connection result)
  | cancelOther (key : KeyData) {calls : List Call} {result : Except (Halt Error) Unit}
    (parts : Parts before key.cancelRequest calls) (plain : Plain result) :
    Ran before report .startup (.cancelOther key) calls report (answered result)
      (leads .done .done result)
  | close {calls : List Call} {result : Except (Halt Error) Unit}
    (parts : Parts before .terminate calls) (plain : Plain result) :
    Ran before report .connection .close calls report (answered result) (leads .done .done result)
  | terminated (given : Except Error Unit) {calls : List Call} {result : Except (Halt Error) Unit}
    (parts : Parts before .terminate calls)
    (kept : ∀ error, given = .error error → result = .error (.failed error)) :
    Ran before report .connection (.terminated given) calls report (answered result)
      (leads .done .done result)

private theorem advance_does {session : Session τ} (sturdy : Sturdy session)
    {action direct : Action τ Unit} (refines : Refines Sound action direct Same)
    {described : List Call → Report → Except (Halt Error) Unit → Prop}
    (does : Does session direct described) (success failure : Phase) {before : Outlook τ}
    {report : Report} {phase : Phase} {operation : Operation}
    (holds : ∀ calls report' result, described calls report' result →
      Ran before report phase operation calls report' (answered result)
        (leads success failure result)) :
    let advanced := Client.advance session action success failure
    ∃ calls, Advances session calls advanced.2.session ∧ Sturdy advanced.2.session ∧
      Ran before report phase operation calls (reported advanced.2.session) advanced.1
        advanced.2.phase := by
  obtain ⟨calls, advances, still, shown⟩ := refines.does sturdy does
  rw [advance_eq]
  exact ⟨calls, advances, still, holds _ _ _ shown⟩

/-- What takes place without hearing anything reports nothing. -/
private theorem talk_does {session : Session τ} (sturdy : Sturdy session) {talk : Talk True Unit}
    {action direct : Action τ Unit} (means : Means (.talk talk) action direct)
    {described : List Call → Except (Halt Error) Unit → Prop} (asks : Asks session direct described)
    (success failure : Phase) {before : Outlook τ} {phase : Phase} {operation : Operation}
    (holds : ∀ calls result, described calls result →
      Ran before (reported session) phase operation calls (reported session) (answered result)
        (leads success failure result)) :
    let advanced := Client.advance session action success failure
    ∃ calls, Advances session calls advanced.2.session ∧ Sturdy advanced.2.session ∧
      Ran before (reported session) phase operation calls (reported advanced.2.session) advanced.1
        advanced.2.phase := by
  refine advance_does sturdy means.refines (asks.still (means.still session)) success failure ?_
  rintro calls _ result ⟨rfl, shown⟩
  exact holds calls result shown

theorem run_ran {client : Client τ} (sturdy : Sturdy client.session) {operation : Operation}
    (allowed : client.phase.allows operation) :
    ∃ calls, Advances client.session calls (client.run operation).2.session ∧
      Sturdy (client.run operation).2.session ∧
      Ran (outlook client.session) (reported client.session) client.phase operation calls
        (reported (client.run operation).2.session) (client.run operation).1
        (client.run operation).2.phase := by
  obtain ⟨phase, session⟩ := client
  have same := Advances.refl sturdy.discreet
  cases operation with
  | subscribe topic observer =>
    have after := subscribe_sturdy sturdy topic observer
    exact ⟨[], ⟨same.outlook, same.calls, after.discreet⟩, after, .still rfl⟩
  | unsubscribe topic id =>
    have after := unsubscribe_sturdy sturdy topic id
    exact ⟨[], ⟨same.outlook, same.calls, after.discreet⟩, after, .still rfl⟩
  | settings | parameter => exact ⟨[], same, sturdy, .still rfl⟩
  | handshake =>
    cases phase with
    | startup =>
      exact advance_does sturdy Means.handshake.refines handshake_does _ _ fun _ _ _ => .handshake
    | _ => cases allowed
  | secure =>
    cases phase with
    | startup => exact advance_does sturdy Means.secure.refines secure_does _ _ fun _ _ _ => .secure
    | _ => cases allowed
  | sendStartup =>
    cases phase with
    | secured =>
      exact advance_does sturdy Means.sendStartup.refines sendStartup_does _ _ fun _ _ _ => .sendStartup
    | _ => cases allowed
  | authenticate =>
    cases phase with
    | authenticating =>
      exact advance_does sturdy Means.authenticate.refines authenticate_does _ _
        fun _ _ _ => .authenticate
    | _ => cases allowed
  | ready =>
    cases phase with
    | authenticated =>
      exact advance_does sturdy Means.becomeReady.refines becomeReady_does _ _ fun _ _ _ => .ready
    | _ => cases allowed
  | tick timeout =>
    cases phase with
    | connection =>
      exact advance_does sturdy (Means.tick timeout).refines (tick_does timeout) _ _
        fun _ _ _ => .tick timeout
    | _ => cases allowed
  | cancelOther key =>
    cases phase with
    | startup =>
      exact talk_does sturdy (Means.cancelOther key) (cancelOther_asks key) _ _
        fun _ _ holds => .cancelOther key holds.1 holds.2
    | _ => cases allowed
  | close =>
    cases phase with
    | connection =>
      exact talk_does sturdy Means.close close_asks _ _ fun _ _ holds => .close holds.1 holds.2
    | _ => cases allowed
  | terminated given =>
    cases phase with
    | connection =>
      exact talk_does sturdy (Means.terminated given) (terminated_asks given) _ _
        fun _ _ holds => .terminated given holds.1 holds.2
    | _ => cases allowed

/-- Where every session starts. -/
def beginning (config : Config) (link : τ) : Outlook τ := ⟨config, link, false⟩

/-- A client in the middle of a run, of whose phase and calls something is known. -/
structure Underway (start : Outlook τ) (known : Phase → List Call → Prop) (client : Client τ) :
    Prop where
  sturdy : Sturdy client.session
  outlook : outlook client.session = start.after client.session.channel.calls
  known : known client.phase client.session.channel.calls

theorem new_outlook (config : Config) (link : τ) :
    outlook (Session.new config link) = beginning config link ∧
      (Session.new config link).channel.calls = [] := by
  obtain ⟨buses, fresh, -⟩ := new_eq config link
  rw [fresh]
  exact ⟨rfl, rfl⟩

/-- What is known of no calls, and still known after every operation, is known of every run. -/
theorem performAll_underway (config : Config) (link : τ) {known : Phase → List Call → Prop}
    (permits : Operation → Prop) (fresh : known .startup [])
    (step : ∀ {phase calls report operation made report' answer phase'}, known phase calls →
      permits operation → operation ≠ .handshake →
      Ran ((beginning config link).after calls) report phase operation made report' answer phase' →
      known phase' (calls ++ made))
    (parts : ∀ stage ∈ stages, permits stage) {operations : List Operation}
    (permitted : ∀ operation ∈ operations, permits operation) :
    Underway (beginning config link) known (performAll (Client.new config link) operations) := by
  refine performAll_induction ?_ parts permitted ?_
  · intro client operation underway permit single allowed
    obtain ⟨made, advances, sturdy, ran⟩ := run_ran underway.sturdy allowed
    rw [underway.outlook] at ran
    refine ⟨sturdy, ?_, ?_⟩
    · rw [advances.outlook, advances.calls, underway.outlook, Outlook.after_append]
    · rw [advances.calls]
      exact step underway.known permit single ran
  · obtain ⟨same, nothing⟩ := new_outlook config link
    refine ⟨new_sturdy config link, ?_, ?_⟩
    · rw [Client.new, same, nothing, Outlook.after_nil]
    · rw [Client.new, nothing]
      exact fresh

/-- No run breaks a session or changes its settings. -/
theorem performAll_sturdy (config : Config) (link : τ) (operations : List Operation) :
    let client := performAll (Client.new config link) operations
    Sturdy client.session ∧ client.session.config = config := by
  have underway : Underway (beginning config link) (fun _ _ => True)
      (performAll (Client.new config link) operations) :=
    performAll_underway config link (fun _ => True) trivial (fun _ _ _ _ => trivial)
      (fun _ _ => trivial) fun _ _ => trivial
  exact ⟨underway.sturdy, congrArg Outlook.config underway.outlook⟩

end PgSession.Proofs
