import PgSession.Proofs.StageReports
import PgSession.Transport.Script

/-!
What a client reports of a failure. A handshake reports what the first of its stages reports that does
not succeed. What is done before a handshake or after it names no stage, and a session that is ended
because of a failure reports that failure and no other.
-/

namespace PgSession.Proofs
open Wire Session

variable {τ : Type} [Transport τ]

/-- The answer to operations that are done one after another, up to the first that does not succeed. -/
def inTurn (client : Client τ) : List Operation → Answer
  | [] => .finished (.ok ())
  | operation :: operations =>
    match (client.perform operation).1 with
    | .finished (.ok ()) => inTurn (client.perform operation).2 operations
    | answer => answer

private theorem inTurn_one (client : Client τ) (operation : Operation) :
    inTurn client [operation] = (client.perform operation).1 := by
  rw [inTurn]
  split
  · next done => rw [done, inTurn]
  · rfl

private theorem answer_then {phase next last : Phase} {session : Session τ} {operation : Operation}
    {action rest : Action τ Unit} (operations : List Operation)
    (performs : Client.perform ⟨phase, session⟩ operation = Client.advance session action next .done)
    (others : ∀ session, (Client.advance session rest last .done).1 =
      inTurn ⟨next, session⟩ operations) :
    (Client.advance session (action >>= fun _ => rest) last .done).1 =
      inTurn ⟨phase, session⟩ (operation :: operations) := by
  rw [inTurn, performs, advance_eq, advance_eq]
  cases ran : action session with
  | ok nothing session' =>
    rw [bind_ok ran]
    have rest := others session'
    rw [advance_eq] at rest
    exact rest
  | error halt session' =>
    rw [bind_error ran]
    cases halt <;> rfl

/-- A handshake answers what the first of its stages answers that does not succeed. -/
theorem handshake_inTurn {client : Client τ} (allowed : client.phase.allows .handshake) :
    (client.perform .handshake).1 = inTurn client stages := by
  obtain ⟨phase, session⟩ := client
  obtain rfl := startup_of_handshake allowed
  refine answer_then _ rfl fun session => ?_
  refine answer_then _ rfl fun session => ?_
  refine answer_then _ rfl fun session => ?_
  exact (inTurn_one ⟨.authenticated, session⟩ .ready).symm

section

variable {τ' : Type} [Transport τ'] {change : τ → τ'} {client : Client τ} {client' : Client τ'}

theorem Parallel.inTurn (unnoticed : Unnoticed change) (parallel : Parallel change client client')
    (stages : List Stage) : Proofs.inTurn client' (stages.map operationOf) =
      Proofs.inTurn client (stages.map operationOf) := by
  induction stages generalizing client client' with
  | nil => rfl
  | cons stage stages ih =>
    obtain ⟨same, parallel⟩ := parallel.stage unnoticed stage
    rw [List.map_cons, Proofs.inTurn, Proofs.inTurn, same, ih parallel]

/-- The operations of a handshake are answered alike. -/
theorem Parallel.answers (unnoticed : Unnoticed change) (parallel : Parallel change client client')
    {operation : Operation} (opening : operation ∈ openings) :
    (client'.perform operation).1 = (client.perform operation).1 := by
  have same := parallel.allows _ opening
  rcases List.mem_cons.mp opening with rfl | single
  · cases allowed : client.phase.allows .handshake with
    | false => rw [perform_refused allowed, perform_refused (same.trans allowed)]
    | true =>
      rw [handshake_inTurn allowed, handshake_inTurn (same.trans allowed), stages_eq]
      exact parallel.inTurn unnoticed inOrder
  · rw [stages_eq] at single
    obtain ⟨stage, -, rfl⟩ := List.mem_map.mp single
    exact (parallel.stage unnoticed stage).1

end

/-- A stage reports an error exactly if one of its steps failed, and then the first of them, in these
words. -/
def Reports (config : Config) (client : Client τ) (stage : Stage) (context : String) : Prop :=
  client.phase.allows (operationOf stage) → ∀ error,
    (client.perform (operationOf stage)).1 = .finished (.error error) ↔
      FirstFailure config stage (entry config stage) (sceneOf client.session) error.kind ∧
        error.stageName = context

theorem stage_named (stage : Stage) {client : Client τ} (sound : Sound client.session.buffer) :
    Reports client.session.config client stage stage.name := by
  intro allowed error
  rw [stage_reports stage sound allowed, stageName_eq]
  constructor
  · rintro ⟨kind, rfl, failure⟩
    exact ⟨failure, rfl⟩
  · rintro ⟨failure, marked⟩
    exact ⟨error.kind, by rw [← marked], failure⟩

/-- An operation that belongs to no stage. -/
inductive Apart : Operation → Prop
  | tick (timeout : Nat) : Apart (.tick timeout)
  | close : Apart .close
  | cancelOther (key : KeyData) : Apart (.cancelOther key)

section

omit [Transport τ]

private theorem Plain.answered {result : Except (Halt Error) Unit} (plain : Plain result)
    {error : Error} (failed : answered result = .finished (.error error)) : error.stage = none := by
  cases result with
  | ok nothing => cases failed
  | error halt =>
    cases halt with
    | crashed => cases failed
    | failed other =>
      cases failed
      exact plain

end

section

variable {before : Outlook τ} {report report' : Report} {phase phase' : Phase} {calls : List Call}
  {answer : Answer} {error : Error}

/-- What an operation that belongs to no stage fails with bears no name. -/
theorem Ran.plain {operation : Operation} (apart : Apart operation)
    (ran : Ran before report phase operation calls report' answer phase')
    (failed : answer = .finished (.error error)) : error.stage = none := by
  cases apart with
  | tick timeout =>
    cases ran with
    | still quiet => cases quiet
    | tick _ ticks => exact ticks.plain.answered failed
  | close =>
    cases ran with
    | still quiet => cases quiet
    | close _ plain => exact plain.answered failed
  | cancelOther key =>
    cases ran with
    | still quiet => cases quiet
    | cancelOther _ _ plain => exact plain.answered failed

/-- However ending a session goes, the error it is ended with is returned. -/
theorem Ran.returned
    (ran : Ran before report phase (.terminated (.error error)) calls report' answer phase') :
    answer = .finished (.error error) := by
  cases ran with
  | still quiet => cases quiet
  | terminated _ _ kept => rw [kept error rfl, answered]

end

/-- Allowed or not, such an operation fails with nothing that bears a name. -/
theorem Apart.plain {operation : Operation} (apart : Apart operation) {client : Client τ}
    (sturdy : Sturdy client.session) {error : Error}
    (failed : (client.perform operation).1 = .finished (.error error)) : error.stage = none := by
  cases allowed : client.phase.allows operation with
  | false =>
    rw [perform_refused allowed] at failed
    cases failed
  | true =>
    obtain ⟨calls, -, -, ran⟩ := run_ran sturdy allowed
    rw [perform_allowed allowed] at failed
    exact ran.plain apart failed

/-- Whatever has been done so far, a stage that fails reports its first failure, under its own name,
and so does a whole handshake; how closing the transport goes makes no difference to them. Errors of
other operations bear no name, and an error that ends a session is returned. -/
theorem first_failure_reported (config : Config) (link : τ) (operations : List Operation) :
    let client := performAll (Client.new config link) operations
    (Reports config client .ssl "ssl negotiation" ∧ Reports config client .startup "startup" ∧
      Reports config client .authentication "authentication" ∧
      Reports config client .postAuthentication "post-authentication") ∧
    (client.phase.allows .handshake → (client.perform .handshake).1 = inTurn client stages) ∧
    (∀ {τ' : Type} [Transport τ'] (change : τ → τ'), Unnoticed change →
      ∀ operation ∈ openings,
        ((performAll (Client.new config (change link)) operations).perform operation).1 =
          (client.perform operation).1) ∧
    (∀ operation, Apart operation → ∀ error,
      (client.perform operation).1 = .finished (.error error) → error.stageName = "") ∧
    ∀ error, client.phase.allows (.terminated (.error error)) →
      (client.perform (.terminated (.error error))).1 = .finished (.error error) := by
  intro client
  obtain ⟨sturdy, kept⟩ := performAll_sturdy config link operations
  have reports (stage : Stage) : Reports config client stage stage.name :=
    kept ▸ stage_named stage sturdy.sound
  refine ⟨⟨reports .ssl, reports .startup, reports .authentication, reports .postAuthentication⟩,
    ?_, ?_, ?_, ?_⟩
  · exact handshake_inTurn
  · intro τ' _ change unnoticed operation opening
    exact ((Parallel.new unnoticed config link).performAll unnoticed operations).answers unnoticed opening
  · intro operation apart error failed
    rw [Error.stageName, apart.plain sturdy failed]
  · intro error allowed
    obtain ⟨calls, -, -, ran⟩ := run_ran sturdy allowed
    rw [perform_allowed allowed]
    exact ran.returned

private def hastyConfig : Config := { user := "ada", logNotices := false }

private def garbling : Script where
  served := [Tag.authentication, 0, 0, 0, 0]

private def unhesitating : Script where
  served := [Tag.authentication, 0, 0, 0, 8, 0, 0, 0, 0, Tag.readyForQuery, 0, 0, 0, 5, 73]
  closeFails := true

private def unclosable (script : Script) : Script := { script with closeFails := true }

private def failureOf : Answer → Option Error
  | .finished (.error error) => some error
  | _ => none

private theorem answer_of_failureOf {answer : Answer} {error : Error}
    (failure : failureOf answer = some error) : answer = .finished (.error error) := by
  match answer, failure with
  | .finished (.error _), rfl => rfl

private theorem unclosable_unnoticed : Unnoticed unclosable where
  read link count _ := by
    change (unclosable link).read count = ((link.read count).1, unclosable (link.read count).2)
    by_cases enough : count ≤ link.served.length <;> simp [Script.read, unclosable, enough]
  write _ _ _ := rfl
  upgrade _ := rfl
  localPort _ := rfl

/-- A server whose first message has no length, and one that is left because of an error; neither
transport can be closed. -/
theorem first_failure_reported_unclosable :
    let start := Client.new hastyConfig garbling
    let client := performAll start [.secure, .sendStartup]
    let twin := performAll (Client.new hastyConfig (unclosable garbling)) [.secure, .sendStartup]
    let other := performAll (Client.new hastyConfig unhesitating) [.handshake]
    let error : Error := ⟨.protocol (.malformed "invalid message length"), some .authentication⟩
    (client.perform .authenticate).1 = .finished (.error error) ∧
      FirstFailure hastyConfig .authentication .listening (sceneOf client.session) error.kind ∧
      error.stageName = "authentication" ∧ (start.perform .handshake).1 = inTurn start stages ∧
      (twin.perform .authenticate).1 = .finished (.error error) ∧
      (∃ late, (other.perform (.tick 5)).1 = .finished (.error late) ∧ late.stageName = "") ∧
      (other.perform (.terminated (.error error))).1 = .finished (.error error) := by
  intro start client twin other error
  obtain ⟨⟨-, -, reports, -⟩, -, unchanged, -, -⟩ :=
    first_failure_reported hastyConfig garbling [.secure, .sendStartup]
  obtain ⟨-, whole, -, -, -⟩ := first_failure_reported hastyConfig garbling []
  obtain ⟨-, -, -, unnamed, returned⟩ := first_failure_reported hastyConfig unhesitating [.handshake]
  have answered : (client.perform .authenticate).1 = .finished (.error error) :=
    answer_of_failureOf (by decide +kernel)
  obtain ⟨failure, named⟩ := (reports (by decide +kernel) error).mp answered
  have same := unchanged unclosable unclosable_unnoticed .authenticate (by simp [openings, stages])
  have late : (other.perform (.tick 5)).1 = .finished (.error (.ofIo ScriptEnd.eof.error)) :=
    answer_of_failureOf (by decide +kernel)
  exact ⟨answered, failure, named, whole rfl, same.trans answered,
    ⟨_, late, unnamed _ (.tick 5) _ late⟩, returned error (by decide +kernel)⟩

end PgSession.Proofs
