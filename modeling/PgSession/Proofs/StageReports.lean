import PgSession.Proofs.Runs
import PgSession.Proofs.StageSteps

/-!
What a client reports of a stage of the handshake: the first step that failed, under the name of the
stage. No step closes the transport, so two clients whose transports differ in how closing goes
report the same, until the handshake is over.
-/

namespace PgSession.Proofs
open Wire Session

variable {τ τ' : Type}

def operationOf : Stage → Operation
  | .ssl => .secure
  | .startup => .sendStartup
  | .authentication => .authenticate
  | .postAuthentication => .ready

/-- All stages of a handshake. -/
def inOrder : List Stage := [.ssl, .startup, .authentication, .postAuthentication]

theorem stages_eq : stages = inOrder.map operationOf := rfl

/-- The operations that a handshake may be done by. -/
def openings : List Operation := .handshake :: stages

private theorem opening (stage : Stage) : operationOf stage ∈ openings := by
  cases stage <;> simp [openings, stages, operationOf]

/-- The phase a stage leads to. -/
def phaseAfter : Stage → Phase
  | .ssl => .secured
  | .startup => .authenticating
  | .authentication => .authenticated
  | .postAuthentication => .connection

/-- What a client answers when the steps of a stage come to this. -/
def judgement (stage : Stage) : Stepped τ → Answer
  | .failed kind => .finished (.error ⟨kind, some stage⟩)
  | .crashed crash => .crashed crash
  | _ => .finished (.ok ())

/-- The phase that follows when they do. -/
def phaseOf (stage : Stage) : Stepped τ → Phase
  | .completed _ => phaseAfter stage
  | _ => .done

theorem stageName_eq {error : Error} {stage : Stage} :
    error.stageName = stage.name ↔ error.stage = some stage := by
  obtain ⟨kind, marked⟩ := error
  cases marked with
  | none => cases stage <;> simp [Error.stageName, Stage.name]
  | some other => cases other <;> cases stage <;> simp [Error.stageName, Stage.name]

section

variable [Transport τ]

/-- What an operation of a stage does: its steps come to something, and that decides the answer, the
next phase and, unless the stage has failed, the scene. -/
structure Performs (config : Config) (stage : Stage) (scene : Scene τ) (stepped : Stepped τ)
    (performed : Answer × Client τ) : Prop where
  comes : ComesTo config stage (entry config stage) scene stepped
  ended : ∀ next after, stepped ≠ .on next after
  answer : performed.1 = judgement stage stepped
  phase : performed.2.phase = phaseOf stage stepped
  sound : Sound performed.2.session.buffer
  scene : ∀ after, stepped = .completed after →
    sceneOf performed.2.session = after ∧ performed.2.session.config = config

private theorem stage_refines (stage : Stage) {client : Client τ}
    (sound : Sound client.session.buffer) (allowed : client.phase.allows (operationOf stage)) :
    ∃ buffer, Sound buffer ∧ client.perform (operationOf stage) =
      (answered (outcome (program stage client.session)),
        ⟨leads (phaseAfter stage) .done (outcome (program stage client.session)),
          { final (program stage client.session) with buffer }⟩) := by
  rw [perform_allowed allowed]
  cases stage with
  | ssl => exact Means.secure.refines.advance sound _ _
  | startup => exact Means.sendStartup.refines.advance sound _ _
  | authentication => exact Means.authenticate.refines.advance sound _ _
  | postAuthentication => exact Means.becomeReady.refines.advance sound _ _

theorem stage_performs (stage : Stage) {client : Client τ} (sound : Sound client.session.buffer)
    (allowed : client.phase.allows (operationOf stage)) :
    ∃ stepped, Performs client.session.config stage (sceneOf client.session) stepped
      (client.perform (operationOf stage)) := by
  obtain ⟨buffer, still, performed⟩ := stage_refines stage sound allowed
  have tracked := program_tracks client.session.config stage client.session rfl
  rw [performed]
  match program stage client.session, tracked with
  | .ok nothing after, ⟨goes, same⟩ =>
    refine ⟨.completed (sceneOf after), goes.comes, nofun, rfl, rfl, still, ?_⟩
    rintro _ ⟨⟩
    exact ⟨rfl, same⟩
  | .error (.failed _) after, ⟨kind, rfl, failure⟩ =>
    exact ⟨.failed kind, failure, nofun, rfl, rfl, still, nofun⟩
  | .error (.crashed crash) after, crashes =>
    exact ⟨.crashed crash, crashes, nofun, rfl, rfl, still, nofun⟩

/-- A stage reports an error exactly if there is a first step that failed, and that is the error. -/
theorem stage_reports (stage : Stage) {client : Client τ} (sound : Sound client.session.buffer)
    (allowed : client.phase.allows (operationOf stage)) (error : Error) :
    (client.perform (operationOf stage)).1 = .finished (.error error) ↔
      ∃ kind, error = ⟨kind, some stage⟩ ∧ FirstFailure client.session.config stage
        (entry client.session.config stage) (sceneOf client.session) kind := by
  obtain ⟨stepped, performs⟩ := stage_performs stage sound allowed
  rw [performs.answer]
  constructor
  · intro failed
    have comes := performs.comes
    cases stepped with
    | failed kind =>
      cases failed
      exact ⟨kind, rfl, comes⟩
    | on | crashed | completed => cases failed
  · rintro ⟨kind, rfl, failure⟩
    rw [failure.unique performs.comes nofun performs.ended]
    rfl

end

def Scene.along (change : τ → τ') (scene : Scene τ) : Scene τ' := ⟨change scene.link, scene.buses⟩

def Stepped.along (change : τ → τ') : Stepped τ → Stepped τ'
  | .on point scene => .on point (scene.along change)
  | .failed kind => .failed kind
  | .crashed crash => .crashed crash
  | .completed scene => .completed (scene.along change)

section
variable {change : τ → τ'}

private theorem called_along {α : Type} (scene : Scene τ) (result : Except IoError α × τ)
    (next : α → Point) : (scene.along change).called (result.1, change result.2) next =
      (scene.called result next).along change := by
  obtain ⟨result | result, link⟩ := result <;> rfl

private theorem decoded_along {α : Type} (scene : Scene τ) (result : Except Error α)
    (next : α → Point) :
    (scene.along change).decoded result next = (scene.decoded result next).along change := by
  cases result <;> rfl

private theorem told_along (scene : Scene τ) (event : Event) :
    (scene.along change).told event = (scene.told event).along change := by
  have buses : (scene.along change).buses = scene.buses := rfl
  simp only [Scene.told, buses]
  cases refusals scene.buses event <;> rfl

private theorem Stepped.along_ended {stepped : Stepped τ}
    (ended : ∀ next after, stepped ≠ .on next after) :
    ∀ next after, stepped.along change ≠ .on next after := by
  cases stepped with
  | on next after => exact absurd rfl (ended next after)
  | failed | crashed | completed => exact nofun

variable [Transport τ] [Transport τ']

/-- A change of the transport that nothing notices, unless closing does. -/
structure Unnoticed (change : τ → τ') : Prop where
  read : ∀ link count timeout, Transport.read (change link) count timeout =
    ((Transport.read link count timeout).1, change (Transport.read link count timeout).2)
  write : ∀ link bytes timeout, Transport.write (change link) bytes timeout =
    ((Transport.write link bytes timeout).1, change (Transport.write link bytes timeout).2)
  upgrade : ∀ link, Transport.upgrade (change link) =
    ((Transport.upgrade link).1, change (Transport.upgrade link).2)
  localPort : ∀ link, Transport.localPort (change link) = Transport.localPort link

private theorem sent_along (unnoticed : Unnoticed change) (scene : Scene τ) (config : Config)
    (message : FrontendMessage) (next : Point) :
    (scene.along change).sent config message next =
      (scene.sent config message next).along change := by
  unfold Scene.sent
  split
  · rw [← called_along, ← unnoticed.write]
    rfl
  · rfl

private theorem read_along (unnoticed : Unnoticed change) (scene : Scene τ) (config : Config)
    (count : Nat) (next : List UInt8 → Point) :
    (scene.along change).read config count next = (scene.read config count next).along change := by
  unfold Scene.read
  rw [← called_along, ← unnoticed.read]
  rfl

/-- The steps do the same, since none of them closes the transport. -/
theorem stageStep_along (unnoticed : Unnoticed change) (config : Config) (stage : Stage) (point : Point)
    (scene : Scene τ) : stageStep config stage point (scene.along change) =
      (stageStep config stage point scene).along change := by
  cases point with
  | asking | introducing | replying _ => exact sent_along unnoticed scene config _ _
  | hearing | listening | collecting _ _ => exact read_along unnoticed scene config _ _
  | upgrading =>
    rw [stageStep, stageStep, ← called_along, ← unnoticed.upgrade]
    rfl
  | telling event => exact told_along scene event
  | judging answer | measuring header =>
    simp only [stageStep]
    repeat' split
    all_goals rfl
  | sorting frame =>
    rw [stageStep, stageStep]
    cases frame.general with
    | none => rfl
    | some event => exact decoded_along scene event _
  | acting frame =>
    rw [stageStep, stageStep]
    repeat' split
    all_goals first | rfl | exact decoded_along scene _ _
  | challenged challenge =>
    rw [stageStep, stageStep]
    repeat' split
    all_goals rfl
  | finished => rfl

theorem Goes.along (unnoticed : Unnoticed change) {config : Config} {stage : Stage}
    {point last : Point} {scene scene' : Scene τ} (goes : Goes config stage point scene last scene') :
    Goes config stage point (scene.along change) last (scene'.along change) := by
  induction goes with
  | still => exact .still
  | onward done _ ih =>
    refine .onward ?_ ih
    rw [stageStep_along unnoticed, done]
    rfl

theorem ComesTo.along (unnoticed : Unnoticed change) {config : Config} {stage : Stage} {point : Point}
    {scene : Scene τ} {stepped : Stepped τ} (comes : ComesTo config stage point scene stepped) :
    ComesTo config stage point (scene.along change) (stepped.along change) := by
  obtain ⟨last, scene', goes, rfl⟩ := comes
  exact ⟨last, scene'.along change, goes.along unnoticed, stageStep_along unnoticed _ _ _ _⟩

/-- The handshake is over, and it may show how closing the transport went. -/
def Past (phase : Phase) : Prop := phase = .connection ∨ phase = .done

theorem Past.perform {client : Client τ} (past : Past client.phase) (operation : Operation) :
    Past (client.perform operation).2.phase := by
  cases allowed : client.phase.allows operation with
  | false =>
    rw [perform_refused allowed]
    exact past
  | true =>
    rw [perform_allowed allowed]
    obtain ⟨phase, session⟩ := client
    obtain rfl | rfl := past
    · cases operation with
      | subscribe | unsubscribe | settings | parameter => exact .inl rfl
      | tick timeout =>
        rw [Client.run, advance_eq]
        rcases outcome (tick timeout session) with (_ | _) | _
        · exact .inl rfl
        · exact .inr rfl
        · exact .inl rfl
      | close | terminated =>
        rw [Client.run, advance_eq]
        exact .inr (leads_done _)
      | _ => cases allowed
    · cases operation <;> cases allowed

theorem Past.refuses {phase : Phase} (past : Past phase) :
    ∀ operation ∈ openings, phase.allows operation = false := by
  obtain rfl | rfl := past <;> simp [openings, stages, Phase.allows]

/-- Two clients that have done the same, over transports that differ by a change. -/
inductive Parallel (change : τ → τ') : Client τ → Client τ' → Prop
  | along {client : Client τ} {client' : Client τ'} (phase : client'.phase = client.phase)
    (config : client'.session.config = client.session.config)
    (scene : sceneOf client'.session = (sceneOf client.session).along change)
    (sound : Sound client.session.buffer) (sound' : Sound client'.session.buffer) :
    Parallel change client client'
  | past {client : Client τ} {client' : Client τ'} (past : Past client.phase)
    (past' : Past client'.phase) : Parallel change client client'

private theorem Performs.parallel {config : Config} {stage : Stage} {scene : Scene τ}
    {stepped : Stepped τ} {performed : Answer × Client τ} {performed' : Answer × Client τ'}
    (performs : Performs config stage scene stepped performed)
    (performs' : Performs config stage (scene.along change) (stepped.along change) performed') :
    performed'.1 = performed.1 ∧ Parallel change performed.2 performed'.2 := by
  obtain ⟨answer, phase, session⟩ := performed
  obtain ⟨answer', phase', session'⟩ := performed'
  obtain ⟨-, ended, rfl, rfl, sound, left⟩ := performs
  obtain ⟨-, -, rfl, rfl, sound', left'⟩ := performs'
  cases stepped with
  | on next after => exact absurd rfl (ended next after)
  | failed | crashed => exact ⟨rfl, .past (.inr rfl) (.inr rfl)⟩
  | completed after =>
    obtain ⟨scene, config⟩ := left after rfl
    obtain ⟨scene', config'⟩ := left' _ rfl
    refine ⟨rfl, .along rfl (config'.trans config.symm) ?_ sound sound'⟩
    rw [scene', scene]

namespace Parallel

variable {client : Client τ} {client' : Client τ'}

theorem new (unnoticed : Unnoticed change) (config : Config) (link : τ) :
    Parallel change (Client.new config link) (Client.new config (change link)) := by
  unfold Client.new Session.new
  split
  · refine .along rfl rfl ?_ (Sound.new _) (Sound.new _)
    simp only [Session.subscribe, Session.identity, Channel.ofLink, unnoticed.localPort]
    rfl
  · exact .along rfl rfl rfl (Sound.new _) (Sound.new _)

omit [Transport τ] [Transport τ'] in
theorem allows (parallel : Parallel change client client') :
    ∀ operation ∈ openings, client'.phase.allows operation = client.phase.allows operation := by
  intro operation opening
  cases parallel with
  | along phase => rw [phase]
  | past past past' => rw [past.refuses operation opening, past'.refuses operation opening]

/-- An operation of a stage is answered alike, and the clients go on alike. -/
theorem stage (unnoticed : Unnoticed change) (parallel : Parallel change client client')
    (stage : Stage) :
    (client'.perform (operationOf stage)).1 = (client.perform (operationOf stage)).1 ∧
      Parallel change (client.perform (operationOf stage)).2 (client'.perform (operationOf stage)).2 := by
  have same := parallel.allows _ (opening stage)
  cases allowed : client.phase.allows (operationOf stage) with
  | false =>
    rw [perform_refused allowed, perform_refused (same.trans allowed)]
    exact ⟨rfl, parallel⟩
  | true =>
    cases parallel with
    | past past =>
      rw [past.refuses _ (opening stage)] at allowed
      cases allowed
    | along phase config scene sound sound' =>
      obtain ⟨stepped, performs⟩ := stage_performs stage sound allowed
      obtain ⟨stepped', performs'⟩ := stage_performs stage sound' (same.trans allowed)
      rw [config, scene] at performs'
      -- The second client can take the steps of the first, and there are no others for it.
      obtain rfl := (performs.comes.along unnoticed).unique performs'.comes
        (Stepped.along_ended performs.ended) performs'.ended
      exact performs.parallel performs'

theorem stages (unnoticed : Unnoticed change) (parallel : Parallel change client client')
    (stages : List Stage) : Parallel change (performAll client (stages.map operationOf))
      (performAll client' (stages.map operationOf)) := by
  induction stages generalizing client client' with
  | nil => exact parallel
  | cons stage stages ih => exact ih (parallel.stage unnoticed stage).2

theorem perform (unnoticed : Unnoticed change) (parallel : Parallel change client client')
    (operation : Operation) :
    Parallel change (client.perform operation).2 (client'.perform operation).2 := by
  cases parallel with
  | past past past' => exact .past (past.perform operation) (past'.perform operation)
  | along phase config scene sound sound' =>
    have parallel : Parallel change client client' := .along phase config scene sound sound'
    cases allowed : client.phase.allows operation with
    | false =>
      rw [perform_refused allowed, perform_refused (phase ▸ allowed)]
      exact parallel
    | true =>
      have buses : client'.session.buses = client.session.buses := congrArg Scene.buses scene
      have link : client'.session.channel.link = change client.session.channel.link :=
        congrArg Scene.link scene
      have ran := perform_allowed allowed
      have ran' : client'.perform operation = client'.run operation := perform_allowed (phase ▸ allowed)
      cases operation with
      | settings | parameter =>
        rw [ran, ran']
        exact parallel
      | subscribe | unsubscribe =>
        rw [ran, ran']
        refine .along phase config ?_ sound sound'
        simp only [Client.run, Session.subscribe, Session.unsubscribe, sceneOf, Scene.along, buses, link]
      | secure => exact (parallel.stage unnoticed .ssl).2
      | sendStartup => exact (parallel.stage unnoticed .startup).2
      | authenticate => exact (parallel.stage unnoticed .authentication).2
      | ready => exact (parallel.stage unnoticed .postAuthentication).2
      | handshake =>
        rw [handshake_stages allowed, handshake_stages (phase ▸ allowed)]
        exact parallel.stages unnoticed inOrder
      | cancelOther key =>
        rw [ran, ran', Client.run, Client.run, advance_eq, advance_eq]
        exact .past (.inr (leads_done _)) (.inr (leads_done _))
      | tick | close | terminated =>
        have connected : client.phase = .connection := by
          generalize client.phase = phase at allowed
          cases phase <;> first | rfl | cases allowed
        exact .past (Past.perform (.inl connected) _) (Past.perform (.inl (phase.trans connected)) _)

theorem performAll (unnoticed : Unnoticed change) (parallel : Parallel change client client')
    (operations : List Operation) :
    Parallel change (performAll client operations) (performAll client' operations) := by
  induction operations generalizing client client' with
  | nil => exact parallel
  | cons operation operations ih => exact ih (parallel.perform unnoticed operation)

end Parallel

end

end PgSession.Proofs
