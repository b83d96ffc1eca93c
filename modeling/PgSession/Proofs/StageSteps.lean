import PgSession.Proofs.Receptions

/-!
The stages of a handshake, step by step. Each step succeeds and says what comes next, or fails, and
then the stage is over; no step closes the transport. The program of a stage takes these steps, one
after another, up to the end of the stage or the first that fails, and reports what that one says.
-/

namespace PgSession.Proofs
open Wire Session

variable {τ : Type}

/-- What the steps of a stage work on: the transport, and all who listen. -/
structure Scene (τ : Type) where
  link : τ
  buses : Buses

/-- What is to be done next. -/
inductive Point where
  | asking
  | hearing
  | judging (answer : UInt8)
  | upgrading
  | introducing
  | listening
  | measuring (header : List UInt8)
  | collecting (tag : UInt8) (size : Nat)
  | sorting (frame : Frame)
  | telling (event : Event)
  | acting (frame : Frame)
  | challenged (challenge : Authentication)
  | replying (credential : String)
  | finished

/-- What a step comes to. -/
inductive Stepped (τ : Type) where
  | on (point : Point) (scene : Scene τ)
  | failed (kind : ErrorKind)
  | crashed (crash : Crash)
  | completed (scene : Scene τ)

namespace Scene

/-- After a call of the transport. -/
def called {α : Type} (scene : Scene τ) (result : Except IoError α × τ) (next : α → Point) :
    Stepped τ :=
  match result with
  | (.ok value, link) => .on (next value) { scene with link }
  | (.error error, _) => .failed (.io error)

/-- The subscribers are told, and the first of them that refuses is heard. -/
def told (scene : Scene τ) (event : Event) : Stepped τ :=
  match refusals scene.buses event with
  | [] =>
    let bus := ((scene.buses.get event.topic).publish event).2
    .on .listening { scene with buses := scene.buses.set event.topic bus }
  | reason :: _ => .failed (.subscriber reason)

def decoded {α : Type} (scene : Scene τ) (result : Except Error α) (next : α → Point) : Stepped τ :=
  match result with
  | .ok value => .on (next value) scene
  | .error error => .failed error.kind

variable [Transport τ]

/-- A message is written; one that cannot be is a misuse. -/
def sent (scene : Scene τ) (config : Config) (message : FrontendMessage) (next : Point) : Stepped τ :=
  if Sendable message then
    scene.called (Transport.write scene.link (encoded message) config.timeout) fun _ => next
  else .crashed .lengthOutOfRange

def read (scene : Scene τ) (config : Config) (count : Nat) (next : List UInt8 → Point) : Stepped τ :=
  scene.called (Transport.read scene.link count config.timeout) next

end Scene

variable [Transport τ]

/-- The next step of a stage. -/
def stageStep (config : Config) (stage : Stage) (point : Point) (scene : Scene τ) : Stepped τ :=
  match point with
  | .asking => scene.sent config .sslRequest .hearing
  | .hearing => scene.read config 1 fun answer => .judging (answer.headD 0)
  | .judging answer =>
    if answer = sslAccepted then .on .upgrading scene
    else if answer = sslRefused then
      if config.ssl = .require then .failed (.config .sslNotSupported) else .on .finished scene
    else .failed (.protocol (.unknownSslAnswer answer))
  | .upgrading => scene.called (Transport.upgrade scene.link) fun _ => .finished
  | .introducing => scene.sent config (startupMessage config) .finished
  | .listening => scene.read config headerSize .measuring
  | .measuring header =>
    if lengthIn header < 4 then .failed (.protocol (.malformed "invalid message length"))
    else if config.maxMessageSize < 1 + (lengthIn header).toNat then
      .failed (.protocol (.malformed "message too large"))
    else .on (.collecting (header.headD 0) ((lengthIn header).toNat - 4)) scene
  | .collecting tag size => scene.read config size fun body => .sorting ⟨tag, body⟩
  | .sorting frame =>
    match frame.general with
    | none => .on (.acting frame) scene
    | some event => scene.decoded event .telling
  | .telling event => scene.told event
  | .acting frame =>
    if stage = .authentication then
      if frame.tag = Tag.authentication then
        scene.decoded (frame.decode Reader.authentication) .challenged
      else .failed (.protocol (.unexpected none frame.tag (some "authentication")))
    else if frame.tag = Tag.keyData then
      scene.decoded (frame.decode Reader.keyData) fun _ => .listening
    else if frame.tag = Tag.readyForQuery then
      scene.decoded (frame.decode Reader.transactionStatus) fun _ => .finished
    else .failed (.protocol (.unexpected none frame.tag (some "post-authentication")))
  | .challenged challenge =>
    match reply config challenge with
    | .error error => .failed (.config error)
    | .ok none => .on .finished scene
    | .ok (some credential) => .on (.replying credential) scene
  | .replying credential => scene.sent config (.password credential) .listening
  | .finished => .completed scene

/-- Where a stage begins. -/
def entry (config : Config) : Stage → Point
  | .ssl => if config.ssl = .disable then .finished else .asking
  | .startup => .introducing
  | .authentication | .postAuthentication => .listening

section
variable (config : Config) (stage : Stage)

/-- Steps that all succeed. -/
inductive Goes : Point → Scene τ → Point → Scene τ → Prop
  | still {point : Point} {scene : Scene τ} : Goes point scene point scene
  | onward {point point' last : Point} {scene scene' scene'' : Scene τ}
    (done : stageStep config stage point scene = .on point' scene')
    (others : Goes point' scene' last scene'') : Goes point scene last scene''

/-- After steps that all succeed, there is one that comes to this. -/
def ComesTo (point : Point) (scene : Scene τ) (stepped : Stepped τ) : Prop :=
  ∃ last scene', Goes config stage point scene last scene' ∧
    stageStep config stage last scene' = stepped

/-- The first step that fails, fails with this. -/
def FirstFailure (point : Point) (scene : Scene τ) (kind : ErrorKind) : Prop :=
  ComesTo config stage point scene (.failed kind)

end

section
variable {config : Config} {stage : Stage} {point point' last : Point} {scene scene' scene'' : Scene τ}

theorem Goes.trans (first : Goes config stage point scene point' scene')
    (others : Goes config stage point' scene' last scene'') :
    Goes config stage point scene last scene'' := by
  induction first with
  | still => exact others
  | onward done _ ih => exact .onward done (ih others)

private theorem Goes.one (done : stageStep config stage point scene = .on point' scene') :
    Goes config stage point scene point' scene' := .onward done .still

theorem Goes.comes (goes : Goes config stage point scene .finished scene') :
    ComesTo config stage point scene (.completed scene') := ⟨.finished, scene', goes, rfl⟩

theorem ComesTo.after {stepped : Stepped τ} (goes : Goes config stage point scene point' scene')
    (comes : ComesTo config stage point' scene' stepped) :
    ComesTo config stage point scene stepped := by
  obtain ⟨last, scene'', others, done⟩ := comes
  exact ⟨last, scene'', goes.trans others, done⟩

/-- There is no choice between steps, so whatever they come to is the same. -/
theorem ComesTo.unique {stepped stepped' : Stepped τ}
    (comes : ComesTo config stage point scene stepped)
    (comes' : ComesTo config stage point scene stepped') (ended : ∀ next after, stepped ≠ .on next after)
    (ended' : ∀ next after, stepped' ≠ .on next after) : stepped' = stepped := by
  obtain ⟨last, scene', goes, rfl⟩ := comes
  obtain ⟨last', scene'', goes', rfl⟩ := comes'
  induction goes with
  | still =>
    cases goes' with
    | still => rfl
    | onward done _ => exact absurd done (ended _ _)
  | onward done _ ih =>
    cases goes' with
    | still => exact absurd done (ended' _ _)
    | onward done' others =>
      rw [done] at done'
      cases done'
      exact ih ended others

end

def sceneOf (session : Session τ) : Scene τ := ⟨session.channel.link, session.buses⟩

section
variable {α β : Type} (config : Config) (stage : Stage) (mark : Option Stage)

/-- An action ended as the steps do: past some of them that all succeeded, or with what the first
that did not came to. -/
def Tracked (point : Point) (next : α → Point) (session : Session τ) :
    EStateM.Result (Halt Error) (Session τ) α → Prop
  | .ok value after => Goes config stage point (sceneOf session) (next value) (sceneOf after) ∧
      after.config = config
  | .error (.failed error) _ => ∃ kind, error = ⟨kind, mark⟩ ∧
      FirstFailure config stage point (sceneOf session) kind
  | .error (.crashed crash) _ => ComesTo config stage point (sceneOf session) (.crashed crash)

/-- The action takes the steps from one point on, up to one that depends on its value. Its errors
bear this mark. -/
def Tracks (action : Action τ α) (point : Point) (next : α → Point) : Prop :=
  ∀ session, session.config = config → Tracked config stage mark point next session (action session)

end

variable {α β : Type} {config : Config} {stage : Stage} {mark : Option Stage}

private theorem Tracked.after {point point' : Point} {next : α → Point}
    {session session' : Session τ} {result : EStateM.Result (Halt Error) (Session τ) α}
    (goes : Goes config stage point (sceneOf session) point' (sceneOf session'))
    (tracked : Tracked config stage mark point' next session' result) :
    Tracked config stage mark point next session result := by
  match result, tracked with
  | .ok _ _, ⟨others, same⟩ => exact ⟨goes.trans others, same⟩
  | .error (.failed _) _, ⟨kind, same, failure⟩ => exact ⟨kind, same, ComesTo.after goes failure⟩
  | .error (.crashed _) _, crashes => exact ComesTo.after goes crashes

namespace Tracks

variable {action : Action τ α} {point point' : Point} {next : α → Point}

theorem pure {value : α} (there : next value = point) :
    Tracks config stage mark (Pure.pure value : Action τ α) point next := by
  subst there
  exact fun _ same => ⟨.still, same⟩

theorem bind {rest : α → Action τ β} {last : β → Point}
    (first : Tracks config stage mark action point next)
    (others : ∀ value, Tracks config stage mark (rest value) (next value) last) :
    Tracks config stage mark (action >>= rest) point last := by
  intro session same
  have tracked := first session same
  cases ran : action session with
  | ok value between =>
    rw [ran] at tracked
    rw [bind_ok ran]
    exact (others value between tracked.2).after tracked.1
  | error halt between =>
    rw [ran] at tracked
    rw [bind_error ran]
    cases halt <;> exact tracked

/-- A step that does not look at the scene. -/
theorem onward (moves : ∀ scene : Scene τ, stageStep config stage point scene = .on point' scene)
    (rest : Tracks config stage mark action point' next) :
    Tracks config stage mark action point next :=
  fun session same => (rest session same).after (.one (moves _))

theorem fail {error : Error} {kind : ErrorKind} (marked : error = ⟨kind, mark⟩)
    (fails : ∀ scene : Scene τ, stageStep config stage point scene = .failed kind) :
    Tracks config stage mark (fail error : Action τ α) point next :=
  fun session _ => ⟨kind, marked, point, sceneOf session, .still, fails _⟩

theorem say (level : Log.Level) (text : String) :
    Tracks config stage mark (Session.say level text : Action τ Unit) point fun _ => point := by
  intro session same
  rw [say_eq]
  exact ⟨.still, same⟩

/-- What only the session itself knows of. -/
theorem modify {change : Session τ → Session τ}
    (scene : ∀ session, sceneOf (change session) = sceneOf session)
    (settings : ∀ session, (change session).config = session.config) :
    Tracks config stage mark (modify change : Action τ Unit) point fun _ => point := by
  intro session same
  refine ⟨?_, (settings session).trans same⟩
  change Goes config stage point (sceneOf session) point (sceneOf (change session))
  rw [scene]
  exact .still

theorem get {rest : Session τ → Action τ α}
    (known : ∀ session : Session τ, session.config = config →
      Tracks config stage mark (rest session) point next) :
    Tracks config stage mark (MonadState.get >>= rest) point next :=
  fun session same => known session same session same

/-- A call of the transport is a step. -/
theorem perform {call : Bool → Call} {run : τ → Except IoError α × τ}
    (steps : ∀ scene : Scene τ, stageStep config stage point scene = scene.called (run scene.link) next) :
    Tracks config stage none (onChannel (Channel.perform call run)) point next := by
  intro session same
  have stepped := steps (sceneOf session)
  cases ran : run session.channel.link with
  | mk result link =>
    change _ = (sceneOf session).called (run session.channel.link) next at stepped
    rw [ran] at stepped
    cases result with
    | ok value =>
      rw [perform_ok ran]
      exact ⟨.one stepped, same⟩
    | error error =>
      rw [perform_failed ran]
      exact ⟨.io error, rfl, point, sceneOf session, .still, stepped⟩

theorem read {count : Nat} {next : List UInt8 → Point}
    (steps : ∀ scene : Scene τ, stageStep config stage point scene = scene.read config count next) :
    Tracks config stage none (onChannel (Channel.read count config.timeout) : Action τ _) point next :=
  perform steps

theorem send {message : FrontendMessage}
    (steps : ∀ scene : Scene τ, stageStep config stage point scene = scene.sent config message point') :
    Tracks config stage none (Unbuffered.send message : Action τ Unit) point fun _ => point' := by
  unfold Unbuffered.send
  by_cases sendable : Sendable message
  · rw [if_pos sendable]
    refine (say _ _).bind fun _ => get fun session same => ?_
    rw [same]
    have writes : ∀ scene : Scene τ, stageStep config stage point scene = scene.called
        (Transport.write scene.link (encoded message) config.timeout) fun _ => point' := by
      intro scene
      rw [steps, Scene.sent, if_pos sendable]
    exact fun session same => perform writes session same
  · rw [if_neg sendable]
    intro session same
    refine ⟨point, sceneOf session, .still, ?_⟩
    rw [steps, Scene.sent, if_neg sendable]

/-- What is read of a message succeeds or fails with the step that reads it. -/
theorem ensure {result : Except Error α} (plain : ∀ error, result = .error error → error.stage = none)
    (steps : ∀ scene : Scene τ, stageStep config stage point scene = scene.decoded result next) :
    Tracks config stage none (Session.ensure result : Action τ α) point next := by
  cases result with
  | ok value => exact onward steps (pure rfl)
  | error error =>
    have marked : error = ⟨error.kind, none⟩ := by
      rw [← plain error rfl]
    exact fail marked steps

theorem publish {event : Event}
    (steps : ∀ scene : Scene τ, stageStep config stage point scene = scene.told event) :
    Tracks config stage none (Session.publish event : Action τ Unit) point fun _ => .listening := by
  intro session same
  have stepped := steps (sceneOf session)
  have failure : ((session.buses.get event.topic).publish event).1.failure =
      (refusals session.buses event).head? := deliver_failure event _
  rw [Scene.told] at stepped
  change _ = match refusals session.buses event with | [] => _ | reason :: _ => _ at stepped
  simp only [Session.publish, failure]
  cases refused : refusals session.buses event with
  | nil =>
    rw [refused] at stepped
    exact ⟨.one stepped, same⟩
  | cons reason others =>
    rw [refused] at stepped
    exact ⟨.subscriber reason, rfl, point, sceneOf session, .still, stepped⟩

/-- A loop whose rounds come back to where they began, unless they find something. -/
theorem repeatUntil {round : Action τ (Option α)} {progress : Progresses round}
    {leads : Option α → Point} (tracks : Tracks config stage mark round (leads none) leads) :
    Tracks config stage mark (Session.repeatUntil round progress) (leads none)
      fun value => leads (some value) := by
  refine repeatUntil_induction round progress (motive := fun session result =>
    session.config = config → Tracked config stage mark (leads none) (fun value => leads (some value))
      session result) ?_ ?_ ?_
  · intro session value session' ran same
    have tracked := tracks session same
    rw [ran] at tracked
    exact tracked
  · intro session halt session' ran same
    have tracked := tracks session same
    rw [ran] at tracked
    cases halt <;> exact tracked
  · intro session session' result ran ih same
    have tracked := tracks session same
    rw [ran] at tracked
    exact (ih tracked.2).after tracked.1

/-- A stage that is guarded marks its errors, and closing changes nothing about them. -/
theorem guarded (stage' : Stage) (tracks : Tracks config stage none action point next) :
    Tracks config stage (some stage') (guarded stage' action) point next := by
  intro session same
  have tracked := tracks session same
  cases ran : action session with
  | ok value after =>
    rw [ran] at tracked
    rw [guarded_done stage' ran]
    exact tracked
  | error halt after =>
    rw [ran] at tracked
    cases halt with
    | crashed crash =>
      rw [guarded_crashed stage' ran]
      exact tracked
    | failed error =>
      obtain ⟨kind, rfl, failure⟩ := tracked
      rw [guarded_failed stage' ran]
      exact ⟨kind, rfl, failure⟩

end Tracks

section
variable (config : Config) (stage : Stage)

theorem requestSsl_tracks {required : Bool} (demanded : required = true ↔ config.ssl = .require) :
    Tracks config stage none (Unbuffered.requestSsl required : Action τ Bool) .asking
      fun accepted => if accepted then .upgrading else .finished := by
  refine (Tracks.say _ _).bind fun _ => (Tracks.send fun _ => rfl).bind fun _ => ?_
  refine Tracks.get fun session same => ?_
  rw [same]
  refine (Tracks.read fun _ => rfl).bind fun answer => ?_
  by_cases accepted : answer.headD 0 = sslAccepted
  · rw [if_pos accepted]
    exact .onward (fun _ => if_pos accepted) (.pure rfl)
  rw [if_neg accepted]
  by_cases refused : answer.headD 0 = sslRefused
  · rw [if_pos refused]
    cases required with
    | true =>
      refine .fail rfl fun _ => ?_
      rw [stageStep, if_neg accepted, if_pos refused, if_pos (demanded.mp rfl)]
    | false =>
      have optional : config.ssl ≠ .require := fun require => nomatch demanded.mpr require
      refine .onward (fun _ => ?_) ((Tracks.say _ _).bind fun _ => .pure rfl)
      rw [stageStep, if_neg accepted, if_pos refused, if_neg optional]
      rfl
  · rw [if_neg refused]
    refine .fail rfl fun _ => ?_
    rw [stageStep, if_neg accepted, if_neg refused]

/-- An upgrade that fails is reported like any other failure of the stage. -/
private theorem upgrade_tracks :
    Tracks config stage none (onChannel Channel.upgrade : Action τ Unit) .upgrading
      fun _ => .finished := by
  intro session same
  have stepped : stageStep config stage .upgrading (sceneOf session) =
      (sceneOf session).called (Transport.upgrade session.channel.link) fun _ => .finished := rfl
  cases ran : Transport.upgrade session.channel.link with
  | mk result link =>
    rw [ran] at stepped
    cases result with
    | ok nothing =>
      rw [upgrade_ok ran]
      exact ⟨.one stepped, same⟩
    | error error =>
      rw [upgrade_failed ran]
      exact ⟨.io error, rfl, .upgrading, sceneOf session, .still, stepped⟩

theorem negotiate_tracks {required : Bool} (demanded : required = true ↔ config.ssl = .require) :
    Tracks config stage (some .ssl) (Unbuffered.negotiate required : Action τ Unit) .asking
      fun _ => .finished := by
  refine ((requestSsl_tracks config stage demanded).guarded .ssl).bind fun accepted => ?_
  cases accepted with
  | false => exact .pure rfl
  | true =>
    refine (Tracks.say _ _).bind fun _ => ?_
    intro session same
    have tracked := upgrade_tracks config stage session same
    cases ran : (onChannel Channel.upgrade : Action τ Unit) session with
    | ok nothing after =>
      rw [ran] at tracked
      rw [bind_ok (attempt_done ran)]
      exact tracked
    | error halt after =>
      rw [ran] at tracked
      cases halt with
      | crashed crash =>
        rw [bind_error (attempt_crashed ran)]
        exact tracked
      | failed error =>
        obtain ⟨kind, rfl, failure⟩ := tracked
        rw [bind_ok (attempt_failed ran)]
        exact ⟨kind, rfl, failure⟩

theorem secure_tracks : Tracks config stage (some .ssl) (Unbuffered.secure : Action τ Unit)
    (entry config .ssl) fun _ => .finished := by
  refine Tracks.get fun session same => ?_
  rw [same]
  cases wanted : config.ssl with
  | disable => exact .pure (by rw [entry, if_pos wanted])
  | prefer =>
    rw [entry, if_neg (by simp [wanted])]
    exact negotiate_tracks config stage (by simp [wanted])
  | require =>
    rw [entry, if_neg (by simp [wanted])]
    exact negotiate_tracks config stage (by simp [wanted])

theorem sendStartup_tracks : Tracks config stage (some .startup)
    (Unbuffered.sendStartup : Action τ Unit) .introducing fun _ => .finished := by
  refine Tracks.guarded .startup ((Tracks.say _ _).bind fun _ => Tracks.get fun session same => ?_)
  rw [same]
  exact .send fun _ => rfl

theorem receiveHeader_tracks : Tracks config stage none
    (Unbuffered.receiveHeader config.timeout : Action τ (UInt8 × Nat)) .listening
      fun announced => .collecting announced.1 announced.2 := by
  refine (Tracks.read fun _ => rfl).bind fun header => Tracks.get fun session same => ?_
  rw [same]
  by_cases short : lengthIn header < 4
  · rw [if_pos short]
    exact .fail rfl fun _ => if_pos short
  rw [if_neg short]
  by_cases large : config.maxMessageSize < 1 + (lengthIn header).toNat
  · rw [if_pos large]
    exact .fail rfl fun _ => by rw [stageStep, if_neg short, if_pos large]
  · rw [if_neg large]
    exact .onward (fun _ => by rw [stageStep, if_neg short, if_neg large]) (.pure rfl)

theorem receive_tracks : Tracks config stage none
    (Unbuffered.receive config.timeout : Action τ Frame) .listening .sorting := by
  refine (receiveHeader_tracks config stage).bind fun announced => ?_
  refine (Tracks.say _ _).bind fun _ => (Tracks.read fun _ => rfl).bind fun body => ?_
  exact .pure rfl

theorem dispatch_tracks (frame : Frame) : Tracks config stage none
    (Unbuffered.dispatch frame : Action τ Bool) (.sorting frame)
      fun general => if general then .listening else .acting frame := by
  unfold Unbuffered.dispatch
  cases found : frame.general with
  | none => exact .onward (fun _ => by rw [stageStep, found]; rfl) (.pure rfl)
  | some event =>
    have sorts : ∀ scene : Scene τ,
        stageStep config stage (.sorting frame) scene = scene.decoded event .telling := by
      intro scene
      rw [stageStep, found]
    have plain : ∀ error, event = .error error → error.stage = none := by
      rintro error rfl
      exact Frame.general_plain found
    refine (Tracks.ensure plain sorts).bind fun event => ?_
    refine (Tracks.modify (fun session => ?_) (learn_config event)).bind fun _ => ?_
    · rw [sceneOf, learn_channel, learn_buses]
      rfl
    · exact (Tracks.publish fun _ => rfl).bind fun _ => .pure rfl

/-- Where a message leads that has been acted upon. -/
def afterwards : Option Unit → Point
  | none => .listening
  | some () => .finished

theorem onAuthentication_tracks (frame : Frame) : Tracks config .authentication none
    (Unbuffered.onAuthentication frame : Action τ (Option Unit)) (.acting frame) afterwards := by
  unfold Unbuffered.onAuthentication
  by_cases demand : frame.tag = Tag.authentication
  · rw [if_pos demand]
    have decodes : ∀ scene : Scene τ, stageStep config .authentication (.acting frame) scene =
        scene.decoded (frame.decode Reader.authentication) .challenged := by
      intro scene
      rw [stageStep, if_pos rfl, if_pos demand]
    refine (Tracks.ensure (fun _ => Frame.decode_plain) decodes).bind fun challenge => ?_
    refine (Tracks.say _ _).bind fun _ => Tracks.get fun session same => ?_
    rw [same]
    cases answer : reply config challenge with
    | error error => exact .fail rfl fun _ => by rw [stageStep, answer]
    | ok credential? =>
      cases credential? with
      | none => exact .onward (fun _ => by rw [stageStep, answer]; rfl) (.pure rfl)
      | some credential =>
        refine .onward (fun _ => by rw [stageStep, answer]) ?_
        exact (Tracks.send fun _ => rfl).bind fun _ => .pure rfl
  · rw [if_neg demand]
    exact .fail rfl fun _ => by rw [stageStep, if_pos rfl, if_neg demand]; rfl

theorem onReady_tracks (frame : Frame) : Tracks config .postAuthentication none
    (Unbuffered.onReady frame : Action τ (Option Unit)) (.acting frame) afterwards := by
  have other : Stage.postAuthentication ≠ .authentication := nofun
  unfold Unbuffered.onReady
  by_cases key : frame.tag = Tag.keyData
  · rw [if_pos key]
    have decodes : ∀ scene : Scene τ, stageStep config .postAuthentication (.acting frame) scene =
        scene.decoded (frame.decode Reader.keyData) fun _ => .listening := by
      intro scene
      rw [stageStep, if_neg other, if_pos key]
    refine (Tracks.ensure (fun _ => Frame.decode_plain) decodes).bind fun key => ?_
    refine Tracks.bind (Tracks.modify ?_ ?_) fun _ => .pure rfl
    · exact fun _ => rfl
    · exact fun _ => rfl
  rw [if_neg key]
  by_cases ready : frame.tag = Tag.readyForQuery
  · rw [if_pos ready]
    have decodes : ∀ scene : Scene τ, stageStep config .postAuthentication (.acting frame) scene =
        scene.decoded (frame.decode Reader.transactionStatus) fun _ => .finished := by
      intro scene
      rw [stageStep, if_neg other, if_neg key, if_pos ready]
    refine (Tracks.ensure (fun _ => Frame.decode_plain) decodes).bind fun status => ?_
    refine Tracks.bind (Tracks.modify ?_ ?_) fun _ => .pure rfl
    · exact fun _ => rfl
    · exact fun _ => rfl
  · rw [if_neg ready]
    exact .fail rfl fun _ => by rw [stageStep, if_neg other, if_neg key, if_neg ready]; rfl

variable {config stage}

/-- Every turn begins with listening, and either comes back to it or ends the stage. -/
theorem turn_tracks {act : Frame → Action τ (Option Unit)}
    (acts : ∀ frame, Tracks config stage none (act frame) (.acting frame) afterwards) :
    Tracks config stage none (Unbuffered.turn act) .listening afterwards := by
  refine Tracks.get fun session same => ?_
  rw [same]
  refine (receive_tracks config stage).bind fun frame => ?_
  refine (dispatch_tracks config stage frame).bind fun general => ?_
  cases general with
  | true => exact .pure rfl
  | false => exact acts frame

theorem waiting_tracks {act : Frame → Action τ (Option Unit)}
    {progress : Progresses (Unbuffered.turn act)}
    (acts : ∀ frame, Tracks config stage none (act frame) (.acting frame) afterwards) :
    Tracks config stage none (repeatUntil (Unbuffered.turn act) progress) .listening
      fun _ => .finished := by
  have turns : Tracks config stage none (Unbuffered.turn act) (afterwards none) afterwards :=
    turn_tracks acts
  exact Tracks.repeatUntil turns

end

/-- The program of a stage. -/
def program : Stage → Action τ Unit
  | .ssl => Unbuffered.secure
  | .startup => Unbuffered.sendStartup
  | .authentication => Unbuffered.authenticate
  | .postAuthentication => Unbuffered.becomeReady

/-- The program of a stage takes the steps of the stage from their first to their last. -/
theorem program_tracks (config : Config) (stage : Stage) :
    Tracks config stage (some stage) (program stage : Action τ Unit) (entry config stage)
      fun _ => .finished := by
  cases stage with
  | ssl => exact secure_tracks config .ssl
  | startup => exact sendStartup_tracks config .startup
  | authentication => exact (waiting_tracks (onAuthentication_tracks config)).guarded _
  | postAuthentication =>
    refine ((waiting_tracks (onReady_tracks config)).guarded _).bind fun _ => ?_
    exact .say _ _

end PgSession.Proofs
