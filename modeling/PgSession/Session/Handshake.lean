import PgSession.Session.Receive

/-!
The handshake, stage by stage: encryption is negotiated, the startup message is sent, the server's
challenges are answered, and the session waits until the server is ready. A stage that fails closes
the transport without another word to the server, and marks the error with its name.
-/

namespace PgSession.Session

open Wire

variable {τ : Type} [Transport τ]

/-- A failure inside closes the transport. Failing to close it is logged, and changes nothing. -/
def guarded {α : Type} (stage : Stage) (action : Action τ α) : Action τ α := do
  match ← attempt action with
  | .ok value => return value
  | .error error =>
    say .debug s!"Failed in {stage.name}: {error.message}"
    match ← attempt (onChannel Channel.close) with
    | .ok () => fail (error.within stage)
    | .error closing =>
      say .warn s!"Failed closing: {closing.message}"
      fail (error.within stage)

def sslAccepted : UInt8 := 'S'.toUInt8
def sslRefused : UInt8 := 'N'.toUInt8

/-- Asks for encryption. The answer is a single byte, not a message. -/
def requestSsl (required : Bool) : Action τ Bool := do
  say .debug "Requesting ssl"
  send .sslRequest
  fillAfresh 1 (← get).config.timeout
  let answer ← onBuffer Buffer.tag
  if answer = sslAccepted then return true
  else if answer = sslRefused then
    if required then fail (.ofConfig .sslNotSupported)
    else
      say .info "Ssl refused by backend, continuing unencrypted"
      return false
  else fail (.ofViolation (.unknownSslAnswer answer))

/-- An upgrade that fails leaves no transport that could be closed. -/
def negotiate (required : Bool) : Action τ Unit := do
  if ← guarded .ssl (requestSsl required) then
    say .debug "Upgrading transport"
    match ← attempt (onChannel Channel.upgrade) with
    | .ok () => return
    | .error error => fail (error.within .ssl)

def secure : Action τ Unit := do
  match (← get).config.ssl with
  | .disable => return
  | .prefer => negotiate false
  | .require => negotiate true

def startupMessage (config : Config) : FrontendMessage :=
  .startup config.protocolVersion config.user config.database config.parameters

def sendStartup : Action τ Unit := guarded .startup do
  say .debug "Sending startup"
  send (startupMessage (← get).config)

/-- What answers a challenge, if it asks for anything. -/
def reply (config : Config) (challenge : Authentication) : Except ConfigError (Option String) :=
  match challenge, config.password with
  | .ok, _ => .ok none
  | _, none => .error .passwordRequired
  | .cleartextPassword, some password => .ok (some password)
  | .md5Password salt, some password => .ok (some (md5Credential config.user password salt))

/-- Answers one challenge; yields something once the server is satisfied. -/
def answerChallenge : Action τ (Option Unit) := do
  let tag ← receiveOther
  if tag = Tag.authentication then
    let challenge ← onBuffer (decode Tag.authentication Reader.authentication)
    say .debug s!"Authentication request {challenge.display}"
    match reply (← get).config challenge with
    | .error error => fail (.ofConfig error)
    | .ok none => return some ()
    | .ok (some answer) =>
      send (.password answer)
      return none
  else fail (.ofViolation (.unexpected none tag (some Stage.authentication.name)))

theorem answerChallenge_lowers : Lowers headerSize (answerChallenge : Action τ (Option Unit)) := by
  refine Lowers.bind receiveOther_lowers fun tag => Lowers.ite ?_ (Lowers.fail _ _)
  refine Lowers.bind (Lowers.onBuffer _) fun challenge => Lowers.bind (Lowers.say _ _) fun _ =>
    Lowers.bind Lowers.get fun session => ?_
  split
  · exact Lowers.fail _ _
  · exact Lowers.pure _
  · exact Lowers.bind (Lowers.send _) fun _ => Lowers.pure _

def authenticate : Action τ Unit :=
  guarded .authentication (repeatUntil answerChallenge answerChallenge_lowers.progress)

/-- The key may come, and come again, before the server says that it is ready. -/
def awaitReady : Action τ (Option Unit) := do
  let tag ← receiveOther
  if tag = Tag.keyData then
    let key ← onBuffer (decode Tag.keyData Reader.keyData)
    modify fun session => { session with key := some key }
    return none
  else if tag = Tag.readyForQuery then
    let status ← onBuffer (decode Tag.readyForQuery Reader.transactionStatus)
    modify fun session => { session with status := some status }
    return some ()
  else fail (.ofViolation (.unexpected none tag (some Stage.postAuthentication.name)))

theorem awaitReady_lowers : Lowers headerSize (awaitReady : Action τ (Option Unit)) :=
  Lowers.bind receiveOther_lowers fun _ =>
    Lowers.ite (Lowers.bind (Lowers.onBuffer _) fun _ =>
        Lowers.bind (Lowers.modify fun _ => rfl) fun _ => Lowers.pure _) <|
      Lowers.ite (Lowers.bind (Lowers.onBuffer _) fun _ =>
        Lowers.bind (Lowers.modify fun _ => rfl) fun _ => Lowers.pure _) (Lowers.fail _ _)

def becomeReady : Action τ Unit := do
  guarded .postAuthentication (repeatUntil awaitReady awaitReady_lowers.progress)
  say .info "Connected"

/-- All stages, up to the first that fails. -/
def handshake : Action τ Unit := do
  secure
  sendStartup
  authenticate
  becomeReady

end PgSession.Session
