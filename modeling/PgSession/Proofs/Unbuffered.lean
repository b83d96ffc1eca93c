import PgSession.Proofs.BufferWriting
import PgSession.Proofs.Frames
import PgSession.Session.Client

/-!
A session that has no use for its buffer: what it sends is written as the bytes of the message, and
what it receives is a frame. This is the session a reader has in mind, and the two nested loops of
each waiting stage are a single one here, a frame for every turn.
-/

namespace PgSession.Proofs
open Wire Session

variable {τ : Type}

/-- What an event leaves behind in the session, whoever else is told of it. -/
def learn : Event → Session τ → Session τ
  | .parameterStatus status, session =>
    { session with parameters := session.parameters.set status.name status.value }
  | _, session => session

section

variable (event : Event) (session : Session τ)

@[simp] theorem learn_config : (learn event session).config = session.config := by
  cases event <;> rfl

@[simp] theorem learn_channel : (learn event session).channel = session.channel := by
  cases event <;> rfl

@[simp] theorem learn_buses : (learn event session).buses = session.buses := by
  cases event <;> rfl

@[simp] theorem learn_status : (learn event session).status = session.status := by
  cases event <;> rfl

@[simp] theorem learn_key : (learn event session).key = session.key := by
  cases event <;> rfl

end

namespace Unbuffered

def announce (event : Event) : Action τ Bool := do
  modify (learn event)
  publish event
  return true

def dispatch (frame : Frame) : Action τ Bool :=
  match frame.general with
  | none => pure false
  | some event => do announce (← ensure event)

variable [Transport τ]

def send (message : FrontendMessage) : Action τ Unit :=
  if Sendable message then do
    say .trace s!"Write {Text.dump (encoded message)}"
    onChannel (Channel.write (encoded message) (← get).config.timeout)
  else throw (.crashed .lengthOutOfRange)

/-- Yields the tag, and the size of the body. -/
def receiveHeader (timeout : Nat) : Action τ (UInt8 × Nat) := do
  let header ← onChannel (Channel.read headerSize timeout)
  let config := (← get).config
  if lengthIn header < 4 then fail (.ofViolation (.malformed "invalid message length"))
  else if config.maxMessageSize < 1 + (lengthIn header).toNat then
    fail (.ofViolation (.malformed "message too large"))
  else return (header.headD 0, (lengthIn header).toNat - 4)

def receive (timeout : Nat) : Action τ Frame := do
  let (tag, size) ← receiveHeader timeout
  say .trace s!"Read message header of type {Text.printable tag} with size {4 + size}"
  let body ← onChannel (Channel.read size timeout)
  return ⟨tag, body⟩

/-- One frame: nothing more to do if it may come at any time, otherwise it is acted upon. -/
def turn {α : Type} (act : Frame → Action τ (Option α)) : Action τ (Option α) := do
  let frame ← receive (← get).config.timeout
  if ← dispatch frame then return none else act frame

theorem Lowers.throw {α : Type} (count : Nat) (halt : Halt Error) :
    Lowers count (throw halt : Action τ α) := by
  intro session value session' done
  cases done

theorem send_lowers (message : FrontendMessage) : Lowers 0 (send message : Action τ Unit) :=
  Lowers.ite (Lowers.bind (Lowers.say _ _) fun _ => Lowers.bind Lowers.get fun _ => Lowers.write _ _)
    (Lowers.throw _ _)

theorem receive_lowers (timeout : Nat) : Lowers headerSize (receive timeout : Action τ Frame) :=
  Lowers.bind (Lowers.bind (Lowers.read _ _) fun _ => Lowers.bind Lowers.get fun _ =>
      Lowers.ite (Lowers.fail _ _) <| Lowers.ite (Lowers.fail _ _) (Lowers.pure _)) fun _ =>
    Lowers.bind (Lowers.say _ _) fun _ =>
      Lowers.bind ((Lowers.read _ _).mono (Nat.zero_le _)) fun _ => Lowers.pure _

theorem Lowers.ensure {α : Type} (result : Except Error α) :
    Lowers 0 (ensure result : Action τ α) := by
  cases result with
  | ok value => exact Lowers.pure value
  | error error => exact Lowers.fail 0 error

theorem dispatch_lowers (frame : Frame) : Lowers 0 (dispatch frame : Action τ Bool) := by
  unfold dispatch
  split
  · exact Lowers.pure _
  · refine Lowers.bind (Lowers.ensure _) fun event => ?_
    exact Lowers.bind (Lowers.modify (learn_channel event)) fun _ =>
      Lowers.bind (Lowers.publish _) fun _ => Lowers.pure _

theorem turn_lowers {α : Type} {act : Frame → Action τ (Option α)}
    (lowers : ∀ frame, Lowers 0 (act frame)) : Lowers headerSize (turn act) := by
  refine Lowers.andThen Lowers.get fun _ => Lowers.bind (receive_lowers _) fun frame =>
    Lowers.bind (dispatch_lowers frame) fun general => ?_
  split
  · exact Lowers.pure _
  · exact lowers frame

def requestSsl (required : Bool) : Action τ Bool := do
  say .debug "Requesting ssl"
  send .sslRequest
  let answer := (← onChannel (Channel.read 1 (← get).config.timeout)).headD 0
  if answer = sslAccepted then return true
  else if answer = sslRefused then
    if required then fail (.ofConfig .sslNotSupported)
    else
      say .info "Ssl refused by backend, continuing unencrypted"
      return false
  else fail (.ofViolation (.unknownSslAnswer answer))

def negotiate (required : Bool) : Action τ Unit := do
  if ← guarded .ssl (requestSsl required) then
    say .debug "Upgrading transport"
    match ← attempt (onChannel Channel.upgrade) with
    | .ok () => return
    | .error error => fail (error.within .ssl)

def secure : Action τ Unit := do
  match (← get).config.ssl with
  | .disable => return
  | .prefer => negotiate false
  | .require => negotiate true

def sendStartup : Action τ Unit := guarded .startup do
  say .debug "Sending startup"
  send (startupMessage (← get).config)

def onAuthentication (frame : Frame) : Action τ (Option Unit) :=
  if frame.tag = Tag.authentication then do
    let challenge ← ensure (frame.decode Reader.authentication)
    say .debug s!"Authentication request {challenge.display}"
    match reply (← get).config challenge with
    | .error error => fail (.ofConfig error)
    | .ok none => return some ()
    | .ok (some answer) =>
      send (.password answer)
      return none
  else fail (.ofViolation (.unexpected none frame.tag (some Stage.authentication.name)))

theorem onAuthentication_lowers (frame : Frame) :
    Lowers 0 (onAuthentication frame : Action τ (Option Unit)) := by
  refine Lowers.ite (Lowers.bind (Lowers.ensure _) fun challenge =>
    Lowers.bind (Lowers.say _ _) fun _ => Lowers.bind Lowers.get fun session => ?_) (Lowers.fail _ _)
  split
  · exact Lowers.fail _ _
  · exact Lowers.pure _
  · exact Lowers.bind (send_lowers _) fun _ => Lowers.pure _

def awaitAuthentication : Action τ Unit :=
  repeatUntil (turn onAuthentication) (turn_lowers onAuthentication_lowers).progress

def authenticate : Action τ Unit := guarded .authentication awaitAuthentication

def onReady (frame : Frame) : Action τ (Option Unit) :=
  if frame.tag = Tag.keyData then do
    let key ← ensure (frame.decode Reader.keyData)
    modify fun session => { session with key := some key }
    return none
  else if frame.tag = Tag.readyForQuery then do
    let status ← ensure (frame.decode Reader.transactionStatus)
    modify fun session => { session with status := some status }
    return some ()
  else fail (.ofViolation (.unexpected none frame.tag (some Stage.postAuthentication.name)))

theorem onReady_lowers (frame : Frame) : Lowers 0 (onReady frame : Action τ (Option Unit)) :=
  Lowers.ite (Lowers.bind (Lowers.ensure _) fun _ => Lowers.bind (Lowers.modify fun _ => rfl) fun _ =>
      Lowers.pure _) <|
    Lowers.ite (Lowers.bind (Lowers.ensure _) fun _ =>
      Lowers.bind (Lowers.modify fun _ => rfl) fun _ => Lowers.pure _) (Lowers.fail _ _)

def awaitReady : Action τ Unit :=
  repeatUntil (turn onReady) (turn_lowers onReady_lowers).progress

def becomeReady : Action τ Unit := do
  guarded .postAuthentication awaitReady
  say .info "Connected"

def handshake : Action τ Unit := do
  secure
  sendStartup
  authenticate
  becomeReady

def tick (timeout : Nat) : Action τ Unit := do
  let frame ← receive timeout
  if ← dispatch frame then return
  else fail (.ofViolation (.unexpected none frame.tag (some tickPlace)))

def sendAndClose (message : FrontendMessage) : Action τ Unit := do
  let sent ← attempt (send message)
  let closed ← attempt (onChannel Channel.close)
  ensure sent
  ensure closed

def close : Action τ Unit := do
  say .debug "Terminating"
  sendAndClose .terminate

def terminated {α : Type} (result : Except Error α) : Action τ α := do
  match result, ← attempt close with
  | .error error, .error closing =>
    say .warn s!"Failed terminating: {closing.message}"
    fail error
  | .error error, .ok () => fail error
  | .ok _, .error closing => fail closing
  | .ok value, .ok () => return value

def cancelOther (key : KeyData) : Action τ Unit := do
  say .debug s!"Cancelling backend {key.processId.toInt}"
  sendAndClose key.cancelRequest

end Unbuffered

end PgSession.Proofs
