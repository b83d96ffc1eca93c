import PgSession.Proofs.Loops
import PgSession.Proofs.Unbuffered

/-!
A proof view of the operations of a session: what each of them says and does, apart from how a message
is sent or received. Between messages a session talks; to a message that it waits for it applies
rules, one for each tag; and a routine waits and talks. A medium gives these words a meaning. The
session and the session without a buffer are two of them, and every operation of either is the meaning
of one routine, so that what holds of all routines need not be shown for each operation again.
-/

namespace PgSession.Proofs
open Wire Session

def writeText (bytes : List UInt8) : String := s!"Write {Text.dump bytes}"

def headerText (tag : UInt8) (length : Nat) : String :=
  s!"Read message header of type {Text.printable tag} with size {length}"

/-- What a session says in the log on its own account. -/
inductive Remark where
  | writing (bytes : List UInt8)
  | header (tag : UInt8) (length : Nat)
  | failed (stage : Stage) (error : Error)
  | failedClosing (closing : Error)
  | requestingSsl
  | sslRefused
  | upgrading
  | startup
  | challenged (challenge : Authentication)
  | connected
  | terminating
  | failedTerminating (closing : Error)
  | cancelling (key : KeyData)

namespace Remark

def level : Remark → Log.Level
  | writing _ | header .. => .trace
  | failed .. | requestingSsl | upgrading | startup | challenged _ | terminating | cancelling _ =>
    .debug
  | sslRefused | connected => .info
  | failedClosing _ | failedTerminating _ => .warn

def text : Remark → String
  | writing bytes => writeText bytes
  | header tag length => headerText tag length
  | failed stage error => s!"Failed in {stage.name}: {error.message}"
  | failedClosing closing => s!"Failed closing: {closing.message}"
  | requestingSsl => "Requesting ssl"
  | sslRefused => "Ssl refused by backend, continuing unencrypted"
  | upgrading => "Upgrading transport"
  | startup => "Sending startup"
  | challenged challenge => s!"Authentication request {challenge.display}"
  | connected => "Connected"
  | terminating => "Terminating"
  | failedTerminating closing => s!"Failed terminating: {closing.message}"
  | cancelling key => s!"Cancelling backend {key.processId.toInt}"

end Remark

/-- What a client has to say. The settings determine the message. -/
inductive Speech where
  | encryption
  | greeting
  | answer (challenge : Authentication)
  | farewell
  | cancellation (key : KeyData)

/-- The message, if the speech asks for one. -/
def Speech.message? (speech : Speech) (config : Config) : Except ConfigError (Option FrontendMessage) :=
  match speech with
  | .encryption => .ok (some .sslRequest)
  | .greeting => .ok (some (startupMessage config))
  | .answer challenge => (reply config challenge).map (Option.map .password)
  | .farewell => .ok (some .terminate)
  | .cancellation key => .ok (some key.cancelRequest)

/-- An answer carries what the challenge is answered with. -/
theorem Speech.message?_answer {challenge : Authentication} {config : Config} {message : FrontendMessage}
    (asked : message? (.answer challenge) config = .ok (some message)) :
    ∃ answer, reply config challenge = .ok (some answer) ∧ message = .password answer := by
  change (reply config challenge).map (Option.map FrontendMessage.password) = _ at asked
  cases replied : reply config challenge with
  | error error =>
    rw [replied] at asked
    cases asked
  | ok answer? =>
    rw [replied] at asked
    cases answer? with
    | none => cases asked
    | some answer =>
      cases asked
      exact ⟨answer, rfl, rfl⟩

/-- What a session keeps of a message that it waited for. -/
inductive Fact where
  | nothing
  | key (key : KeyData)
  | status (status : TransactionStatus)

def Fact.note {τ : Type} : Fact → Session τ → Session τ
  | .nothing, session => session
  | .key found, session => { session with key := some found }
  | .status found, session => { session with status := some found }

/-- What is said and done between two messages. Only where it may command the transport does it do
more with it than to write. -/
inductive Talk (commands : Prop) : Type → Type 1
  | done {α : Type} (value : α) : Talk commands α
  | fail {α : Type} (error : Error) : Talk commands α
  | andThen {α β : Type} (first : Talk commands α) (next : α → Talk commands β) : Talk commands β
  | say (remark : Remark) : Talk commands Unit
  | speak (speech : Speech) : Talk commands Bool
  | mode : Talk commands SslMode
  | answer (may : commands) : Talk commands UInt8
  | upgrade (may : commands) : Talk commands Unit
  | close (may : commands) : Talk commands Unit
  | attempt {α : Type} (may : commands) (talk : Talk commands α) : Talk commands (Except Error α)
  | guarded {α : Type} (may : commands) (stage : Stage) (talk : Talk commands α) : Talk commands α

instance (commands : Prop) : Monad (Talk commands) where
  pure := .done
  bind := .andThen

/-- What is done with a message that does not come at just any time, by its tag. -/
inductive Rules (α : Type) : Type 1
  | otherwise : Rules α
  | on {β : Type} (tag : UInt8) (reader : Reader β) (fact : β → Fact)
      (act : β → Talk False (Option α)) (others : Rules α) : Rules α

inductive Routine : Type → Type 1
  | talk {α : Type} (talk : Talk True α) : Routine α
  | andThen {α β : Type} (first : Routine α) (next : α → Routine β) : Routine β
  /-- A stage that applies the rules to one message after another. -/
  | wait {α : Type} (stage : Stage) (rules : Rules α) : Routine α
  /-- One message is awaited, of the kind that may come at any time. -/
  | heed (timeout : Nat) : Routine Unit

namespace Talk

def settle {α : Type} {commands : Prop} : Except Error α → Talk commands α
  | .ok value => .done value
  | .error error => .fail error

def utter {commands : Prop} (speech : Speech) : Talk commands Unit := do
  let _ ← speak speech
  return

def requestSsl (required : Bool) : Talk True Bool := do
  say .requestingSsl
  utter .encryption
  let byte ← answer trivial
  if byte = sslAccepted then return true
  else if byte = sslRefused then
    if required then fail (.ofConfig .sslNotSupported)
    else
      say .sslRefused
      return false
  else fail (.ofViolation (.unknownSslAnswer byte))

def negotiate (required : Bool) : Talk True Unit := do
  if ← guarded trivial .ssl (requestSsl required) then
    say .upgrading
    match ← attempt trivial (upgrade trivial) with
    | .ok () => return
    | .error error => fail (error.within .ssl)

def secure : Talk True Unit := do
  match ← mode with
  | .disable => return
  | .prefer => negotiate false
  | .require => negotiate true

def sendStartup : Talk True Unit := guarded trivial .startup do
  say .startup
  utter .greeting

def sendAndClose (speech : Speech) : Talk True Unit := do
  let sent ← attempt trivial (utter speech)
  let closed ← attempt trivial (close trivial)
  settle sent
  settle closed

def ending : Talk True Unit := do
  say .terminating
  sendAndClose .farewell

def terminated {α : Type} (result : Except Error α) : Talk True α := do
  match result, ← attempt trivial ending with
  | .error error, .error closing =>
    say (.failedTerminating closing)
    fail error
  | .error error, .ok () => fail error
  | .ok _, .error closing => fail closing
  | .ok value, .ok () => return value

def cancelOther (key : KeyData) : Talk True Unit := do
  say (.cancelling key)
  sendAndClose (.cancellation key)

/-- A challenge is answered, unless it says that the server is satisfied. -/
def takeUp (challenge : Authentication) : Talk False (Option Unit) := do
  say (.challenged challenge)
  return if ← speak (.answer challenge) then none else some ()

end Talk

def challengeRules : Rules Unit :=
  .on Tag.authentication Reader.authentication (fun _ => .nothing) .takeUp .otherwise

def readyRules : Rules Unit :=
  .on Tag.keyData Reader.keyData .key (fun _ => return none) <|
  .on Tag.readyForQuery Reader.transactionStatus .status (fun _ => return some ()) .otherwise

namespace Routine

def authenticate : Routine Unit := wait .authentication challengeRules

def becomeReady : Routine Unit :=
  andThen (wait .postAuthentication readyRules) fun _ => talk (.say .connected)

def handshake : Routine Unit :=
  andThen (talk .secure) fun _ => andThen (talk .sendStartup) fun _ => andThen authenticate fun _ =>
    becomeReady

end Routine

variable {τ α : Type} [Transport τ]

/-- How messages are sent and received. -/
structure Medium (τ : Type) [Transport τ] where
  /-- What there is in hand of a message that was received. -/
  Message : Type
  tag : Message → UInt8
  send : FrontendMessage → Action τ Unit
  /-- A single byte, which is no message. -/
  answer : (timeout : Nat) → Action τ UInt8
  /-- Nothing, if it was a message that may come at any time: then it has been dealt with. -/
  hear : (timeout : Nat) → Action τ (Option Message)
  decode {α : Type} : Message → Reader α → Action τ α
  send_lowers : ∀ message, Lowers 0 (send message)
  hear_lowers : ∀ timeout, Lowers headerSize (hear timeout)
  decode_lowers : ∀ {α : Type} (message : Message) (reader : Reader α), Lowers 0 (decode message reader)

namespace Medium

/-- Yields whether there was a message to send. -/
def voice (medium : Medium τ) : Except ConfigError (Option FrontendMessage) → Action τ Bool
  | .error error => fail (.ofConfig error)
  | .ok none => return false
  | .ok (some message) => do
    medium.send message
    return true

def speak (medium : Medium τ) (speech : Speech) : Action τ Bool := do
  medium.voice (speech.message? (← get).config)

end Medium

def Talk.run {commands : Prop} (medium : Medium τ) : {α : Type} → Talk commands α → Action τ α
  | _, .done value => pure value
  | _, .fail error => Session.fail error
  | _, .andThen first next => do (next (← first.run medium)).run medium
  | _, .say remark => Session.say remark.level remark.text
  | _, .speak speech => medium.speak speech
  | _, .mode => do return (← get).config.ssl
  | _, .answer _ => do medium.answer (← get).config.timeout
  | _, .upgrade _ => onChannel Channel.upgrade
  | _, .close _ => onChannel Channel.close
  | _, .attempt _ talk => Session.attempt (talk.run medium)
  | _, .guarded _ stage talk => Session.guarded stage (talk.run medium)

def Rules.act (medium : Medium τ) (place : String) (message : medium.Message) :
    Rules α → Action τ (Option α)
  | .otherwise => fail (.ofViolation (.unexpected none (medium.tag message) (some place)))
  | .on tag reader fact act others =>
    if medium.tag message = tag then do
      let value ← medium.decode message reader
      modify (fact value).note
      (act value).run medium
    else others.act medium place message

/-- One message: either it was dealt with, or the rules are applied to it. -/
def Medium.turn (medium : Medium τ) (stage : Stage) (rules : Rules α) : Action τ (Option α) := do
  match ← medium.hear (← get).config.timeout with
  | none => return none
  | some message => rules.act medium stage.name message

theorem Medium.speak_lowers (medium : Medium τ) (speech : Speech) : Lowers 0 (medium.speak speech) := by
  refine Lowers.bind Lowers.get fun session => ?_
  match speech.message? session.config with
  | .error error => exact Lowers.fail _ _
  | .ok none => exact Lowers.pure _
  | .ok (some message) => exact Lowers.bind (medium.send_lowers _) fun _ => Lowers.pure _

theorem Talk.run_lowers (medium : Medium τ) {α : Type} (talk : Talk False α) :
    Lowers 0 (talk.run medium) := by
  induction talk with
  | done value => exact Lowers.pure value
  | fail error => exact Lowers.fail _ error
  | andThen first next ih rest => exact Lowers.bind ih rest
  | say remark => exact Lowers.say _ _
  | speak speech => exact medium.speak_lowers speech
  | mode => exact Lowers.bind Lowers.get fun _ => Lowers.pure _
  | answer may | upgrade may | close may | attempt may | guarded may => exact may.elim

theorem Rules.act_lowers (medium : Medium τ) (place : String) (message : medium.Message)
    (rules : Rules α) : Lowers 0 (rules.act medium place message) := by
  induction rules with
  | otherwise => exact Lowers.fail _ _
  | on tag reader fact act others ih =>
    exact Lowers.ite (Lowers.bind (medium.decode_lowers message reader) fun value =>
      Lowers.bind (Lowers.modify fun _ => by cases fact value <;> rfl) fun _ =>
        (act value).run_lowers medium) ih

theorem Medium.turn_lowers (medium : Medium τ) (stage : Stage) (rules : Rules α) :
    Lowers headerSize (medium.turn stage rules) := by
  refine Lowers.andThen Lowers.get fun session => Lowers.bind (medium.hear_lowers _) fun heard => ?_
  cases heard with
  | none => exact Lowers.pure _
  | some message => exact rules.act_lowers medium stage.name message

def Routine.run (medium : Medium τ) : {α : Type} → Routine α → Action τ α
  | _, .talk said => said.run medium
  | _, .andThen first next => do (next (← first.run medium)).run medium
  | _, .wait stage rules =>
    Session.guarded stage (repeatUntil (medium.turn stage rules) (medium.turn_lowers stage rules).progress)
  | _, .heed timeout => do
    match ← medium.hear timeout with
    | none => return
    | some message => fail (.ofViolation (.unexpected none (medium.tag message) (some tickPlace)))

namespace Medium

/-- A message lies in the buffer, and its tag is known. -/
def buffered : Medium τ where
  Message := UInt8
  tag tag := tag
  send := Session.send
  answer timeout := do
    fillAfresh 1 timeout
    onBuffer Buffer.tag
  hear timeout := do
    let tag ← Session.receive timeout
    return if ← Session.dispatch then none else some tag
  decode tag reader := onBuffer (PgSession.decode tag reader)
  send_lowers message := Lowers.send message
  hear_lowers timeout := Lowers.bind (Session.receive_lowers timeout) fun _ =>
    Lowers.bind Session.dispatch_lowers fun _ => Lowers.pure _
  decode_lowers _ _ := Lowers.onBuffer _

/-- A message is a frame. -/
def direct : Medium τ where
  Message := Frame
  tag := Frame.tag
  send := Unbuffered.send
  answer timeout := do return (← onChannel (Channel.read 1 timeout)).headD 0
  hear timeout := do
    let frame ← Unbuffered.receive timeout
    return if ← Unbuffered.dispatch frame then none else some frame
  decode frame reader := ensure (frame.decode reader)
  send_lowers message := Unbuffered.send_lowers message
  hear_lowers timeout := Lowers.bind (Unbuffered.receive_lowers timeout) fun frame =>
    Lowers.bind (Unbuffered.dispatch_lowers frame) fun _ => Lowers.pure _
  decode_lowers frame reader := Unbuffered.Lowers.ensure (frame.decode reader)

end Medium

section

variable {commands : Prop} (medium : Medium τ) {β : Type}

@[simp] theorem Talk.run_pure (value : α) : (pure value : Talk commands α).run medium = pure value := rfl

@[simp] theorem Talk.run_bind (first : Talk commands α) (next : α → Talk commands β) :
    (first >>= next).run medium = first.run medium >>= fun value => (next value).run medium := rfl

@[simp] theorem Talk.run_ite (condition : Prop) [Decidable condition] (yes no : Talk commands α) :
    (if condition then yes else no).run medium =
      if condition then yes.run medium else no.run medium := apply_ite _ _ _ _

@[simp] theorem Talk.run_settle (result : Except Error α) :
    (settle result : Talk commands α).run medium = ensure result := by cases result <;> rfl

/-- What is said whatever the settings are is one message, with what they put in it. -/
theorem Talk.run_utter (speech : Speech) {message : Config → FrontendMessage}
    (asked : speech.message? = fun config => .ok (some (message config))) :
    (utter speech : Talk commands Unit).run medium =
      (get >>= fun session => medium.send (message session.config)) := by
  simp only [utter, run_bind, run_pure, run, Medium.speak, asked, Medium.voice, bind_assoc, pure_bind,
    bind_pure_unit]

omit [Transport τ] in
/-- Where nothing is kept of a message, nothing happens. -/
private theorem note_nothing (next : Unit → Action τ α) :
    (modify Fact.nothing.note >>= next) = next () := rfl

theorem Rules.act_challenge (place : String) (message : medium.Message) :
    challengeRules.act medium place message =
      if medium.tag message = Tag.authentication then do
        let challenge ← medium.decode message Reader.authentication
        say .debug s!"Authentication request {challenge.display}"
        match reply (← get).config challenge with
        | .error error => fail (.ofConfig error)
        | .ok none => return some ()
        | .ok (some answer) =>
          medium.send (.password answer)
          return none
      else fail (.ofViolation (.unexpected none (medium.tag message) (some place))) := by
  simp only [challengeRules, act, Talk.takeUp]
  split
  · refine bind_congr fun challenge => (note_nothing _).trans (bind_congr fun _ => ?_)
    simp only [Talk.run_bind, Talk.run_pure, Talk.run, Medium.speak, Speech.message?, bind_assoc]
    refine bind_congr fun session => ?_
    cases reply session.config challenge with
    | error error => rfl
    | ok asked =>
      cases asked with
      | none => rfl
      | some answer => exact bind_assoc ..
  · rfl

end

end PgSession.Proofs
