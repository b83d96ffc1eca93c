import PgSession.Config.Settings
import PgSession.Message.Frontend
import PgSession.Session.Channel
import PgSession.Session.Parameters

/-!
What a session knows and holds: its settings, the channel to the server, one buffer for all
messages, the subscribers, and what the server has reported. Every step of a session is an action
on this state, and the state outlives an action that fails.
-/

namespace PgSession

open Wire

/-- The three kinds of events one can subscribe to. -/
inductive Topic where
  | notices
  | notifications
  | parameterStatuses
deriving DecidableEq, Repr

def Event.topic : Event → Topic
  | .notice _ => .notices
  | .notification _ => .notifications
  | .parameterStatus _ => .parameterStatuses

structure Buses where
  notices : Bus Event Effect
  notifications : Bus Event Effect
  parameterStatuses : Bus Event Effect

namespace Buses

def empty : Buses := ⟨.empty, .empty, .empty⟩

def get (buses : Buses) : Topic → Bus Event Effect
  | .notices => buses.notices
  | .notifications => buses.notifications
  | .parameterStatuses => buses.parameterStatuses

def set (buses : Buses) (topic : Topic) (bus : Bus Event Effect) : Buses :=
  match topic with
  | .notices => { buses with notices := bus }
  | .notifications => { buses with notifications := bus }
  | .parameterStatuses => { buses with parameterStatuses := bus }

end Buses

/-- A subscriber from outside. `respond` is given all events so far, the newest first, and refuses
the newest by giving a reason. -/
structure Observer where
  name : String
  respond : List Event → Option String

/-- An observer leaves a trace of every event it is given, also of one it refuses. -/
def Observer.response (observer : Observer) : List Event → Response Effect
  | [] => ⟨[], none⟩
  | event :: earlier =>
    ⟨[.delivered observer.name event], observer.respond (event :: earlier)⟩

/-- The subscriber that logs notices on behalf of a target, and never refuses one. -/
def noticeLogger (target : String) : List Event → Response Effect
  | .notice notice :: _ => ⟨[.logged (notice.record target)], none⟩
  | _ => ⟨[], none⟩

structure Session (τ : Type) where
  config : Config
  channel : Channel τ
  buffer : Buffer
  buses : Buses
  parameters : Parameters
  status : Option TransactionStatus
  key : Option KeyData

namespace Session

variable {τ : Type}

abbrev Action (τ α : Type) := EStateM (Halt Error) (Session τ) α

def fail {α : Type} (error : Error) : Action τ α := throw (.failed error)

/-- The outcome of an action that may fail. A crash is not an outcome. -/
def attempt {σ ε α : Type} (action : EStateM (Halt ε) σ α) : EStateM (Halt ε) σ (Except ε α) :=
  fun state =>
    match action state with
    | .ok value state => .ok (.ok value) state
    | .error (.failed error) state => .ok (.error error) state
    | .error (.crashed crash) state => .error (.crashed crash) state

def ensure {σ ε α : Type} : Except ε α → EStateM (Halt ε) σ α
  | .ok value => pure value
  | .error error => throw (.failed error)

def onBuffer {α : Type} (action : Buffer.Action α) : Action τ α := fun session =>
  match action session.buffer with
  | .ok value buffer => .ok value { session with buffer }
  | .error (.failed error) buffer =>
    .error (.failed ⟨.ofDecode error, none⟩) { session with buffer }
  | .error (.crashed crash) buffer => .error (.crashed crash) { session with buffer }

def onChannel {α : Type} (action : Channel.Action τ α) : Action τ α := fun session =>
  match action session.channel with
  | .ok value channel => .ok value { session with channel }
  | .error halt channel => .error halt { session with channel }

def subscribe (session : Session τ) (topic : Topic) (respond : List Event → Response Effect) :
    Nat × Session τ :=
  let (id, bus) := (session.buses.get topic).subscribe respond
  (id, { session with buses := session.buses.set topic bus })

def unsubscribe (session : Session τ) (topic : Topic) (id : Nat) : Bool × Session τ :=
  let (removed, bus) := (session.buses.get topic).unsubscribe id
  (removed, { session with buses := session.buses.set topic bus })

def publish (event : Event) : Action τ Unit := fun session =>
  let (response, bus) := (session.buses.get event.topic).publish event
  let session :=
    { session with
      buses := session.buses.set event.topic bus
      channel := session.channel.note response.records }
  match response.failure with
  | none => .ok () session
  | some message => .error (.failed ⟨.subscriber message, none⟩) session

variable [Transport τ]

/-- How a session is called in log records. -/
def identity (session : Session τ) : String :=
  let config := session.config
  let local? := match Transport.localPort session.channel.link with
    | some port => s!"->{port.toNat}"
    | none => ""
  s!"[{config.user}@{config.address}:{config.port.toNat}{local?}/{config.databaseName}]"

def say (level : Log.Level) (text : String) : Action τ Unit := do
  let session ← get
  onChannel (Channel.log level s!"{session.identity} {text}")

/-- Nothing has been sent. The logger of notices, if wanted, is their first subscriber. -/
def new (config : Config) (link : τ) : Session τ :=
  let session : Session τ :=
    { config, channel := .ofLink link, buffer := .new config.bufferStep, buses := .empty,
      parameters := .empty, status := none, key := none }
  if config.logNotices then (session.subscribe .notices (noticeLogger session.identity)).2
  else session

def unread (session : Session τ) : Nat := session.channel.unread

/-- The same session with a new journal. -/
def fresh (session : Session τ) : Session τ := { session with channel := session.channel.fresh }

/-- Sends what the buffer holds. It is cleared only once it has been sent. -/
def flush : Action τ Unit := do
  let bytes ← onBuffer Buffer.chunk
  say .trace s!"Write {Text.dump bytes}"
  onChannel (Channel.write bytes (← get).config.timeout)
  onBuffer Buffer.clear

def send (message : FrontendMessage) : Action τ Unit := do
  onBuffer message.write
  flush

end Session

end PgSession
