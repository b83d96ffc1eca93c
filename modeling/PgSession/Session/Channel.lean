import PgSession.Bus
import PgSession.Log
import PgSession.Message.Backend
import PgSession.Transport

/-!
A transport under observation. Whatever a session does that can be seen from outside is an effect:
a call of the transport, a log record, an event handed to a subscriber. The channel keeps all of
them in the order in which they happened.
-/

namespace PgSession

/-- A call of the transport, and whether it succeeded. A write is marked by whether the transport
had been upgraded by then. -/
inductive Call where
  | read (count timeout : Nat) (succeeded : Bool)
  | write (encrypted : Bool) (bytes : List UInt8) (timeout : Nat) (succeeded : Bool)
  | close (succeeded : Bool)
  | upgrade (succeeded : Bool)
deriving DecidableEq

/-- The messages a server may send at any time, as subscribers see them. -/
inductive Event where
  | notice (notice : Notice)
  | notification (notification : Notification)
  | parameterStatus (status : ParameterStatus)
deriving DecidableEq

inductive Effect where
  | call (call : Call)
  | logged (record : Log.Record)
  | delivered (subscriber : String) (event : Event)
deriving DecidableEq

structure Channel (τ : Type) where
  link : τ
  encrypted : Bool
  /-- The oldest effect first. -/
  journal : List Effect

namespace Effect

def call? : Effect → Option Call
  | .call made => some made
  | _ => none

def record? : Effect → Option Log.Record
  | .logged record => some record
  | _ => none

def delivery? : Effect → Option (String × Event)
  | .delivered subscriber event => some (subscriber, event)
  | _ => none

end Effect

def succeeded {ε α : Type} : Except ε α → Bool
  | .ok _ => true
  | .error _ => false

namespace Channel

variable {τ : Type}

abbrev Action (τ α : Type) := EStateM (Wire.Halt Error) (Channel τ) α

def ofLink (link : τ) : Channel τ := ⟨link, false, []⟩

def calls (channel : Channel τ) : List Call := channel.journal.filterMap Effect.call?

def records (channel : Channel τ) : List Log.Record := channel.journal.filterMap Effect.record?

def deliveries (channel : Channel τ) : List (String × Event) :=
  channel.journal.filterMap Effect.delivery?

def note (channel : Channel τ) (effects : List Effect) : Channel τ :=
  { channel with journal := channel.journal ++ effects }

/-- The same channel with a new journal. -/
def fresh (channel : Channel τ) : Channel τ := { channel with journal := [] }

/-- One call of the transport, entered in the journal together with its outcome. -/
def perform {α : Type} (call : Bool → Call) (run : τ → Except IoError α × τ) : Action τ α :=
  fun channel =>
    let (result, link) := run channel.link
    let channel := { channel with link }.note [.call (call (succeeded result))]
    match result with
    | .ok value => .ok value channel
    | .error error => .error (.failed (.ofIo error)) channel

def log (level : Log.Level) (text : String) : Action τ Unit :=
  modify fun channel => channel.note [.logged ⟨level, text⟩]

variable [Transport τ]

def read (count timeout : Nat) : Action τ (List UInt8) :=
  perform (.read count timeout) (Transport.read · count timeout)

def write (bytes : List UInt8) (timeout : Nat) : Action τ Unit := fun channel =>
  perform (.write channel.encrypted bytes timeout) (Transport.write · bytes timeout) channel

def close : Action τ Unit := perform .close Transport.close

def upgrade : Action τ Unit := do
  perform .upgrade Transport.upgrade
  modify fun channel => { channel with encrypted := true }

def unread (channel : Channel τ) : Nat := Transport.unread channel.link

end Channel

end PgSession
