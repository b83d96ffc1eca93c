import PgSession.Network.Dial
import PgSession.Session.Client

/-!
Somebody on a network who holds at most one socket of their own and at most one session. What they
ask for either needs something they hold or gives them something to hold; a failure to get it
leaves what they had.
-/

namespace PgSession.Network

structure Caller where
  config : Config
  /-- What every socket is prepared with when it is opened. -/
  encryption : Option (Except IoError Cipher) := none
  network : Network
  socket : Option Socket := none
  session : Option (Session Socket) := none
  /-- What each peer has received. -/
  received : List (List UInt8)
  log : List Log.Record := []

inductive Request where
  | openSocket
  | read (count : Nat)
  | write (bytes : List UInt8)
  | upgrade
  | inspect
  | handshake
  | connect (settings : Except ParseError Config)
  | tick (timeout : Nat)
  /-- Closes the socket, if there is one, and otherwise the session. -/
  | close
  | cancel (key : KeyData)

inductive Reply where
  | wrongPhase
  | finished (result : Except Error Unit)
  | bytes (content : List UInt8)
  | display (text : String)
  /-- There is a session now. -/
  | connected
  | crashed (crash : Wire.Crash)

namespace Caller

def new (config : Config) (encryption : Option (Except IoError Cipher)) (network : Network) :
    Caller :=
  { config, encryption, network, received := network.waiting.map fun _ => [] }

def note (caller : Caller) (records : List Log.Record) : Caller :=
  { caller with log := caller.log ++ records }

/-- Takes over what has been sent through a socket. -/
def settle (caller : Caller) (socket : Socket) : Caller :=
  { caller with received := caller.received.set socket.peer socket.sent }

def hold (caller : Caller) (socket : Socket) : Caller :=
  { caller.settle socket with socket := some socket }

/-- Takes over what has happened on a channel. -/
def absorb (caller : Caller) (channel : Channel Socket) : Caller :=
  (caller.note channel.records).settle channel.link

def outcome {α : Type} : Except IoError α → Except Error Unit
  | .ok _ => .ok ()
  | .error error => .error (.ofIo error)

/-- Dials what the settings name. It is logged first, whatever comes of it. -/
def dial (caller : Caller) (config : Config) : Except IoError Socket × Caller :=
  let (dialled, network) := caller.network.dial config
  let record := ⟨.debug, s!"Connecting to {config.address}:{config.port.toNat}"⟩
  (dialled, { caller.note [record] with network })

/-- Holds on to the session if the handshake succeeds. -/
def handshake (caller : Caller) (config : Config) (socket : Socket) : Reply × Caller :=
  match Session.handshake (.new config socket) with
  | .ok () session =>
    (.connected, { caller.absorb session.channel with session := some session.fresh })
  | .error (.failed error) session => (.finished (.error error), caller.absorb session.channel)
  | .error (.crashed crash) session => (.crashed crash, caller.absorb session.channel)

def connect (caller : Caller) (config : Config) : Reply × Caller :=
  match caller.dial config with
  | (.error error, caller) => (.finished (.error (.ofIo error)), caller)
  | (.ok socket, caller) => caller.handshake config socket

/-- Over a connection that is dialled for it. -/
def cancel (caller : Caller) (key : KeyData) : Reply × Caller :=
  match caller.dial caller.config with
  | (.error error, caller) => (.finished (.error (.ofIo error)), caller)
  | (.ok socket, caller) =>
    match PgSession.cancel key caller.config.timeout (.ofLink socket) with
    | .ok () channel => (.finished (.ok ()), caller.absorb channel)
    | .error (.failed error) channel => (.finished (.error error), caller.absorb channel)
    | .error (.crashed crash) channel => (.crashed crash, caller.absorb channel)

def openSocket (caller : Caller) : Reply × Caller :=
  match caller.dial caller.config with
  | (.error error, caller) => (.finished (.error (.ofIo error)), caller)
  | (.ok socket, caller) =>
    (.finished (.ok ()), caller.hold { socket with encryption := caller.encryption })

def withSocket (caller : Caller) (act : Socket → Reply × Caller) : Reply × Caller :=
  match caller.socket with
  | some socket => act socket
  | none => (.wrongPhase, caller)

/-- Acts on the session, which is held on to only where it says so. -/
def withSession (caller : Caller) (keep : Bool) (action : Session.Action Socket Unit) :
    Reply × Caller :=
  match caller.session with
  | none => (.wrongPhase, caller)
  | some session =>
    let kept (session : Session Socket) : Caller :=
      { caller.absorb session.channel with session := if keep then some session.fresh else none }
    match action session with
    | .ok () session => (.finished (.ok ()), kept session)
    | .error (.failed error) session => (.finished (.error error), kept session)
    | .error (.crashed crash) session => (.crashed crash, kept session)

/-- A socket whose upgrade fails is lost. -/
def upgrade (caller : Caller) (socket : Socket) : Reply × Caller :=
  match socket.upgrade with
  | (.ok (), socket) => (.finished (.ok ()), caller.hold socket)
  | (.error error, _) => (.finished (.error (.ofIo error)), { caller with socket := none })

def read (caller : Caller) (count : Nat) (socket : Socket) : Reply × Caller :=
  match socket.read count with
  | (.ok content, socket) => (.bytes content, caller.hold socket)
  | (.error error, socket) => (.finished (.error (.ofIo error)), caller.hold socket)

def perform (caller : Caller) : Request → Reply × Caller
  | .openSocket => caller.openSocket
  | .read count => caller.withSocket (caller.read count)
  | .write bytes => caller.withSocket fun socket =>
    let (result, socket) := socket.write bytes
    (.finished (outcome result), caller.hold socket)
  | .upgrade => caller.withSocket caller.upgrade
  | .inspect => caller.withSocket fun socket => (.display socket.display, caller)
  | .handshake => caller.withSocket fun socket =>
    { caller with socket := none }.handshake caller.config socket
  | .connect (.error error) => (.finished (.error (.ofConfig (.parse error))), caller)
  | .connect (.ok config) => caller.connect config
  | .tick timeout => caller.withSession true (Session.tick timeout)
  | .close =>
    match caller.socket with
    | some socket =>
      let (result, socket) := socket.close
      (.finished (outcome result), caller.hold socket)
    | none => caller.withSession false Session.close
  | .cancel key => caller.cancel key

end Caller

end PgSession.Network
