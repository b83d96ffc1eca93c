import PgSession.Error
import PgSession.Wire.Buffer

/-! Everything a session needs to know before it starts, with defaults for all but the user. -/

namespace PgSession

/-- Whether encryption is asked for, and whether a refusal is accepted. -/
inductive SslMode where
  | disable
  | prefer
  | require
deriving DecidableEq, Repr

namespace SslMode

/-- Modes that differ only in how certificates are checked are the same mode here. -/
def parse (text : String) : Except ParseError SslMode :=
  if text = "disable" then .ok .disable
  else if text = "allow" ∨ text = "prefer" then .ok .prefer
  else if text = "require" ∨ text = "verify-ca" ∨ text = "verify-full" then .ok .require
  else .error .invalidSslMode

def name : SslMode → String
  | .disable => "disable"
  | .prefer => "prefer"
  | .require => "require"

end SslMode

/-- Version 3.0: the upper half is the major version, the lower half the minor. -/
def protocolVersion3 : Int32 := 196608

structure Config where
  user : String
  password : Option String := none
  /-- The directory of a unix socket, or the socket itself. -/
  socket : Option String := none
  host : String := "localhost"
  port : UInt16 := 5432
  database : Option String := none
  ssl : SslMode := .disable
  protocolVersion : Int32 := protocolVersion3
  parameters : List (String × String) := []
  /-- In milliseconds, for each operation on the transport. -/
  timeout : Nat := 30000
  bufferStep : Nat := Wire.defaultStep
  /-- Larger messages of the server are rejected by their header. -/
  maxMessageSize : Nat := 1073741824
  logNotices : Bool := true
deriving DecidableEq

/-- One setting at a time, as a caller changes them. -/
inductive Setting where
  | password (value : String)
  | database (value : String)
  | host (value : String)
  | port (value : UInt16)
  | ssl (value : SslMode)
  | protocolVersion (value : Int32)
  | parameter (name value : String)
  | timeout (milliseconds : Nat)
  | bufferStep (value : Nat)
  | maxMessageSize (value : Nat)
  | logNotices (value : Bool)
deriving DecidableEq

namespace Config

def forUser (user : String) : Config := { user }

/-- A host that begins with a slash names a unix socket. The other kind of host keeps its value. -/
def setHost (config : Config) (host : String) : Config :=
  if ['/'].isPrefixOf host.toList then { config with socket := some host }
  else { config with host }

def set (config : Config) : Setting → Config
  | .password value => { config with password := some value }
  | .database value => { config with database := some value }
  | .host value => config.setHost value
  | .port value => { config with port := value }
  | .ssl value => { config with ssl := value }
  | .protocolVersion value => { config with protocolVersion := value }
  | .parameter name value => { config with parameters := config.parameters ++ [(name, value)] }
  | .timeout milliseconds => { config with timeout := milliseconds }
  | .bufferStep value => { config with bufferStep := value }
  | .maxMessageSize value => { config with maxMessageSize := value }
  | .logNotices value => { config with logNotices := value }

/-- What is not given is left as it is. -/
def orElse {α : Type} (setting? : Option α) (config : Config) (set : Config → α → Config) : Config :=
  match setting? with
  | some value => set config value
  | none => config

/-- Where the server is said to be: its socket, if one is set. -/
def address (config : Config) : String := config.socket.getD config.host

/-- The server takes the user's name for the database when it is told none. -/
def databaseName (config : Config) : String := config.database.getD config.user

end Config

end PgSession
