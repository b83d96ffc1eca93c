import PgSession.Message.Notice
import PgSession.Message.Violation

/-!
Everything that can go wrong, by cause. The wording of each cause is in one place; an error adds
the stage of the handshake at which it ended the session, if it was one.
-/

namespace PgSession

/-- The values of a url that are percent encoded. -/
inductive UrlPart where
  | user
  | password
  | host
  | database
  | queryValue
deriving DecidableEq, Repr

def UrlPart.name : UrlPart → String
  | .user => "user"
  | .password => "password"
  | .host => "host"
  | .database => "database"
  | .queryValue => "query value"

/-- Why settings could not be read. -/
inductive ParseError where
  | schemeMissing
  | unknownScheme
  | unclosedBracket
  | invalidPort
  | queryValueMissing
  | invalidTimeout
  | invalidSslMode
  | invalidPortVariable
  | notUtf8 (part : UrlPart)
deriving DecidableEq, Repr

namespace ParseError

def reason : ParseError → String
  | .schemeMissing => "scheme missing"
  | .unknownScheme => "expected scheme to be `postgres`"
  | .unclosedBracket => "unclosed ipv6 host"
  | .invalidPort => "invalid port"
  | .queryValueMissing => "query value missing"
  | .invalidTimeout => "invalid connect_timeout"
  | .invalidSslMode => "invalid sslmode"
  | .invalidPortVariable => "invalid PGPORT"
  | .notUtf8 part => s!"{part.name} is not valid percent encoded utf8"

def message (error : ParseError) : String := "failed to parse url: " ++ error.reason

end ParseError

/-- Why the settings do not let a session proceed. -/
inductive ConfigError where
  | parse (error : ParseError)
  | passwordRequired
  | sslNotSupported
deriving DecidableEq, Repr

def ConfigError.message : ConfigError → String
  | .parse error => "Config error: " ++ error.message
  | .passwordRequired => "Password requested, none provided"
  | .sslNotSupported => "Ssl required, but the server does not support it"

inductive IoError.Kind where
  | notFound
  | notADirectory
  | connectionRefused
  | connectionReset
  | networkUnreachable
  | brokenPipe
  | timedOut
  | unexpectedEof
  | unsupported
  | invalidInput
  | other
deriving DecidableEq, Repr

structure IoError where
  kind : IoError.Kind
  message : String
deriving DecidableEq, Repr

inductive ErrorKind where
  | config (error : ConfigError)
  | protocol (violation : Violation)
  | io (error : IoError)
  | database (report : ErrorReport)
  | utf8 (fault : Text.Utf8Fault)
  | subscriber (message : String)
deriving DecidableEq

namespace ErrorKind

def ofDecode : DecodeError → ErrorKind
  | .violation violation => .protocol violation
  | .utf8 fault => .utf8 fault

def message : ErrorKind → String
  | .config error => error.message
  | .protocol violation => violation.message
  | .io error => error.message
  | .database report => report.display
  | .utf8 fault => fault.message
  | .subscriber message => "subscriber failed: " ++ message

end ErrorKind

/-- The stages a handshake goes through. -/
inductive Stage where
  | ssl
  | startup
  | authentication
  | postAuthentication
deriving DecidableEq, Repr

def Stage.name : Stage → String
  | .ssl => "ssl negotiation"
  | .startup => "startup"
  | .authentication => "authentication"
  | .postAuthentication => "post-authentication"

structure Error where
  kind : ErrorKind
  stage : Option Stage := none
deriving DecidableEq

namespace Error

def ofIo (error : IoError) : Error := ⟨.io error, none⟩

def ofConfig (error : ConfigError) : Error := ⟨.config error, none⟩

def ofViolation (violation : Violation) : Error := ⟨.protocol violation, none⟩

/-- A stage that is already known stays. -/
def within (error : Error) (stage : Stage) : Error :=
  { error with stage := error.stage <|> some stage }

def stageName (error : Error) : String :=
  match error.stage with
  | some stage => stage.name
  | none => ""

def message (error : Error) : String :=
  match error.stage with
  | some stage => s!"{stage.name}: {error.kind.message}"
  | none => error.kind.message

def isProtocol (error : Error) : Bool :=
  match error.kind with
  | .protocol _ => true
  | _ => false

def isTimeout (error : Error) : Bool :=
  match error.kind with
  | .io failure => failure.kind = .timedOut
  | _ => false

def database? (error : Error) : Option ErrorReport :=
  match error.kind with
  | .database report => some report
  | _ => none

end Error

end PgSession
