import PgSession.Config.Settings
import PgSession.Text.Decimal
import PgSession.Text.Percent
import PgSession.Text.Split

/-!
Settings written as a url: a scheme, then a login, a host with a port, a database, and a query of
names and values, all of which may be missing. A url is first taken apart at its delimiters, then
each part that may be percent encoded is decoded, from left to right; the first fault is reported.
-/

namespace PgSession

/-- The parts of a url before anything in them is decoded. An empty part counts as absent, except
that a port that is announced must be there. -/
structure Url where
  user : List Char
  password : List Char
  host : List Char
  port : Option (List Char)
  database : List Char
  query : List Char
deriving DecidableEq

namespace Url

private def splitOr (separator : Char) (text : List Char) : List Char × List Char :=
  (Text.splitFirst separator text).getD (text, [])

/-- Host and port. Brackets let a host contain colons; the port after them needs its colon. -/
def splitHost (text : List Char) : Except ParseError (List Char × Option (List Char)) :=
  match text with
  | '[' :: inside =>
    match Text.splitFirst ']' inside with
    | none => .error .unclosedBracket
    | some (host, ':' :: port) => .ok (host, some port)
    | some (host, _) => .ok (host, none)
  | _ =>
    match Text.splitFirst ':' text with
    | some (host, port) => .ok (host, some port)
    | none => .ok (text, none)

def ofText (text : List Char) : Except ParseError Url := do
  let some (scheme, rest) := Text.splitAtText "://".toList text | throw .schemeMissing
  unless scheme = "postgres".toList ∨ scheme = "postgresql".toList do throw .unknownScheme
  let (rest, query) := splitOr '?' rest
  let (authority, database) := splitOr '/' rest
  let (login, address) := (Text.splitLast '@' authority).getD ([], authority)
  let (user, password) := splitOr ':' login
  let (host, port) ← splitHost address
  return { user, password, host, port, database, query }

def decodePart (part : UrlPart) (text : List Char) : Except ParseError String :=
  match Text.decodeUtf8 (Text.percentDecode text) with
  | .ok decoded => .ok decoded
  | .error _ => .error (.notUtf8 part)

def decodePart? (part : UrlPart) (text : List Char) : Except ParseError (Option String) :=
  if text.isEmpty then .ok none else (decodePart part text).map some

/-- Every nonempty piece of a query is a name and a value. -/
def splitPair (piece : List Char) : Except ParseError (List Char × String) :=
  match Text.splitFirst '=' piece with
  | none => .error .queryValueMissing
  | some (name, value) => (decodePart .queryValue value).map fun decoded => (name, decoded)

end Url

namespace Config

def defaultUser : String := "postgres"

/-- Three names have a meaning of their own; all others are parameters for the server. -/
def setQuery (config : Config) (piece : List Char) : Except ParseError Config := do
  let (name, value) ← Url.splitPair piece
  if name = "sslmode".toList then return { config with ssl := ← SslMode.parse value }
  else if name = "host".toList then return config.setHost value
  else if name = "connect_timeout".toList then
    match Text.natural? 18446744073709551616 value.toList with
    | some seconds => return { config with timeout := seconds * 1000 }
    | none => throw .invalidTimeout
  else return config.set (.parameter (String.ofList name) value)

/-- A port is a decimal number of 16 bits. -/
def setPort (config : Config) (fault : ParseError) : Option (List Char) → Except ParseError Config
  | none => .ok config
  | some port =>
    match Text.natural? 65536 port with
    | some value => .ok { config with port := UInt16.ofNat value }
    | none => .error fault

def ofUrl (url : Url) : Except ParseError Config := do
  let user ← Url.decodePart .user url.user
  let password ← Url.decodePart? .password url.password
  let config : Config := { user := if user = "" then defaultUser else user, password }
  let config := orElse (← Url.decodePart? .host url.host) config setHost
  let config ← config.setPort .invalidPort url.port
  let config := { config with database := ← Url.decodePart? .database url.database }
  ((Text.splitAll '&' url.query).filter (!·.isEmpty)).foldlM setQuery config

def parse (text : String) : Except ParseError Config := do
  ofUrl (← Url.ofText text.toList)

end Config

end PgSession
