import PgSession.Config.Settings
import PgSession.Text.Split

/-! Where a connection is dialled. -/

namespace PgSession

inductive Endpoint where
  | unix (path : String)
  | tcp (host : String) (port : UInt16)
deriving DecidableEq

namespace Config

def socketName : List Char := ".s.PGSQL.".toList

/-- A socket setting that contains the name of a socket file is the file; any other is the
directory of the file named after the port. -/
def socketPath (socket : String) (port : UInt16) : String :=
  if Text.occurs socketName socket.toList then socket
  else String.ofList ((socket.toList.reverse.dropWhile (· = '/')).reverse ++ '/' :: socketName) ++
    toString port.toNat

def endpoint (config : Config) : Endpoint :=
  match config.socket with
  | some socket => .unix (socketPath socket config.port)
  | none => .tcp config.host config.port

end Config

end PgSession
