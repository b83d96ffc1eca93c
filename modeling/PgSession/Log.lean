/-! Log records: a level and a text. -/

namespace PgSession.Log

inductive Level where
  | error
  | warn
  | info
  | debug
  | trace
deriving DecidableEq, Repr

def Level.name : Level → String
  | .error => "error"
  | .warn => "warn"
  | .info => "info"
  | .debug => "debug"
  | .trace => "trace"

structure Record where
  level : Level
  text : String
deriving DecidableEq, Repr

end PgSession.Log
