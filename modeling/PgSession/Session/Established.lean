import PgSession.Session.Receive

/-! What can be done with a session once the server is ready: wait for something it sends unasked,
and end it. -/

namespace PgSession.Session

open Wire

variable {τ : Type} [Transport τ]

def tickPlace : String := "unsolicited message tick"

/-- Waits for one message of the kind that may come at any time. -/
def tick (timeout : Nat) : Action τ Unit := do
  let tag ← receive timeout
  if ← dispatch then return
  else fail (.ofViolation (.unexpected none tag (some tickPlace)))

/-- Sends what is asked for and closes the transport even if that failed. The first of two failures
is reported. -/
def sendAndClose (message : FrontendMessage) : Action τ Unit := do
  let sent ← attempt (send message)
  let closed ← attempt (onChannel Channel.close)
  ensure sent
  ensure closed

def close : Action τ Unit := do
  say .debug "Terminating"
  sendAndClose .terminate

/-- Ends the session after an operation on it gave a result. Its error comes before any that ending
the session brings, which is then only logged. -/
def terminated {α : Type} (result : Except Error α) : Action τ α := do
  match result, ← attempt close with
  | .error error, .error closing =>
    say .warn s!"Failed terminating: {closing.message}"
    fail error
  | .error error, .ok () => fail error
  | .ok _, .error closing => fail closing
  | .ok value, .ok () => return value

def displayOption {α : Type} (display : α → String) : Option α → String
  | some value => s!"Some({display value})"
  | none => "None"

def display (session : Session τ) : String :=
  let processId := displayOption (fun key => toString key.processId.toInt) session.key
  let status := displayOption TransactionStatus.display session.status
  s!"Connection \x7b id: {session.identity}, process_id: {processId}, " ++
    s!"transaction_status: {status} \x7d"

end PgSession.Session
