import PgSession.Session.Established

/-! Cancelling what another session's server process is doing. The request is sent over a
connection of its own, in place of a handshake, and is not answered. -/

namespace PgSession

open Wire

def cancelStep : Nat := 16

def KeyData.cancelRequest (key : KeyData) : FrontendMessage :=
  .cancelRequest key.processId key.secretKey

/-- The bytes of a message, written to a buffer of its own. Writing ends well or crashes, so the last
answer is never given. -/
def FrontendMessage.bytes (message : FrontendMessage) (step : Nat) : Except Crash (List UInt8) :=
  match (do message.write; Buffer.chunk : Buffer.Action (List UInt8)) (.new step) with
  | .ok bytes _ => .ok bytes
  | .error (.crashed crash) _ => .error crash
  | .error (.failed _) _ => .ok []

variable {τ : Type} [Transport τ]

/-- Sends the request over a fresh transport, then closes it. -/
def cancel (key : KeyData) (timeout : Nat) : Channel.Action τ Unit := do
  Channel.log .debug s!"Cancelling backend {key.processId.toInt}"
  match key.cancelRequest.bytes cancelStep with
  | .error crash => throw (.crashed crash)
  | .ok bytes =>
    let sent ← Session.attempt (Channel.write bytes timeout)
    let closed ← Session.attempt Channel.close
    Session.ensure sent
    Session.ensure closed

/-- The same over the transport of a session that has not begun. -/
def Session.cancelOther (key : KeyData) : Session.Action τ Unit := do
  Session.say .debug s!"Cancelling backend {key.processId.toInt}"
  Session.sendAndClose key.cancelRequest

end PgSession
