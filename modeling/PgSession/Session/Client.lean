import PgSession.Session.Cancel
import PgSession.Session.Handshake

/-!
A session together with the phase it is in. An operation is done only in the phases that allow it;
any other leaves everything as it is. An operation that fails before the session is established
ends it, and so does every way of closing it.
-/

namespace PgSession

inductive Phase where
  | startup
  | secured
  | authenticating
  | authenticated
  | connection
  | done
deriving DecidableEq, Repr

inductive Operation where
  | subscribe (topic : Topic) (observer : Observer)
  | unsubscribe (topic : Topic) (id : Nat)
  | settings
  | handshake
  | secure
  | sendStartup
  | authenticate
  | ready
  | cancelOther (key : KeyData)
  | tick (timeout : Nat)
  | parameter (name : String)
  | close
  | terminated (result : Except Error Unit)

/-- What an operation comes to. -/
inductive Answer where
  | wrongPhase
  | subscribed (id : Nat)
  | unsubscribed (removed : Bool)
  | settings (config : Config)
  | parameter (value : Option String)
  | finished (result : Except Error Unit)
  | crashed (crash : Wire.Crash)

def Phase.allows : Phase → Operation → Bool
  | .startup, .subscribe .. | .startup, .unsubscribe .. | .startup, .settings => true
  | .startup, .handshake | .startup, .secure | .startup, .cancelOther _ => true
  | .secured, .sendStartup => true
  | .authenticating, .authenticate => true
  | .authenticated, .ready => true
  | .connection, .subscribe .. | .connection, .unsubscribe .. | .connection, .settings => true
  | .connection, .tick _ | .connection, .parameter _ => true
  | .connection, .close | .connection, .terminated _ => true
  | _, _ => false

structure Client (τ : Type) where
  phase : Phase
  session : Session τ

namespace Client

variable {τ : Type} [Transport τ]

def new (config : Config) (link : τ) : Client τ := ⟨.startup, .new config link⟩

/-- Runs an action that leads to one phase when it succeeds and to another when it fails. -/
def advance (session : Session τ) (action : Session.Action τ Unit) (success failure : Phase) :
    Answer × Client τ :=
  match action session with
  | .ok () session => (.finished (.ok ()), ⟨success, session⟩)
  | .error (.failed error) session => (.finished (.error error), ⟨failure, session⟩)
  | .error (.crashed crash) session => (.crashed crash, ⟨.done, session⟩)

def run (client : Client τ) : Operation → Answer × Client τ
  | .subscribe topic observer =>
    let (id, session) := client.session.subscribe topic observer.response
    (.subscribed id, { client with session })
  | .unsubscribe topic id =>
    let (removed, session) := client.session.unsubscribe topic id
    (.unsubscribed removed, { client with session })
  | .settings => (.settings client.session.config, client)
  | .parameter name => (.parameter (client.session.parameters.find? name), client)
  | .handshake => advance client.session Session.handshake .connection .done
  | .secure => advance client.session Session.secure .secured .done
  | .sendStartup => advance client.session Session.sendStartup .authenticating .done
  | .authenticate => advance client.session Session.authenticate .authenticated .done
  | .ready => advance client.session Session.becomeReady .connection .done
  | .cancelOther key => advance client.session (Session.cancelOther key) .done .done
  | .tick timeout => advance client.session (Session.tick timeout) .connection .connection
  | .close => advance client.session Session.close .done .done
  | .terminated result => advance client.session (Session.terminated result) .done .done

def perform (client : Client τ) (operation : Operation) : Answer × Client τ :=
  if client.phase.allows operation then client.run operation else (.wrongPhase, client)

end Client

end PgSession
