import PgSession.Network.Path
import PgSession.Network.Socket

/-!
Connecting over a network that has no route to any host, so that only a unix socket can be reached.
Behind the socket peers wait, and each takes one connection.
-/

namespace PgSession

structure Network where
  place : Network.Place
  waiting : List Network.Peer
  connections : Nat := 0
deriving DecidableEq

namespace Network

def unreachable : IoError := ⟨.networkUnreachable, "Network is unreachable (os error 101)"⟩

def reach (network : Network) : Endpoint → Except IoError Unit
  | .tcp _ _ => .error unreachable
  | .unix path => network.place.reach path

/-- Hands the connection to the peer that has waited longest. -/
def accept (network : Network) : Except IoError Socket × Network :=
  match network.waiting with
  | [] => (.error refused, network)
  | peer :: waiting =>
    (.ok { peer := network.connections, served := peer.served, stalls := peer.stalls },
      { network with waiting, connections := network.connections + 1 })

/-- Dials what the settings name. -/
def dial (network : Network) (config : Config) : Except IoError Socket × Network :=
  match network.reach config.endpoint with
  | .error error => (.error error, network)
  | .ok () => network.accept

end Network

end PgSession
