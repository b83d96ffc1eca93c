import PgSession.Transport

/-!
A socket, seen together with what its peer has sent and will receive. The peer sends its bytes at
once; after them it either ends its side of the conversation or stays silent, and it takes whatever
comes.
-/

namespace PgSession.Network

structure Peer where
  served : List UInt8
  stalls : Bool
deriving DecidableEq

/-- Encryption changes every byte by itself, so that it keeps lengths. -/
structure Cipher where
  encrypt : UInt8 → UInt8
  decrypt : UInt8 → UInt8

structure Socket where
  /-- Which peer it is connected to, counted in the order of the connections. -/
  peer : Nat
  served : List UInt8
  stalls : Bool
  sent : List UInt8 := []
  closed : Bool := false
  cipher : Option Cipher := none
  /-- What encrypts the socket once the server agrees, if anything was prepared. -/
  encryption : Option (Except IoError Cipher) := none

namespace Socket

def timeoutElapsed : IoError := ⟨.timedOut, "operation timed out"⟩

def earlyEnd : IoError := ⟨.unexpectedEof, "early eof"⟩

def brokenPipe : IoError := ⟨.brokenPipe, "Broken pipe (os error 32)"⟩

def noUpgrade : IoError := ⟨.unsupported, "no ssl upgrade configured"⟩

def isUpgraded (socket : Socket) : Bool := socket.cipher.isSome

def decrypt (socket : Socket) (bytes : List UInt8) : List UInt8 :=
  match socket.cipher with
  | some cipher => bytes.map cipher.decrypt
  | none => bytes

def encrypt (socket : Socket) (bytes : List UInt8) : List UInt8 :=
  match socket.cipher with
  | some cipher => bytes.map cipher.encrypt
  | none => bytes

@[simp] theorem decrypt_length (socket : Socket) (bytes : List UInt8) :
    (socket.decrypt bytes).length = bytes.length := by
  unfold decrypt
  split <;> simp

/-- A read that cannot be satisfied has taken what there was. -/
def read (socket : Socket) (count : Nat) : Except IoError (List UInt8) × Socket :=
  if count ≤ socket.served.length then
    (.ok (socket.decrypt (socket.served.take count)),
      { socket with served := socket.served.drop count })
  else
    (.error (if socket.stalls then timeoutElapsed else earlyEnd), { socket with served := [] })

/-- Nothing can be sent after closing, but sending nothing succeeds. -/
def write (socket : Socket) (bytes : List UInt8) : Except IoError Unit × Socket :=
  if socket.closed ∧ bytes ≠ [] then (.error brokenPipe, socket)
  else (.ok (), { socket with sent := socket.sent ++ socket.encrypt bytes })

/-- Ends the own side. What the peer has sent can still be read. -/
def close (socket : Socket) : Except IoError Unit × Socket :=
  (.ok (), { socket with closed := true })

/-- What was prepared is used up, so a second upgrade finds nothing. -/
def upgrade (socket : Socket) : Except IoError Unit × Socket :=
  match socket.encryption with
  | none => (.error noUpgrade, socket)
  | some (.error error) => (.error error, { socket with encryption := none })
  | some (.ok cipher) => (.ok (), { socket with cipher := some cipher, encryption := none })

/-- What a plain socket shows of itself is not described further. -/
def display (socket : Socket) : String :=
  if socket.isUpgraded then "Socket \x7b local_port: None, .. \x7d" else "UnixStream"

theorem write_served (socket : Socket) (bytes : List UInt8) :
    (socket.write bytes).2.served = socket.served := by
  unfold write
  split <;> rfl

instance : Transport Socket where
  read socket count _ := socket.read count
  write socket bytes _ := socket.write bytes
  close := close
  upgrade := upgrade
  localPort _ := none
  unread socket := socket.served.length
  read_length := by
    intro socket socket' count timeout bytes done
    simp only [read] at done
    split at done <;> cases done
    simp only [decrypt_length, List.length_take]
    omega
  read_unread := by
    intro socket socket' count timeout bytes done
    simp only [read] at done
    split at done <;> cases done
    simp only [List.length_drop]
    omega
  write_unread socket bytes _ := by
    simp only [write_served]
    exact Nat.le_refl _

end Socket

end PgSession.Network
