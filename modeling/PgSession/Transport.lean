import PgSession.Error

/-!
What a session needs of the bytes between it and the server: operations that either complete or
fail, and never deliver part of what was asked for. Every read that succeeds uses up bytes the
server has sent, so a conversation over a transport is bounded by what is unread.
-/

namespace PgSession

class Transport (τ : Type) where
  /-- Reads exactly so many bytes; the timeout is in milliseconds. -/
  read : τ → (count timeout : Nat) → Except IoError (List UInt8) × τ
  write : τ → (bytes : List UInt8) → (timeout : Nat) → Except IoError Unit × τ
  close : τ → Except IoError Unit × τ
  /-- Puts encryption under everything that follows. -/
  upgrade : τ → Except IoError Unit × τ
  localPort : τ → Option UInt16
  /-- How many bytes there still are to read. -/
  unread : τ → Nat
  read_length : ∀ {link link' : τ} {count timeout : Nat} {bytes : List UInt8},
    read link count timeout = (.ok bytes, link') → bytes.length = count
  read_unread : ∀ {link link' : τ} {count timeout : Nat} {bytes : List UInt8},
    read link count timeout = (.ok bytes, link') → unread link' + count ≤ unread link
  write_unread : ∀ (link : τ) (bytes : List UInt8) (timeout : Nat),
    unread (write link bytes timeout).2 ≤ unread link

end PgSession
