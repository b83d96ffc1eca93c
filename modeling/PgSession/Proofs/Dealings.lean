import PgSession.Proofs.Receptions

/-!
What a session deals with, message by message, told from its calls alone: a write sends a message,
and a read of a header either announces one that the session accepts, or is all that comes of it.
-/

namespace PgSession.Proofs
open Wire Session

variable {τ : Type} [Transport τ]

/-- A message that was written, a message whose header was accepted, with its whole size, or a header
that was refused or could not be read. -/
inductive Dealing where
  | sent (size : Nat)
  | taken (size : Nat)
  | refused
deriving DecidableEq

def Dealing.ofHeader : Option Nat → Dealing
  | some size => .taken size
  | none => .refused

/-- What begins with a call. The answer to the request for encryption is shorter than a header, and
is no message. -/
def Dealing.begun (config : Config) (link : τ) : Call → Option Dealing
  | .write _ bytes _ _ => some (.sent bytes.length)
  | .read count timeout succeeded =>
    if count = headerSize then
      some (ofHeader (announced config (heardBy link (.read count timeout succeeded))))
    else none
  | .close _ | .upgrade _ => none

/-- The dealings among calls, in order. Behind a header that was accepted the rest of the message is
`due`, and one call fetches it, whatever its size. -/
def dealingsFrom (config : Config) (due : Bool) (link : τ) : List Call → List Dealing
  | [] => []
  | call :: calls =>
    match due, Dealing.begun config link call with
    | true, _ | false, none => dealingsFrom config false (afterCall link call) calls
    | false, some (.taken size) =>
      .taken size :: dealingsFrom config true (afterCall link call) calls
    | false, some other => other :: dealingsFrom config false (afterCall link call) calls

def dealings (config : Config) (link : τ) (calls : List Call) : List Dealing :=
  dealingsFrom config false link calls

/-- These calls are these dealings, whichever calls come after them. -/
def Amounts (config : Config) (link : τ) (calls : List Call) (deals : List Dealing) : Prop :=
  ∀ more, dealings config link (calls ++ more) = deals ++ dealings config (replay link calls) more

namespace Amounts

variable {config : Config} {link : τ} {calls more : List Call} {deals others : List Dealing}

theorem nil : Amounts config link [] [] := fun _ => rfl

theorem append (amounts : Amounts config link calls deals)
    (behind : Amounts config (replay link calls) more others) :
    Amounts config link (calls ++ more) (deals ++ others) := by
  intro rest
  rw [List.append_assoc, amounts, behind, replay_append, List.append_assoc]

theorem dealings_eq (amounts : Amounts config link calls deals) :
    dealings config link calls = deals := by
  have whole := amounts []
  rw [List.append_nil] at whole
  exact whole.trans (List.append_nil deals)

theorem idle {call : Call} (nothing : Dealing.begun config link call = none) :
    Amounts config link [call] [] := by
  intro more
  simp only [dealings, List.singleton_append, dealingsFrom, nothing]
  rfl

theorem sent (encrypted : Bool) (bytes : List UInt8) (timeout : Nat) (succeeded : Bool) :
    Amounts config link [.write encrypted bytes timeout succeeded] [.sent bytes.length] :=
  fun _ => rfl

private theorem refused {timeout : Nat} (succeeded : Bool)
    (refuses : upcoming config link timeout = none) :
    Amounts config link [.read headerSize timeout succeeded]
      [.ofHeader (upcoming config link timeout)] := by
  intro more
  rw [refuses]
  change announced config (heardBy link (.read headerSize timeout succeeded)) = none at refuses
  simp only [dealings, List.singleton_append, dealingsFrom, Dealing.begun, refuses, if_pos]
  rfl

/-- The call for the rest of a message belongs to it, whether or not it succeeds. -/
theorem taken {timeout size : Nat} (succeeded : Bool) (rest : Call)
    (accepts : upcoming config link timeout = some size) :
    Amounts config link [.read headerSize timeout succeeded, rest]
      [.ofHeader (upcoming config link timeout)] := by
  intro more
  rw [accepts]
  change announced config (heardBy link (.read headerSize timeout succeeded)) = some size at accepts
  simp only [dealings, List.cons_append, List.nil_append, dealingsFrom, Dealing.begun, accepts, if_pos]
  rfl

end Amounts

/-- One message is dealt with, however receiving it ends. -/
theorem Receives.amounts {before : Outlook τ} {timeout : Nat} {calls : List Call}
    {result : Except (Halt Error) Frame} (receives : Receives before timeout calls result) :
    Amounts before.config before.link calls
      [.ofHeader (upcoming before.config before.link timeout)] := by
  cases receives with
  | unheard silent => exact .refused false silent
  | refused refuses => exact .refused true refuses
  | cut _ announces => exact .taken true _ announces
  | whole _ _ announces => exact .taken true _ announces

end PgSession.Proofs
