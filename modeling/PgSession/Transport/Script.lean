import PgSession.Transport

/-! A transport that follows a script: the bytes it serves and the calls that fail are laid down
beforehand. -/

namespace PgSession

/-- What a read meets once the served bytes do not suffice. -/
inductive ScriptEnd where
  | eof
  | stall
  | reset
deriving DecidableEq, Repr

def ScriptEnd.error : ScriptEnd → IoError
  | .eof => ⟨.unexpectedEof, "mock eof"⟩
  | .stall => ⟨.timedOut, "mock stall"⟩
  | .reset => ⟨.connectionReset, "mock reset"⟩

structure Script where
  served : List UInt8 := []
  atEnd : ScriptEnd := .eof
  /-- Which write calls fail, counted from zero; calls that failed count as well. -/
  failingWrites : List Nat := []
  closeFails : Bool := false
  upgradeFails : Bool := false
  port : Option UInt16 := none
  writes : Nat := 0
deriving DecidableEq

namespace Script

/-- A read that cannot be satisfied takes nothing. -/
def read (script : Script) (count : Nat) : Except IoError (List UInt8) × Script :=
  if count ≤ script.served.length then
    (.ok (script.served.take count), { script with served := script.served.drop count })
  else (.error script.atEnd.error, script)

def write (script : Script) : Except IoError Unit × Script :=
  (if script.writes ∈ script.failingWrites then .error ⟨.brokenPipe, "mock broken pipe"⟩
    else .ok (), { script with writes := script.writes + 1 })

def close (script : Script) : Except IoError Unit × Script :=
  (if script.closeFails then .error ⟨.connectionReset, "mock close failed"⟩ else .ok (), script)

def upgrade (script : Script) : Except IoError Unit × Script :=
  (if script.upgradeFails then .error ⟨.other, "mock upgrade failed"⟩ else .ok (), script)

instance : Transport Script where
  read script count _ := script.read count
  write script _ _ := script.write
  close := close
  upgrade := upgrade
  localPort script := script.port
  unread script := script.served.length
  read_length := by
    intro script script' count timeout bytes done
    simp only [read] at done
    split at done <;> cases done
    simp only [List.length_take]
    omega
  read_unread := by
    intro script script' count timeout bytes done
    simp only [read] at done
    split at done <;> cases done
    simp only [List.length_drop]
    omega
  write_unread _ _ _ := Nat.le_refl _

end Script

end PgSession
