import PgSession.Wire.Word
import PgSession.Message.Violation

/-!
Readers over the bytes of one message. A reader's state is what it has not read yet, so a reader
that fails says how far it came: the elementary readers here leave the bytes as they found them
when they fail.
-/

namespace PgSession.Wire

abbrev Reader (α : Type) := EStateM DecodeError (List UInt8) α

namespace Reader

def take (count : Nat) : Reader (List UInt8) := fun bytes =>
  if count ≤ bytes.length then .ok (bytes.take count) (bytes.drop count)
  else .error .truncated bytes

def byte : Reader UInt8
  | [] => .error .truncated []
  | first :: rest => .ok first rest

def int32 : Reader Int32
  | first :: second :: third :: fourth :: rest =>
    .ok (int32Value first second third fourth) rest
  | bytes => .error .truncated bytes

/-- The bytes before the first zero byte, and those after it. -/
def splitZero : List UInt8 → Option (List UInt8 × List UInt8)
  | [] => none
  | byte :: rest =>
    if byte = 0 then some ([], rest)
    else (splitZero rest).map fun (before, after) => (byte :: before, after)

/-- A text ends at the first zero byte. The missing end is noticed before a wrong encoding. -/
def text : Reader String := fun bytes =>
  match splitZero bytes with
  | none => .error .unterminated bytes
  | some (before, after) =>
    match Text.decodeUtf8 before with
    | .ok decoded => .ok decoded after
    | .error fault => .error (.utf8 fault) bytes

theorem splitZero_eq {bytes before after : List UInt8}
    (found : splitZero bytes = some (before, after)) : bytes = before ++ 0 :: after := by
  induction bytes generalizing before with
  | nil => cases found
  | cons byte rest ih =>
    simp only [splitZero] at found
    split at found
    · next zero => cases found; simp [zero]
    · obtain ⟨⟨left, right⟩, split, equal⟩ := Option.map_eq_some_iff.mp found
      cases equal
      rw [ih split, List.cons_append]

theorem text_shorter {bytes rest : List UInt8} {value : String}
    (read : text bytes = .ok value rest) : rest.length < bytes.length := by
  unfold text at read
  split at read
  · cases read
  · next before after found =>
    split at read
    · cases read
      rw [splitZero_eq found]
      simp only [List.length_append, List.length_cons]
      omega
    · cases read

end Reader

end PgSession.Wire
