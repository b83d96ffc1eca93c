/-!
UTF-8 over lists of bytes. The writer and the reader are both plain arithmetic on code points, so
that each can be compared with the other; the reader also says where and how its input stops being
well formed.
-/

namespace PgSession.Text

def encodeChar (char : Char) : List UInt8 :=
  let code := char.toNat
  if code < 0x80 then [UInt8.ofNat code]
  else if code < 0x800 then [UInt8.ofNat (0xC0 + code / 64), UInt8.ofNat (0x80 + code % 64)]
  else if code < 0x10000 then
    [UInt8.ofNat (0xE0 + code / 4096), UInt8.ofNat (0x80 + code / 64 % 64),
      UInt8.ofNat (0x80 + code % 64)]
  else
    [UInt8.ofNat (0xF0 + code / 262144), UInt8.ofNat (0x80 + code / 4096 % 64),
      UInt8.ofNat (0x80 + code / 64 % 64), UInt8.ofNat (0x80 + code % 64)]

def utf8 (text : String) : List UInt8 := text.toList.flatMap encodeChar

/-- Where a byte string stops being UTF-8. `validUpTo` is the length of its longest valid
beginning. `length` counts the bytes of the maximal invalid part after it, and is absent when the
input merely ends inside a character. -/
structure Utf8Fault where
  validUpTo : Nat
  length : Option Nat
deriving DecidableEq, Repr

def Utf8Fault.message (fault : Utf8Fault) : String :=
  match fault.length with
  | some length => s!"invalid utf-8 sequence of {length} bytes from index {fault.validUpTo}"
  | none => s!"incomplete utf-8 byte sequence from index {fault.validUpTo}"

/-- What a first byte announces: its own bits, the number of bytes that follow, and the range the
first of those must lie in. The narrowed ranges exclude overlong forms, surrogates and everything
above the last code point. -/
structure Lead where
  bits : Nat
  following : Nat
  low : Nat
  high : Nat
deriving DecidableEq, Repr

def Lead.of? (byte : Nat) : Option Lead :=
  if byte < 0x80 then some ⟨byte, 0, 0x80, 0xBF⟩
  else if byte < 0xC2 then none
  else if byte < 0xE0 then some ⟨byte - 0xC0, 1, 0x80, 0xBF⟩
  else if byte = 0xE0 then some ⟨0, 2, 0xA0, 0xBF⟩
  else if byte = 0xED then some ⟨0xD, 2, 0x80, 0x9F⟩
  else if byte < 0xF0 then some ⟨byte - 0xE0, 2, 0x80, 0xBF⟩
  else if byte = 0xF0 then some ⟨0, 3, 0x90, 0xBF⟩
  else if byte < 0xF4 then some ⟨byte - 0xF0, 3, 0x80, 0xBF⟩
  else if byte = 0xF4 then some ⟨4, 3, 0x80, 0x8F⟩
  else none

/-- Collects the bytes that follow a first byte. `seen` counts the bytes of the character accepted
so far, which is the length to report when the next one does not fit. -/
def followers : (following low high seen code : Nat) → List UInt8 →
    Except (Option Nat) (Nat × List UInt8)
  | 0, _, _, _, code, rest => .ok (code, rest)
  | _ + 1, _, _, _, _, [] => .error none
  | following + 1, low, high, seen, code, byte :: rest =>
    if low ≤ byte.toNat ∧ byte.toNat ≤ high then
      followers following 0x80 0xBF (seen + 1) (code * 64 + (byte.toNat - 0x80)) rest
    else .error (some seen)

theorem followers_shorter {following low high seen code : Nat} {bytes : List UInt8}
    {result : Nat × List UInt8}
    (found : followers following low high seen code bytes = .ok result) :
    result.2.length ≤ bytes.length := by
  induction following generalizing low high seen code bytes with
  | zero => cases found; exact Nat.le_refl _
  | succ following ih =>
    cases bytes with
    | nil => cases found
    | cons byte rest =>
      simp only [followers] at found
      split at found
      · exact Nat.le_succ_of_le (ih found)
      · cases found

def decodeChars (offset : Nat) : List UInt8 → Except Utf8Fault (List Char)
  | [] => .ok []
  | byte :: rest =>
    match Lead.of? byte.toNat with
    | none => .error ⟨offset, some 1⟩
    | some lead =>
      match found : followers lead.following lead.low lead.high 1 lead.bits rest with
      | .error length => .error ⟨offset, length⟩
      | .ok (code, remaining) =>
        (decodeChars (offset + 1 + lead.following) remaining).map (Char.ofNat code :: ·)
termination_by bytes => bytes.length
decreasing_by
  have shorter := followers_shorter found
  simp only [List.length_cons]
  exact Nat.lt_succ_of_le shorter

def decodeUtf8 (bytes : List UInt8) : Except Utf8Fault String :=
  (decodeChars 0 bytes).map String.ofList

end PgSession.Text
