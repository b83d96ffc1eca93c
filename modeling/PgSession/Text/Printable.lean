import PgSession.Text.Hex

/-! Bytes shown to a reader: visible ASCII and the space stand for themselves, any other byte is
written as an escape of two hexadecimal digits. -/

namespace PgSession.Text

def printable (byte : UInt8) : String :=
  if 32 ≤ byte.toNat ∧ byte.toNat ≤ 126 then String.ofList [Char.ofNat byte.toNat]
  else "\\x" ++ String.ofList (hexByte byte)

/-- The form in which whole messages are logged. Quotes inside are not escaped. -/
def dump (bytes : List UInt8) : String :=
  "b\"" ++ String.join (bytes.map printable) ++ "\""

end PgSession.Text
