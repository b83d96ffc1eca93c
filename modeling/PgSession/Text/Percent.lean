import PgSession.Text.Hex
import PgSession.Text.Utf8

/-! Percent encoding. A percent sign that no two hexadecimal digits follow stands for itself, and
so does a plus sign. -/

namespace PgSession.Text

def percentDecode : List Char → List UInt8
  | [] => []
  | '%' :: high :: low :: rest =>
    match hexValue? high, hexValue? low with
    | some first, some second => UInt8.ofNat (first * 16 + second) :: percentDecode rest
    | _, _ => encodeChar '%' ++ percentDecode (high :: low :: rest)
  | char :: rest => encodeChar char ++ percentDecode rest

end PgSession.Text
