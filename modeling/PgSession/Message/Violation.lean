import PgSession.Message.Tag
import PgSession.Text.Printable
import PgSession.Text.Utf8

/-! What can be wrong with bytes the server sent: they break the protocol, or a text in them is not
UTF-8. -/

namespace PgSession

/-- Something the protocol does not allow at that point. An unexpected message knows the tag that
was wanted, or the place in the conversation where it came, or neither. -/
inductive Violation where
  | unexpected (wanted : Option UInt8) (found : UInt8) (place : Option String)
  | unknownAuthentication (code : Int32)
  | unknownSslAnswer (found : UInt8)
  | unknownTransactionStatus (found : UInt8)
  | malformed (reason : String)
deriving DecidableEq

namespace Violation

private def inPlace : Option String → String
  | some place => s!" in `{place}`"
  | none => ""

def message : Violation → String
  | .unexpected (some wanted) found place =>
    s!"Expected message `{Tag.name wanted}` found `{Tag.name found}` ({Text.printable found})" ++
      inPlace place
  | .unexpected none found place =>
    s!"Unexpected message `{Tag.name found}` ({Text.printable found})" ++ inPlace place
  | .unknownAuthentication code => s!"Unsupported authentication method `{code.toInt}`"
  | .unknownSslAnswer found => s!"Unrecognized ssl response `{Text.printable found}`"
  | .unknownTransactionStatus found =>
    s!"Unrecognized transaction status `{Text.printable found}`"
  | .malformed reason => s!"Malformed message: {reason}"

end Violation

inductive DecodeError where
  | violation (violation : Violation)
  | utf8 (fault : Text.Utf8Fault)
deriving DecidableEq

namespace DecodeError

def truncated : DecodeError := .violation (.malformed "truncated message")

def unterminated : DecodeError := .violation (.malformed "string is not nul terminated")

end DecodeError

end PgSession
