import PgSession.Digest.Md5
import PgSession.Wire.Item
import PgSession.Message.Tag

/-!
The messages a client sends. The first message of a conversation has no tag, and neither do the
two requests that may stand in its place.
-/

namespace PgSession

open Wire

inductive FrontendMessage where
  | startup (version : Int32) (user : String) (database : Option String)
      (parameters : List (String × String))
  | sslRequest
  | cancelRequest (processId secretKey : Int32)
  | password (credential : String)
  | terminate
deriving DecidableEq

namespace FrontendMessage

/-- The request codes take the place of a version no protocol uses: 1234 in the upper half, 5679
and 5678 in the lower. -/
def sslRequestCode : Int32 := 80877103
def cancelRequestCode : Int32 := 80877102

private def pair (name value : String) : List Item := [.text name, .text value]

/-- A startup message lists names and values, and ends with an empty name. -/
def items : FrontendMessage → List Item
  | .startup version user database parameters =>
    [.group (.int32 version :: pair "user" user ++
      (database.map (pair "database")).getD [] ++
      parameters.flatMap (fun parameter => pair parameter.1 parameter.2) ++ [.byte 0])]
  | .sslRequest => [.int32 8, .int32 sslRequestCode]
  | .cancelRequest processId secretKey =>
    [.int32 16, .int32 cancelRequestCode, .int32 processId, .int32 secretKey]
  | .password credential => [.byte Tag.password, .group [.text credential]]
  | .terminate => [.byte Tag.terminate, .group []]

/-- Leaves the buffer ready to be sent. -/
def write (message : FrontendMessage) : Buffer.Action Unit := do
  Buffer.beginWrite
  Item.writeAll message.items
  Buffer.finishWrite

end FrontendMessage

/-- The answer to a salted challenge: the digest of password and user, in hexadecimal, is digested
again together with the salt. -/
def md5Credential (user password : String) (salt : List UInt8) : String :=
  let inner := Text.hex (Digest.md5 (Text.utf8 password ++ Text.utf8 user))
  "md5" ++ Text.hex (Digest.md5 (Text.utf8 inner ++ salt))

end PgSession
