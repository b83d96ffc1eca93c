import PgSession.Wire.Buffer
import PgSession.Message.Notice

/-!
The messages a server sends before a session is ready, and how each is read. A reader sees the body
of a message only: what stands after the last field it wants is left alone.
-/

namespace PgSession

open Wire

/-- What the server asks for during authentication. -/
inductive Authentication where
  | ok
  | cleartextPassword
  | md5Password (salt : List UInt8)
deriving DecidableEq

def Authentication.display : Authentication → String
  | .ok => "Ok"
  | .cleartextPassword => "CleartextPassword"
  | .md5Password salt =>
    "Md5Password \x7b salt: [" ++ ", ".intercalate (salt.map fun byte => toString byte.toNat) ++
      "] \x7d"

def saltSize : Nat := 4

/-- Names a server process to whoever wants to cancel its work. -/
structure KeyData where
  processId : Int32
  secretKey : Int32
deriving DecidableEq

structure ParameterStatus where
  name : String
  value : String
deriving DecidableEq

structure Notification where
  processId : Int32
  channel : String
  payload : String
deriving DecidableEq

inductive TransactionStatus where
  | idle
  | inTransaction
  | failed
deriving DecidableEq

namespace TransactionStatus

def ofByte (byte : UInt8) : Except Violation TransactionStatus :=
  if byte = 'I'.toUInt8 then .ok .idle
  else if byte = 'T'.toUInt8 then .ok .inTransaction
  else if byte = 'E'.toUInt8 then .ok .failed
  else .error (.unknownTransactionStatus byte)

def display : TransactionStatus → String
  | .idle => "Idle"
  | .inTransaction => "InTransaction"
  | .failed => "Failed"

end TransactionStatus

namespace Wire.Reader

def authentication : Reader Authentication := do
  let code ← int32
  if code = 0 then return .ok
  else if code = 3 then return .cleartextPassword
  else if code = 5 then return .md5Password (← take saltSize)
  else throw (.violation (.unknownAuthentication code))

def keyData : Reader KeyData := do
  let processId ← int32
  let secretKey ← int32
  return { processId, secretKey }

def parameterStatus : Reader ParameterStatus := do
  let name ← text
  let value ← text
  return { name, value }

def notification : Reader Notification := do
  let processId ← int32
  let channel ← text
  let payload ← text
  return { processId, channel, payload }

def transactionStatus : Reader TransactionStatus := do
  match TransactionStatus.ofByte (← byte) with
  | .ok status => return status
  | .error violation => throw (.violation violation)

/-- Fields follow one another until a zero code, after which no text stands. -/
def fieldsAfter (fields : Fields) : Reader Fields := fun bytes =>
  match bytes with
  | [] => .error .truncated []
  | code :: rest =>
    if code = 0 then .ok fields rest
    else match _read : text rest with
      | .ok value remaining => fieldsAfter (fields.insert code value) remaining
      | .error error remaining => .error error remaining
termination_by bytes => bytes.length
decreasing_by exact Nat.lt_succ_of_lt (text_shorter ‹_›)

def notice : Reader Notice := do return ⟨← fieldsAfter .empty⟩

def errorReport : Reader ErrorReport := do return ⟨← notice⟩

end Wire.Reader

/-- Reads a buffered message of one kind: its tag is the first byte of the region, its body begins
after the header. -/
def decode {α : Type} (tag : UInt8) (reader : Reader α) : Buffer.Action α := do
  let found ← Buffer.tag
  if found = tag then
    Buffer.setPosition headerSize
    Buffer.read reader
  else throw (.failed (.violation (.unexpected (some tag) found none)))

end PgSession
