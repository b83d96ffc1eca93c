import PgSession.Wire.Buffer

/-! The operations on a buffer, and what they yield, as data: a use of a buffer is a list of them. -/

namespace PgSession.Wire.Buffer

inductive Operation where
  | beginWrite
  | finishWrite
  | beginLength
  | endLength
  | clear
  | flip
  | putByte (value : UInt8)
  | putInt32 (value : Int32)
  | put (bytes : List UInt8)
  | putText (text : String)
  | setPosition (position : Nat)
  | setLimit (limit : Nat)
  | ensureCapacity (count : Nat)
  | fill (bytes : List UInt8)
  | chunk
  | tag
  | peekInt32 (offset : Nat)
  | readByte
  | readInt32
  | readText
  | readBytes (count : Nat)
deriving DecidableEq

inductive Value where
  | nothing
  | byte (value : UInt8)
  | int32 (value : Int32)
  | size (value : Nat)
  | bytes (value : List UInt8)
  | text (value : String)
deriving DecidableEq

namespace Operation

private def quietly (action : Buffer.Action Unit) : Buffer.Action Value := do
  action
  return .nothing

def perform : Operation → Buffer.Action Value
  | .beginWrite => quietly Buffer.beginWrite
  | .finishWrite => quietly Buffer.finishWrite
  | .beginLength => quietly Buffer.beginLength
  | .endLength => quietly Buffer.endLength
  | .clear => quietly Buffer.clear
  | .flip => quietly Buffer.flip
  | .putByte value => quietly (Buffer.putByte value)
  | .putInt32 value => quietly (Buffer.putInt32 value)
  | .put bytes => quietly (Buffer.put bytes)
  | .putText text => quietly (Buffer.putText text)
  | .setPosition position => quietly (Buffer.setPosition position)
  | .setLimit limit => quietly (Buffer.setLimit limit)
  | .ensureCapacity count => quietly (Buffer.ensureCapacity count)
  | .fill bytes => Value.size <$> Buffer.fill bytes
  | .chunk => Value.bytes <$> Buffer.chunk
  | .tag => Value.byte <$> Buffer.tag
  | .peekInt32 offset => Value.int32 <$> Buffer.peekInt32 offset
  | .readByte => Value.byte <$> Buffer.read Reader.byte
  | .readInt32 => Value.int32 <$> Buffer.read Reader.int32
  | .readText => Value.text <$> Buffer.read Reader.text
  | .readBytes count => Value.bytes <$> Buffer.read (Reader.take count)

end Operation

end PgSession.Wire.Buffer
