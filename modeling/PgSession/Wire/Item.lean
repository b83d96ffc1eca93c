import PgSession.Wire.Buffer

/-!
What messages are made of. A group is preceded by its own size, so an item has two readings: the
bytes it stands for, and the writes that produce them in a buffer when the size is known only at
the end.
-/

namespace PgSession.Wire

inductive Item where
  | byte (value : UInt8)
  | int32 (value : Int32)
  | bytes (value : List UInt8)
  | text (value : String)
  | group (items : List Item)

namespace Item

mutual

def encode : Item → List UInt8
  | .byte value => [value]
  | .int32 value => Wire.int32 value
  | .bytes value => value
  | .text value => Text.utf8 value ++ [0]
  | .group items =>
    let body := encodeAll items
    word (4 + body.length) ++ body

def encodeAll : List Item → List UInt8
  | [] => []
  | item :: items => item.encode ++ encodeAll items

end

mutual

def write : Item → Buffer.Action Unit
  | .byte value => Buffer.putByte value
  | .int32 value => Buffer.putInt32 value
  | .bytes value => Buffer.put value
  | .text value => Buffer.putText value
  | .group items => do
    Buffer.beginLength
    writeAll items
    Buffer.endLength

def writeAll : List Item → Buffer.Action Unit
  | [] => pure ()
  | item :: items => do
    item.write
    writeAll items

end

end Item

end PgSession.Wire
