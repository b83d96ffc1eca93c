import PgSession.Wire.Reader

/-!
One region of bytes, reused for every message that is read or written. A cursor and a limit mark
its live window. Writing appends at the cursor and may reserve a length field to be filled in
later; the region grows in whole steps and never shrinks.

Only the beginning of the region that was ever written is stored, since all bytes after it are
zero. Reading and writing check the region's bounds, and misuse ends in a crash that says why.
-/

namespace PgSession.Wire

structure Buffer where
  stored : List UInt8
  capacity : Nat
  position : Nat
  limit : Nat
  step : Nat
  /-- Where the reserved length fields are that still wait for their value, the innermost first. -/
  pending : List Nat
deriving DecidableEq

/-- How a buffer can be misused. -/
inductive Crash where
  | positionBeyondLimit (position limit : Nat)
  | unbalancedLength
  | lengthNotBegun
  | lengthOutOfRange
  | outOfBounds
deriving DecidableEq

def Crash.message? : Crash → Option String
  | .positionBeyondLimit position limit => some s!"position {position} beyond limit {limit}"
  | .unbalancedLength => some "unbalanced length prefixed message"
  | .lengthNotBegun => some "end_length without begin_length"
  | .lengthOutOfRange => none
  | .outOfBounds => none

/-- Why an operation stopped: it failed, as its callers must expect, or it crashed. -/
inductive Halt (ε : Type) where
  | failed (error : ε)
  | crashed (crash : Crash)
deriving DecidableEq

/-- A tag and the length that follows it. -/
def headerSize : Nat := 5

def defaultStep : Nat := 1024

namespace Buffer

abbrev Action (α : Type) := EStateM (Halt DecodeError) Buffer α

def crash {α : Type} (reason : Crash) : Action α := throw (.crashed reason)

def new (step : Nat) : Buffer :=
  let step := max step headerSize
  ⟨[], step, 0, step, step, []⟩

def remaining (buffer : Buffer) : Nat := buffer.limit - buffer.position

def contents (buffer : Buffer) (start count : Nat) : List UInt8 :=
  ((buffer.stored.drop start).take count).rightpad count 0

/-- The bytes from one offset up to another. -/
def slice (start stop : Nat) : Action (List UInt8) := fun buffer =>
  if start ≤ stop ∧ stop ≤ buffer.capacity then .ok (buffer.contents start (stop - start)) buffer
  else .error (.crashed .outOfBounds) buffer

def overwrite (stored : List UInt8) (start : Nat) (bytes : List UInt8) : List UInt8 :=
  (stored.take start).rightpad start 0 ++ bytes ++ stored.drop (start + bytes.length)

def store (start : Nat) (bytes : List UInt8) : Action Unit := fun buffer =>
  if start + bytes.length ≤ buffer.capacity then
    .ok () { buffer with stored := overwrite buffer.stored start bytes }
  else .error (.crashed .outOfBounds) buffer

/-- The least multiple of the step that is enough, unless the region is large enough already. -/
def grow (buffer : Buffer) (required : Nat) : Buffer :=
  if required ≤ buffer.capacity then buffer
  else { buffer with capacity := (required + buffer.step - 1) / buffer.step * buffer.step }

@[simp] theorem grow_stored (buffer : Buffer) (required : Nat) :
    (buffer.grow required).stored = buffer.stored := by
  unfold grow; split <;> rfl

@[simp] theorem grow_position (buffer : Buffer) (required : Nat) :
    (buffer.grow required).position = buffer.position := by
  unfold grow; split <;> rfl

@[simp] theorem grow_limit (buffer : Buffer) (required : Nat) :
    (buffer.grow required).limit = buffer.limit := by
  unfold grow; split <;> rfl

@[simp] theorem grow_step (buffer : Buffer) (required : Nat) :
    (buffer.grow required).step = buffer.step := by
  unfold grow; split <;> rfl

@[simp] theorem grow_pending (buffer : Buffer) (required : Nat) :
    (buffer.grow required).pending = buffer.pending := by
  unfold grow; split <;> rfl

def setPosition (position : Nat) : Action Unit := fun buffer =>
  if position ≤ buffer.limit then .ok () { buffer with position }
  else .error (.crashed (.positionBeyondLimit position buffer.limit)) buffer

/-- The cursor does not stay behind a limit that moves below it. -/
def limited (buffer : Buffer) (limit : Nat) : Buffer :=
  let buffer := buffer.grow limit
  { buffer with limit, position := min buffer.position limit }

def setLimit (limit : Nat) : Action Unit := modify (·.limited limit)

def cleared (buffer : Buffer) : Buffer :=
  { buffer with position := 0, limit := buffer.capacity, pending := [] }

def clear : Action Unit := modify cleared

/-- What was written up to the cursor becomes the live window. -/
def flipped (buffer : Buffer) : Buffer :=
  { buffer with limit := buffer.position, position := 0 }

def flip : Action Unit := modify flipped

def ensureCapacity (count : Nat) : Action Unit :=
  modify fun buffer => buffer.grow (buffer.position + count)

def beginWrite : Action Unit := clear

def finishWrite : Action Unit := do
  if (← get).pending.isEmpty then flip else crash .unbalancedLength

/-- Moves the cursor over the bytes to be written, and yields where they go. -/
def claim (count : Nat) : Action Nat := do
  ensureCapacity count
  let start := (← get).position
  modify fun buffer => { buffer with position := start + count, limit := buffer.capacity }
  return start

def put (bytes : List UInt8) : Action Unit := do
  let start ← claim bytes.length
  store start bytes

def putByte (value : UInt8) : Action Unit := put [value]

def putInt32 (value : Int32) : Action Unit := put (int32 value)

def putText (text : String) : Action Unit := do
  put (Text.utf8 text)
  putByte 0

/-- Reserves a length field at the cursor. -/
def beginLength : Action Unit := do
  modify fun buffer => { buffer with pending := buffer.position :: buffer.pending }
  putInt32 0

/-- The largest length a field can hold. -/
def maxLength : Nat := 2147483647

/-- Fills in the innermost reserved length field with the number of bytes from its own beginning
up to the cursor. -/
def endLength : Action Unit := do
  match (← get).pending with
  | [] => crash .lengthNotBegun
  | offset :: pending =>
    modify fun buffer => { buffer with pending }
    let position := (← get).position
    if offset ≤ position ∧ position - offset ≤ maxLength then
      store offset (word (position - offset))
    else crash .lengthOutOfRange

def chunk : Action (List UInt8) := do
  let buffer ← get
  slice buffer.position buffer.limit

/-- Gives up the live window to be filled: yields its start and size, and moves the cursor to the
limit. -/
def expose : Action (Nat × Nat) := fun buffer =>
  if buffer.position ≤ buffer.limit ∧ buffer.limit ≤ buffer.capacity then
    .ok (buffer.position, buffer.limit - buffer.position) { buffer with position := buffer.limit }
  else .error (.crashed .outOfBounds) buffer

/-- Fills the beginning of the live window; what the bytes do not reach keeps its content. -/
def fill (bytes : List UInt8) : Action Nat := do
  let (start, size) ← expose
  store start (bytes.take size)
  return size

def tag : Action UInt8 := do
  return (← slice 0 1).headD 0

/-- The word at an offset below the limit. -/
def peekInt32 (offset : Nat) : Action Int32 := do
  let visible ← slice 0 (← get).limit
  match Reader.int32 (visible.drop offset) with
  | .ok value _ => return value
  | .error error _ => throw (.failed error)

/-- Runs a reader on the live window and moves the cursor past what it read. -/
def read {α : Type} (reader : Reader α) : Action α := do
  let window ← chunk
  match reader window with
  | .ok value rest =>
    modify fun buffer => { buffer with position := buffer.limit - rest.length }
    return value
  | .error error rest =>
    modify fun buffer => { buffer with position := buffer.limit - rest.length }
    throw (.failed error)

end Buffer

end PgSession.Wire
