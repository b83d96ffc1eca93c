import PgSession.Proofs.BufferUpkeep
import PgSession.Proofs.TextFields

/-!
Reading in the live window of a buffer. A read takes the bytes of what it yields from the cursor on, or
fails and leaves the buffer as it was; what is stored behind the limit, or ahead of the cursor, makes no
difference to it. What is written piece by piece reads back piece by piece.
-/

namespace PgSession.Proofs
open Wire

variable {α β : Type}

/-- What is written with one operation and read with one. -/
inductive Piece where
  | byte (value : UInt8)
  | int32 (value : Int32)
  | bytes (value : List UInt8)
  | text (value : String)

namespace Piece

def encode : Piece → List UInt8
  | .byte value => [value]
  | .int32 value => Wire.int32 value
  | .bytes value => value
  | .text value => Text.utf8 value ++ [0]

def value : Piece → Buffer.Value
  | .byte value => .byte value
  | .int32 value => .int32 value
  | .bytes value => .bytes value
  | .text value => .text value

def write : Piece → Buffer.Operation
  | .byte value => .putByte value
  | .int32 value => .putInt32 value
  | .bytes value => .put value
  | .text value => .putText value

/-- The operation that reads the piece. It has to know how many bytes to take. -/
def read : Piece → Buffer.Operation
  | .byte _ => .readByte
  | .int32 _ => .readInt32
  | .bytes value => .readBytes value.length
  | .text _ => .readText

/-- A text ends where it says it ends. -/
def Legible : Piece → Prop
  | .text value => nul ∉ value.toList
  | _ => True

instance : (piece : Piece) → Decidable piece.Legible
  | .text value => inferInstanceAs (Decidable (nul ∉ value.toList))
  | .byte _ | .int32 _ | .bytes _ => inferInstanceAs (Decidable True)

end Piece

/-- The operations that move the cursor over what they read, and how they read it. -/
def reader? : Buffer.Operation → Option (Reader Buffer.Value)
  | .readByte => some (.byte <$> Reader.byte)
  | .readInt32 => some (.int32 <$> Reader.int32)
  | .readText => some (.text <$> Reader.text)
  | .readBytes count => some (.bytes <$> Reader.take count)
  | _ => none

section

variable {ε σ : Type} {wrap : α → β} {action : EStateM ε σ α} {state after : σ}

private theorem map_ok_iff {result : β} : (wrap <$> action) state = .ok result after ↔
    ∃ value, action state = .ok value after ∧ wrap value = result := by
  rw [map_eq_pure_bind]
  cases ran : action state with
  | ok value between =>
    rw [bind_ok ran]
    constructor
    · rintro ⟨⟩
      exact ⟨value, rfl, rfl⟩
    · rintro ⟨_, ⟨⟩, rfl⟩
      rfl
  | error error between =>
    rw [bind_error ran]
    exact iff_of_false nofun nofun

private theorem map_error {error : ε} (failed : (wrap <$> action) state = .error error after) :
    action state = .error error after := by
  rw [map_eq_pure_bind] at failed
  cases ran : action state with
  | ok value between =>
    rw [bind_ok ran] at failed
    cases failed
  | error error between =>
    rw [bind_error ran] at failed
    cases failed
    rfl

end

private theorem byte_ok_iff {bytes rest : List UInt8} {value : UInt8} :
    Reader.byte bytes = .ok value rest ↔ bytes = value :: rest := by
  cases bytes with
  | nil => exact iff_of_false nofun nofun
  | cons first more =>
    constructor <;> rintro ⟨⟩ <;> rfl

section

variable {operation : Buffer.Operation} {reader : Reader Buffer.Value} {bytes rest : List UInt8}

/-- What a reader yields stood at the beginning of what it was given. -/
private theorem reader_ok_iff (reads : reader? operation = some reader) {value : Buffer.Value} :
    reader bytes = .ok value rest ↔ ∃ piece : Piece, piece.read = operation ∧ piece.value = value ∧
      piece.Legible ∧ bytes = piece.encode ++ rest := by
  constructor
  · intro read
    cases operation with
    | readByte =>
      cases reads
      obtain ⟨value, found, rfl⟩ := map_ok_iff.mp read
      exact ⟨.byte value, rfl, rfl, trivial, byte_ok_iff.mp found⟩
    | readInt32 =>
      cases reads
      obtain ⟨value, found, rfl⟩ := map_ok_iff.mp read
      exact ⟨.int32 value, rfl, rfl, trivial, int32_ok_iff.mp found⟩
    | readText =>
      cases reads
      obtain ⟨value, found, rfl⟩ := map_ok_iff.mp read
      obtain ⟨_, ⟨free, rfl⟩, same⟩ := text_ok_iff.mp found
      exact ⟨.text value, rfl, rfl, free, same⟩
    | readBytes count =>
      cases reads
      obtain ⟨value, found, rfl⟩ := map_ok_iff.mp read
      obtain ⟨rfl, same⟩ := take_ok_iff.mp found
      exact ⟨.bytes value, rfl, rfl, trivial, same⟩
    | _ => cases reads
  · rintro ⟨piece, rfl, rfl, legible, rfl⟩
    cases piece with
    | byte value =>
      cases reads
      exact map_ok_iff.mpr ⟨value, byte_ok_iff.mpr rfl, rfl⟩
    | int32 value =>
      cases reads
      exact map_ok_iff.mpr ⟨value, int32_ok_iff.mpr rfl, rfl⟩
    | bytes value =>
      cases reads
      exact map_ok_iff.mpr ⟨value, take_ok_iff.mpr ⟨rfl, rfl⟩, rfl⟩
    | text value =>
      cases reads
      exact map_ok_iff.mpr ⟨value, text_ok_iff.mpr ⟨_, ⟨legible, rfl⟩, rfl⟩, rfl⟩

/-- A reader that fails leaves everything to be read. -/
private theorem reader_error (reads : reader? operation = some reader) {error : DecodeError}
    (failed : reader bytes = .error error rest) : rest = bytes := by
  cases operation with
  | readByte =>
    cases reads
    have failed := map_error failed
    cases bytes <;> cases failed
    rfl
  | readInt32 =>
    cases reads
    have failed := map_error failed
    unfold Reader.int32 at failed
    split at failed <;> cases failed
    rfl
  | readText =>
    cases reads
    have failed := map_error failed
    unfold Reader.text at failed
    split at failed
    · cases failed
      rfl
    · split at failed <;> cases failed
      rfl
  | readBytes count =>
    cases reads
    have failed := map_error failed
    unfold Reader.take at failed
    split at failed <;> cases failed
    rfl
  | _ => cases reads

end

/-- The bytes between the cursor and the limit. -/
def window (buffer : Buffer) : List UInt8 := buffer.contents buffer.position buffer.remaining

private theorem Ordered.read_eq {buffer : Buffer} (ordered : Ordered buffer) (reader : Reader α) :
    Buffer.read reader buffer =
      match reader (window buffer) with
      | .ok value rest => .ok value { buffer with position := buffer.limit - rest.length }
      | .error error rest =>
        .error (.failed error) { buffer with position := buffer.limit - rest.length } :=
  read_apply reader (if_pos ⟨ordered.position, ordered.limit⟩)

private theorem read_map (wrap : α → β) (reader : Reader α) :
    wrap <$> Buffer.read reader = Buffer.read (wrap <$> reader) := by
  unfold Buffer.read
  rw [map_eq_pure_bind, bind_assoc]
  congr 1
  funext window
  have mapped : (wrap <$> reader) window = match reader window with
      | .ok value rest => .ok (wrap value) rest
      | .error error rest => .error error rest := by
    rw [map_eq_pure_bind]
    cases ran : reader window with
    | ok value rest => rw [bind_ok ran]; rfl
    | error error rest => rw [bind_error ran]
  rw [mapped]
  cases reader window <;> rfl

private theorem perform_reader {operation : Buffer.Operation} {reader : Reader Buffer.Value}
    (reads : reader? operation = some reader) : operation.perform = Buffer.read reader := by
  cases operation with
  | readByte | readInt32 | readText | readBytes =>
    cases reads
    exact read_map _ _
  | _ => cases reads

/-- Contents that begin with some bytes begin where these do. -/
private theorem contents_begin {buffer : Buffer} {start count : Nat} {front rest : List UInt8}
    (same : buffer.contents start count = front ++ rest) :
    count = front.length + rest.length ∧ buffer.contents start front.length = front ∧
      buffer.contents (start + front.length) rest.length = rest := by
  have size : count = front.length + rest.length := by
    have lengths := congrArg List.length same
    rwa [contents_length, List.length_append] at lengths
  rw [size, contents_append] at same
  exact ⟨size, List.append_inj same (contents_length ..)⟩

/-- The cursor moved over the beginning of the window. -/
structure Takes (front rest : List UInt8) (buffer after : Buffer) : Prop where
  contents : buffer.contents buffer.position front.length = front
  moved : after = { buffer with position := buffer.position + front.length }
  within : after.position ≤ after.limit
  window : window after = rest

private theorem Ordered.takes {buffer : Buffer} (ordered : Ordered buffer) {front rest : List UInt8}
    (same : Proofs.window buffer = front ++ rest) :
    Takes front rest buffer { buffer with position := buffer.limit - rest.length } := by
  have inside := ordered.position
  obtain ⟨size, first, last⟩ := contents_begin same
  unfold Buffer.remaining at size
  have behind : buffer.limit - rest.length = buffer.position + front.length := by omega
  refine ⟨first, by rw [behind], Nat.sub_le _ _, ?_⟩
  have remaining : Buffer.remaining { buffer with position := buffer.limit - rest.length } =
      rest.length := by
    unfold Buffer.remaining
    dsimp only
    omega
  rw [Proofs.window, remaining]
  change buffer.contents (buffer.limit - rest.length) rest.length = rest
  rw [behind, last]

private theorem Takes.ordered {front rest : List UInt8} {buffer after : Buffer}
    (takes : Takes front rest buffer after) (ordered : Ordered buffer) : Ordered after := by
  obtain ⟨-, rfl, within, -⟩ := takes
  exact ⟨within, ordered.limit, ordered.first⟩

/-- The reads that move the cursor. -/
def Gets : Buffer.Operation → Prop
  | .readByte | .readInt32 | .readText | .readBytes _ => True
  | _ => False

private theorem Gets.reader {operation : Buffer.Operation} (gets : Gets operation) :
    ∃ reader, reader? operation = some reader := by
  cases operation with
  | readByte | readInt32 | readText | readBytes => exact ⟨_, rfl⟩
  | _ => cases gets

section

variable {buffer other : Buffer} {operation : Buffer.Operation}

/-- A read that succeeds takes the bytes of what it yields; one that fails takes nothing. -/
theorem Ordered.get (ordered : Ordered buffer) (gets : Gets operation) :
    Meets operation.perform buffer (· = buffer) fun value after =>
      ∃ (piece : Piece) (rest : List UInt8), piece.read = operation ∧ piece.value = value ∧
        Takes piece.encode rest buffer after := by
  obtain ⟨reader, reads⟩ := gets.reader
  rw [perform_reader reads]
  cases ran : reader (window buffer) with
  | ok value rest =>
    obtain ⟨piece, same, yielded, -, begins⟩ := (reader_ok_iff reads).mp ran
    refine .ok ?_ ⟨piece, rest, same, yielded, ordered.takes begins⟩
    rw [ordered.read_eq, ran]
  | error error rest =>
    -- A failure takes an empty front of the window, and so moves nothing.
    have whole : window buffer = [] ++ rest := (reader_error reads ran).symm
    have failed : Buffer.read reader buffer =
        .error (.failed error) { buffer with position := buffer.limit - rest.length } := by
      rw [ordered.read_eq, ran]
    exact .failed failed (ordered.takes whole).moved

/-- What is there is read. -/
theorem Ordered.get_piece (ordered : Ordered buffer) {piece : Piece} {rest : List UInt8}
    (legible : piece.Legible) (begins : window buffer = piece.encode ++ rest) :
    ∃ after, piece.read.perform buffer = .ok piece.value after ∧
      Takes piece.encode rest buffer after := by
  have gets : Gets piece.read := by cases piece <;> trivial
  obtain ⟨reader, reads⟩ := gets.reader
  have ran := (reader_ok_iff reads).mpr ⟨piece, rfl, rfl, legible, begins⟩
  refine ⟨_, ?_, ordered.takes begins⟩
  rw [perform_reader reads, ordered.read_eq, ran]

private theorem Ordered.peek_eq (ordered : Ordered buffer) (offset : Nat) :
    (Buffer.Operation.peekInt32 offset).perform buffer =
      match Reader.int32 ((buffer.contents 0 buffer.limit).drop offset) with
      | .ok value _ => .ok (.int32 value) buffer
      | .error error _ => .error (.failed error) buffer := by
  have shown : Buffer.slice 0 buffer.limit buffer = .ok (buffer.contents 0 buffer.limit) buffer :=
    if_pos ⟨Nat.zero_le _, ordered.limit⟩
  change (Buffer.Value.int32 <$> (Buffer.slice 0 buffer.limit >>= _)) buffer = _
  rw [map_eq_pure_bind, bind_assoc, bind_ok shown]
  cases Reader.int32 ((buffer.contents 0 buffer.limit).drop offset) <;> rfl

/-- A word is seen only if all of it stands before the limit. -/
theorem Ordered.peek (ordered : Ordered buffer) (offset : Nat) :
    Meets (Buffer.Operation.peekInt32 offset).perform buffer (· = buffer) fun value after =>
      after = buffer ∧ offset + 4 ≤ buffer.limit ∧
        ∃ number, value = .int32 number ∧ buffer.contents offset 4 = int32 number := by
  cases ran : Reader.int32 ((buffer.contents 0 buffer.limit).drop offset) with
  | error error rest =>
    have failed : (Buffer.Operation.peekInt32 offset).perform buffer =
        .error (.failed error) buffer := by
      rw [ordered.peek_eq, ran]
    exact .failed failed rfl
  | ok number rest =>
    have begins := int32_ok_iff.mp ran
    have within : offset ≤ buffer.limit := by
      refine Nat.le_of_not_lt fun beyond => ?_
      rw [List.drop_eq_nil_of_le (by rw [contents_length]; omega)] at begins
      cases begins
    rw [← contents_drop buffer within] at begins
    obtain ⟨size, first, -⟩ := contents_begin begins
    rw [int32_length] at size first
    refine .ok ?_ ⟨rfl, by omega, number, rfl, first⟩
    rw [ordered.peek_eq, ran]

/-- The same is yielded or the same is wrong, and the cursors end up in the same place. -/
def Alike (result result' : EStateM.Result (Halt DecodeError) Buffer Buffer.Value) : Prop :=
  match result, result' with
  | .ok value after, .ok value' after' => value' = value ∧ after'.position = after.position
  | .error halt after, .error halt' after' => halt' = halt ∧ after'.position = after.position
  | _, _ => False

private theorem Ordered.get_alike (ordered : Ordered buffer) (ordered' : Ordered other)
    (limit : other.limit = buffer.limit) (same : window other = window buffer)
    (gets : Gets operation) : Alike (operation.perform buffer) (operation.perform other) := by
  obtain ⟨reader, reads⟩ := gets.reader
  rw [perform_reader reads, ordered.read_eq, ordered'.read_eq, same, limit]
  cases reader (window buffer) <;> exact ⟨rfl, rfl⟩

private theorem Ordered.peek_alike (ordered : Ordered buffer) (ordered' : Ordered other)
    (position : other.position = buffer.position)
    (same : other.contents 0 other.limit = buffer.contents 0 buffer.limit) (offset : Nat) :
    Alike ((Buffer.Operation.peekInt32 offset).perform buffer)
      ((Buffer.Operation.peekInt32 offset).perform other) := by
  rw [ordered.peek_eq, ordered'.peek_eq, same]
  cases Reader.int32 ((buffer.contents 0 buffer.limit).drop offset) <;> exact ⟨rfl, position⟩

end

section

variable {buffer between after : Buffer} {operation : Buffer.Operation}
  {first rest : List Buffer.Operation} {value : Buffer.Value} {values more : List Buffer.Value}

private theorem mapM_cons_ok (ran : operation.perform buffer = .ok value between)
    (others : rest.mapM Buffer.Operation.perform between = .ok values after) :
    (operation :: rest).mapM Buffer.Operation.perform buffer = .ok (value :: values) after := by
  rw [List.mapM_cons, bind_ok ran, bind_ok others]
  rfl

private theorem mapM_append_ok
    (ran : first.mapM Buffer.Operation.perform buffer = .ok values between)
    (others : rest.mapM Buffer.Operation.perform between = .ok more after) :
    (first ++ rest).mapM Buffer.Operation.perform buffer = .ok (values ++ more) after := by
  rw [List.mapM_append, bind_ok ran, bind_ok others]
  rfl

end

theorem Orderly.upholds_mapM {stride : Nat} (operations : List Buffer.Operation) :
    Upholds (Orderly stride) (operations.mapM Buffer.Operation.perform) := by
  induction operations with
  | nil => exact .pure []
  | cons operation operations ih =>
    rw [List.mapM_cons]
    exact .bind (upholds_perform operation) fun _ => .bind ih fun _ => .pure _

private theorem Written.piece {bytes : List UInt8} {pending : List Nat} {buffer : Buffer}
    (written : Written bytes pending buffer) (piece : Piece) :
    ∃ after, piece.write.perform buffer = .ok .nothing after ∧
      Written (bytes ++ piece.encode) pending after := by
  cases piece with
  | byte value =>
    obtain ⟨after, wrote, more⟩ := written.put [value]
    exact ⟨after, bind_ok wrote, more⟩
  | int32 value =>
    obtain ⟨after, wrote, more⟩ := written.put (int32 value)
    exact ⟨after, bind_ok wrote, more⟩
  | bytes value =>
    obtain ⟨after, wrote, more⟩ := written.put value
    exact ⟨after, bind_ok wrote, more⟩
  | text value =>
    obtain ⟨after, wrote, more⟩ := written.putText value
    exact ⟨after, bind_ok wrote, more⟩

private theorem Written.pieces {bytes : List UInt8} {pending : List Nat} {buffer : Buffer}
    (written : Written bytes pending buffer) (pieces : List Piece) :
    ∃ quiet after, (pieces.map Piece.write).mapM Buffer.Operation.perform buffer = .ok quiet after ∧
      Written (bytes ++ pieces.flatMap Piece.encode) pending after := by
  induction pieces generalizing bytes buffer with
  | nil => exact ⟨[], buffer, rfl, by rwa [List.flatMap_nil, List.append_nil]⟩
  | cons piece pieces ih =>
    obtain ⟨between, wrote, more⟩ := written.piece piece
    obtain ⟨quiet, after, others, whole⟩ := ih more
    rw [List.append_assoc] at whole
    exact ⟨_, after, mapM_cons_ok wrote others, whole⟩

/-- Reading goes on where the last read ended. -/
theorem Ordered.pieces {buffer : Buffer} (ordered : Ordered buffer) {pieces : List Piece}
    (legible : ∀ piece ∈ pieces, piece.Legible) {rest : List UInt8}
    (begins : window buffer = pieces.flatMap Piece.encode ++ rest) :
    ∃ after, (pieces.map Piece.read).mapM Buffer.Operation.perform buffer =
      .ok (pieces.map Piece.value) after ∧ window after = rest := by
  induction pieces generalizing buffer with
  | nil => exact ⟨buffer, rfl, begins⟩
  | cons piece pieces ih =>
    obtain ⟨first, others⟩ := List.forall_mem_cons.mp legible
    rw [List.flatMap_cons, List.append_assoc] at begins
    obtain ⟨between, read, takes⟩ := ordered.get_piece first begins
    obtain ⟨after, more, last⟩ := ih (takes.ordered ordered) others takes.window
    exact ⟨after, mapM_cons_ok read more, last⟩

private theorem Holds.window {message : List UInt8} {buffer : Buffer}
    (holds : Holds message buffer) : window buffer = message := by
  rw [Proofs.window, Buffer.remaining, holds.position, holds.limit, Nat.sub_zero, holds.contents]

/-- A whole message made of pieces. -/
def writing (pieces : List Piece) : List Buffer.Operation :=
  .beginWrite :: (pieces.map Piece.write ++ [.finishWrite])

/-- What was written between the beginning and the end of a message is read back from it. -/
theorem read_back {stride : Nat} {buffer : Buffer} (orderly : Orderly stride buffer)
    {pieces : List Piece} (legible : ∀ piece ∈ pieces, piece.Legible) : ∃ quiet written after,
      (writing pieces).mapM Buffer.Operation.perform buffer = .ok quiet written ∧
      (pieces.map Piece.read).mapM Buffer.Operation.perform written =
        .ok (pieces.map Piece.value) after ∧ after.remaining = 0 := by
  obtain ⟨empty, begun, nothing⟩ := Written.beginWrite orderly.sound
  obtain ⟨quiet, full, wrote, whole⟩ := nothing.pieces pieces
  obtain ⟨written, finished, holds⟩ := whole.finishWrite
  have began : Buffer.Operation.beginWrite.perform buffer = .ok .nothing empty := bind_ok begun
  have ended : [Buffer.Operation.finishWrite].mapM Buffer.Operation.perform full =
      .ok [.nothing] written := mapM_cons_ok (bind_ok finished) rfl
  have shown : window written = pieces.flatMap Piece.encode ++ [] := by
    rw [holds.window, List.nil_append, List.append_nil]
  -- The message is written whatever the pieces are; only reading it back needs the region in order.
  have ran := mapM_cons_ok began (mapM_append_ok wrote ended)
  have upheld := Orderly.upholds_mapM (writing pieces) buffer orderly
  rw [show (writing pieces).mapM Buffer.Operation.perform buffer = _ from ran] at upheld
  obtain ⟨after, read, drained⟩ := upheld.toOrdered.pieces legible shown
  refine ⟨_, written, after, ran, read, ?_⟩
  have size := congrArg List.length drained
  rwa [window, contents_length] at size

/-- Reads take from the live window what they yield, or nothing, and see no other bytes; and what was
written piece by piece is read back. -/
theorem buffer_reads {buffer : Buffer} (reachable : Reachable buffer) :
    (∀ operation, Gets operation → Meets operation.perform buffer (· = buffer) fun value after =>
      ∃ (piece : Piece) (rest : List UInt8), piece.read = operation ∧ piece.value = value ∧
        Takes piece.encode rest buffer after) ∧
    (∀ offset, Meets (Buffer.Operation.peekInt32 offset).perform buffer (· = buffer)
      fun value after => after = buffer ∧ offset + 4 ≤ buffer.limit ∧
        ∃ number, value = .int32 number ∧ buffer.contents offset 4 = int32 number) ∧
    (∀ other, Reachable other → other.position = buffer.position → other.limit = buffer.limit →
      (window other = window buffer → ∀ operation, Gets operation →
        Alike (operation.perform buffer) (operation.perform other)) ∧
      (other.contents 0 other.limit = buffer.contents 0 buffer.limit → ∀ offset,
        Alike ((Buffer.Operation.peekInt32 offset).perform buffer)
          ((Buffer.Operation.peekInt32 offset).perform other))) ∧
    ∀ pieces : List Piece, (∀ piece ∈ pieces, piece.Legible) → ∃ quiet written after,
      (writing pieces).mapM Buffer.Operation.perform buffer = .ok quiet written ∧
      (pieces.map Piece.read).mapM Buffer.Operation.perform written =
        .ok (pieces.map Piece.value) after ∧ after.remaining = 0 := by
  obtain ⟨stride, orderly⟩ := reachable.orderly
  have ordered := orderly.toOrdered
  refine ⟨fun _ => ordered.get, ordered.peek, fun other reachable' position limit => ?_,
    fun pieces legible => read_back orderly legible⟩
  obtain ⟨stride', orderly'⟩ := reachable'.orderly
  exact ⟨fun same _ => ordered.get_alike orderly'.toOrdered limit same,
    fun same => ordered.peek_alike orderly'.toOrdered position same⟩

private def uncover (text : String) : List Buffer.Operation := [.putText text, .clear, .setLimit 4]

private def uncovered (text : String) : Buffer :=
  (uncover text).foldl (fun buffer operation => bufferAfter (operation.perform buffer)) (.new 5)

private theorem uncovered_reachable (text : String) : Reachable (uncovered text) :=
  List.foldlRecOn (uncover text) _ (.fresh 5) fun _ reachable operation _ => .used operation reachable

private def assorted : List Piece := [.int32 (-2), .text "", .bytes [0, 0], .text "é", .byte 7]

/-- Two buffers that show the same four bytes and hide how each goes on. -/
theorem buffer_reads_uncovered :
    (uncovered "left over").contents 4 6 = Text.utf8 " over" ++ [0] ∧
    (uncovered "left").contents 4 1 = [0] ∧
    bufferAfter (Buffer.Operation.readText.perform (uncovered "left over")) =
      uncovered "left over" ∧
    Alike (Buffer.Operation.readText.perform (uncovered "left over"))
      (Buffer.Operation.readText.perform (uncovered "left")) ∧
    ∃ quiet written after,
      (writing assorted).mapM Buffer.Operation.perform (uncovered "left over") = .ok quiet written ∧
      (assorted.map Piece.read).mapM Buffer.Operation.perform written =
        .ok (assorted.map Piece.value) after ∧ after.remaining = 0 := by
  obtain ⟨gets, -, alike, back⟩ := buffer_reads (uncovered_reachable "left over")
  have legible : ∀ piece ∈ assorted, piece.Legible := by decide +kernel
  refine ⟨by decide +kernel, by decide +kernel, by decide +kernel, ?_, back assorted legible⟩
  exact (alike _ (uncovered_reachable "left") (by decide +kernel) (by decide +kernel)).1
    (by decide +kernel) .readText trivial

end PgSession.Proofs
