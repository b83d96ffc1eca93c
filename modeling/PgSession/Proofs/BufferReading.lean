import PgSession.Proofs.BufferWriting
import PgSession.Proofs.Frames

/-!
Reading through a buffer. The live window is opened behind the bytes that are there, filled from
outside, and turned around once the message is whole; decoding then sees the body of the message
and nothing else of the region.
-/

namespace PgSession.Proofs
open Wire

/-- These bytes are there, and so many more are to be filled in behind them. -/
structure Open (bytes : List UInt8) (size : Nat) (buffer : Buffer) : Prop where
  sound : Sound buffer
  position : buffer.position = bytes.length
  limit : buffer.limit = bytes.length + size
  inside : buffer.limit ≤ buffer.capacity
  contents : buffer.contents 0 bytes.length = bytes

/-- These bytes are there, and the window behind them is used up. -/
abbrev Filled (bytes : List UInt8) (buffer : Buffer) : Prop := Open bytes 0 buffer

theorem clear_setLimit {buffer : Buffer} (sound : Sound buffer) (limit : Nat) :
    Open [] limit (buffer.cleared.limited limit) := by
  refine ⟨by simpa [Sound, Buffer.limited, Buffer.cleared] using sound, ?_, ?_, ?_, rfl⟩
  · simp [Buffer.limited, Buffer.cleared]
  · simp [Buffer.limited]
  · exact grow_enough buffer.cleared sound limit

/-- What is there stays when the window is opened again. -/
theorem Open.extend {bytes : List UInt8} {buffer : Buffer} (filled : Filled bytes buffer)
    (size : Nat) :
    Open bytes size ((buffer.grow (buffer.position + size)).limited (bytes.length + size)) := by
  have start := filled.position
  refine ⟨by simpa [Sound, Buffer.limited] using filled.sound, ?_, ?_, ?_, ?_⟩
  · simp only [Buffer.limited, Buffer.grow_position, start]
    omega
  · rfl
  · exact grow_enough _ (by simpa [Sound] using filled.sound) _
  · exact (contents_congr (by simp [Buffer.limited]) 0 bytes.length).trans filled.contents

theorem Open.expose {bytes : List UInt8} {size : Nat} {buffer : Buffer}
    (opened : Open bytes size buffer) :
    Buffer.expose buffer = .ok (bytes.length, size) { buffer with position := buffer.limit } := by
  have limit := opened.limit
  have inside := opened.inside
  rw [Buffer.expose, if_pos ⟨by rw [opened.position, limit]; omega, inside⟩, opened.position, limit,
    Nat.add_sub_cancel_left]

theorem Open.store {bytes : List UInt8} {size : Nat} {buffer : Buffer}
    (opened : Open bytes size buffer) (more : List UInt8) (length : more.length = size) :
    ∃ buffer', Buffer.store bytes.length more { buffer with position := buffer.limit } =
      .ok () buffer' ∧ Filled (bytes ++ more) buffer' := by
  have inside := opened.inside
  have limit := opened.limit
  refine ⟨_, if_pos (by simp only; omega), opened.sound, ?_, ?_, inside, ?_⟩
  · simp only [limit, List.length_append, length]
  · simp only [limit, List.length_append, length]
    omega
  · let exposed : Buffer := { buffer with position := buffer.limit }
    rw [List.length_append, contents_append, Nat.zero_add]
    change Buffer.contents { exposed with stored := _ } _ _ ++ Buffer.contents
      { exposed with stored := _ } _ _ = _
    rw [contents_stored, contents_elsewhere exposed bytes.length more (.inl (by omega)),
      contents_congr (show exposed.stored = buffer.stored from rfl), opened.contents]

theorem Open.flip {bytes : List UInt8} {buffer : Buffer} (filled : Filled bytes buffer) :
    Holds bytes buffer.flipped := by
  have inside := filled.inside
  rw [filled.limit, Nat.add_zero] at inside
  exact ⟨filled.sound, rfl, filled.position, by
    simpa only [Buffer.flipped, filled.position] using inside, filled.contents⟩

private theorem tag_eq {buffer : Buffer} (room : 1 ≤ buffer.capacity) :
    Buffer.tag buffer = .ok (byteAt buffer 0) buffer := by
  have shown : Buffer.slice 0 1 buffer = .ok [byteAt buffer 0] buffer := by
    rw [Buffer.slice, if_pos ⟨by omega, room⟩, contents_eq]
    rfl
  rw [Buffer.tag, bind_ok shown]
  rfl

private theorem byteAt_first {first : UInt8} {rest : List UInt8} {buffer : Buffer}
    (contents : buffer.contents 0 (rest.length + 1) = first :: rest) : byteAt buffer 0 = first := by
  rw [contents_eq, List.range'_succ, List.map_cons] at contents
  exact (List.cons.inj contents).1

theorem Open.tag {first : UInt8} {rest : List UInt8} {buffer : Buffer}
    (filled : Filled (first :: rest) buffer) : Buffer.tag buffer = .ok first buffer := by
  have inside := filled.inside
  rw [filled.limit, List.length_cons] at inside
  rw [tag_eq (by omega), byteAt_first filled.contents]

theorem Holds.tag {first : UInt8} {rest : List UInt8} {buffer : Buffer}
    (holds : Holds (first :: rest) buffer) : Buffer.tag buffer = .ok first buffer := by
  have inside := holds.inside
  rw [holds.limit, List.length_cons] at inside
  rw [tag_eq (by omega), byteAt_first holds.contents]

theorem Open.peekLength {header : List UInt8} {buffer : Buffer}
    (filled : Filled header buffer) (size : header.length = headerSize) :
    Buffer.peekInt32 1 buffer = .ok (lengthField header) buffer := by
  have inside := filled.inside
  have limit : buffer.limit = headerSize := by rw [filled.limit, size, Nat.add_zero]
  have shown : Buffer.slice 0 buffer.limit buffer = .ok header buffer := by
    rw [Buffer.slice, if_pos ⟨by omega, inside⟩, limit, Nat.sub_zero, ← size, filled.contents]
  match header, size with
  | [tag, first, second, third, fourth], _ =>
    change (Buffer.slice 0 buffer.limit >>= _) buffer = _
    rw [bind_ok shown]
    rfl

theorem Holds.chunk {message : List UInt8} {buffer : Buffer} (holds : Holds message buffer) :
    Buffer.chunk buffer = .ok message buffer := by
  change Buffer.slice buffer.position buffer.limit buffer = _
  rw [Buffer.slice, if_pos ⟨by rw [holds.position]; omega, holds.inside⟩, holds.position,
    holds.limit, Nat.sub_zero, holds.contents]

theorem read_apply {α : Type} (reader : Reader α) {window : List UInt8} {buffer : Buffer}
    (shown : Buffer.chunk buffer = .ok window buffer) :
    Buffer.read reader buffer =
      match reader window with
      | .ok value rest => .ok value { buffer with position := buffer.limit - rest.length }
      | .error error rest =>
        .error (.failed error) { buffer with position := buffer.limit - rest.length } := by
  rw [Buffer.read, bind_ok shown]
  cases reader window <;> rfl

/-- What stands behind the header, up to the limit. -/
def bodyOf (buffer : Buffer) : List UInt8 :=
  buffer.contents headerSize (buffer.limit - headerSize)

/-- A message is read from the byte after the header, if its tag is the one that is wanted. -/
theorem decode_eq {α : Type} (tag : UInt8) (reader : Reader α) {buffer : Buffer}
    (header : headerSize ≤ buffer.limit) (inside : buffer.limit ≤ buffer.capacity) :
    PgSession.decode tag reader buffer =
      if byteAt buffer 0 = tag then
        match reader (bodyOf buffer) with
        | .ok value rest => .ok value { buffer with position := buffer.limit - rest.length }
        | .error error rest =>
          .error (.failed error) { buffer with position := buffer.limit - rest.length }
      else .error (.failed (.violation (.unexpected (some tag) (byteAt buffer 0) none))) buffer := by
  let moved : Buffer := { buffer with position := headerSize }
  have room : 1 ≤ buffer.capacity := by
    simp only [headerSize] at header
    omega
  have skipped : Buffer.setPosition headerSize buffer = .ok () moved := by
    rw [Buffer.setPosition, if_pos header]
  have shown : Buffer.chunk moved = .ok (bodyOf buffer) moved := by
    change Buffer.slice headerSize buffer.limit moved = _
    rw [Buffer.slice, if_pos ⟨header, inside⟩]
    rfl
  rw [PgSession.decode, bind_ok (tag_eq room)]
  split
  · rw [bind_ok skipped, read_apply reader shown]
  · rfl

/-- The body of a message that is all there. -/
theorem Holds.decode {α : Type} {frame : Frame} {buffer : Buffer}
    (holds : Holds frame.bytes buffer) (reader : Reader α) :
    ∃ buffer', Sound buffer' ∧ PgSession.decode frame.tag reader buffer =
      match reader frame.body with
      | .ok value _ => .ok value buffer'
      | .error error _ => .error (.failed error) buffer' := by
  have size : frame.bytes.length = headerSize + frame.body.length := by
    simp only [Frame.bytes, List.length_cons, List.length_append, word_length, headerSize]
    omega
  have header : headerSize ≤ buffer.limit := by
    rw [holds.limit]
    omega
  have body : bodyOf buffer = frame.body := by
    rw [bodyOf, contents_drop _ header, holds.limit, holds.contents]
    rfl
  rw [decode_eq frame.tag reader header holds.inside, if_pos (byteAt_first holds.contents), body]
  split
  · refine ⟨_, ?_, rfl⟩
    exact holds.sound
  · refine ⟨_, ?_, rfl⟩
    exact holds.sound

end PgSession.Proofs
