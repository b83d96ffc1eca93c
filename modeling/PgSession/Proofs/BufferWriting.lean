import PgSession.Message.Frontend
import PgSession.Proofs.Actions
import PgSession.Proofs.BufferRegion

/-!
Writing through a buffer. Whatever the buffer held before, a message whose groups fit their length
fields ends up as the bytes it stands for, and the only way to fail is a group that does not fit.
-/

namespace PgSession.Proofs
open Wire

/-- A region that can grow, which is all that is asked of a buffer before it is used. -/
def Sound (buffer : Buffer) : Prop := 0 < buffer.step

theorem Sound.new (step : Nat) : Sound (.new step) := by
  change 0 < max step headerSize
  simp only [headerSize]
  omega

/-- The live window is one whole message, from the beginning of the region. -/
structure Holds (message : List UInt8) (buffer : Buffer) : Prop where
  sound : Sound buffer
  position : buffer.position = 0
  limit : buffer.limit = message.length
  inside : buffer.limit ≤ buffer.capacity
  contents : buffer.contents 0 message.length = message

/-- Where there is room, which is made if need be, the bytes are stored and the cursor moves over
them. -/
theorem put_eq {buffer : Buffer} (sound : Sound buffer) (bytes : List UInt8) :
    Buffer.put bytes buffer =
      .ok () { (buffer.grow (buffer.position + bytes.length)) with
        stored := Buffer.overwrite buffer.stored buffer.position bytes
        position := buffer.position + bytes.length
        limit := (buffer.grow (buffer.position + bytes.length)).capacity } := by
  let grown := buffer.grow (buffer.position + bytes.length)
  have room : grown.position + bytes.length ≤ grown.capacity := by
    rw [Buffer.grow_position]
    exact grow_enough buffer sound _
  change Buffer.store grown.position bytes
    { grown with position := grown.position + bytes.length, limit := grown.capacity } = _
  rw [Buffer.store, if_pos room]
  simp only [grown, Buffer.grow_position, Buffer.grow_stored]

/-- The innermost length field that waits is filled in if it can hold the length. -/
theorem endLength_eq {buffer : Buffer} {offset : Nat} {pending : List Nat}
    (waiting : buffer.pending = offset :: pending) :
    Buffer.endLength buffer =
      if offset ≤ buffer.position ∧ buffer.position - offset ≤ Buffer.maxLength then
        Buffer.store offset (word (buffer.position - offset)) { buffer with pending }
      else .error (.crashed .lengthOutOfRange) { buffer with pending } := by
  obtain ⟨stored, capacity, position, limit, step, lengths⟩ := buffer
  cases waiting
  change (if offset ≤ position ∧ position - offset ≤ Buffer.maxLength then
    Buffer.store offset (word (position - offset)) else Buffer.crash .lengthOutOfRange) _ = _
  split <;> rfl

/-- In the middle of a message: so far these bytes are written, and these length fields wait. -/
structure Written (bytes : List UInt8) (pending : List Nat) (buffer : Buffer) : Prop where
  sound : Sound buffer
  position : buffer.position = bytes.length
  inside : buffer.position ≤ buffer.capacity
  contents : buffer.contents 0 bytes.length = bytes
  pending : buffer.pending = pending

namespace Written

variable {bytes : List UInt8} {pending : List Nat} {buffer : Buffer}

theorem beginWrite (sound : Sound buffer) :
    ∃ buffer', Buffer.beginWrite buffer = .ok () buffer' ∧ Written [] [] buffer' :=
  ⟨buffer.cleared, rfl, sound, rfl, Nat.zero_le _, rfl, rfl⟩

theorem put (written : Written bytes pending buffer) (more : List UInt8) :
    ∃ buffer', Buffer.put more buffer = .ok () buffer' ∧ Written (bytes ++ more) pending buffer' := by
  have contents := written.contents
  rw [← written.position] at contents
  refine ⟨_, put_eq written.sound more, ?_, ?_, grow_enough buffer written.sound _, ?_, ?_⟩
  · simpa [Sound] using written.sound
  · simp [written.position]
  · change Buffer.contents { buffer with stored := _ } _ _ = _
    rw [List.length_append, ← written.position, contents_append, Nat.zero_add, contents_stored,
      contents_elsewhere buffer _ more (.inl (by omega)), contents]
  · simp [written.pending]

theorem putText (written : Written bytes pending buffer) (text : String) :
    ∃ buffer', Buffer.putText text buffer = .ok () buffer' ∧
      Written (bytes ++ (Text.utf8 text ++ [0])) pending buffer' := by
  obtain ⟨between, first, half⟩ := written.put (Text.utf8 text)
  obtain ⟨buffer', last, whole⟩ := half.put [0]
  refine ⟨buffer', ?_, by simpa using whole⟩
  simp only [Buffer.putText, Bind.bind, EStateM.bind, first]
  exact last

theorem beginLength (written : Written bytes pending buffer) :
    ∃ buffer', Buffer.beginLength buffer = .ok () buffer' ∧
      Written (bytes ++ int32 0) (bytes.length :: pending) buffer' := by
  let waiting : Buffer := { buffer with pending := buffer.position :: buffer.pending }
  have reserved : Written bytes (bytes.length :: pending) waiting :=
    ⟨written.sound, written.position, written.inside, written.contents,
      by simp [waiting, written.position, written.pending]⟩
  exact reserved.put (int32 0)

/-- Filling in a length changes nothing but the length. -/
private theorem patch {field body : List UInt8}
    (written : Written (bytes ++ field ++ body) (bytes.length :: pending) buffer)
    (value : List UInt8) (size : value.length = field.length) :
    Written (bytes ++ value ++ body) pending
      { buffer with
        pending := pending, stored := Buffer.overwrite buffer.stored bytes.length value } := by
  have parts := written.contents
  simp only [List.length_append, contents_append, Nat.zero_add] at parts
  obtain ⟨front, last⟩ := List.append_inj parts (by simp)
  obtain ⟨first, -⟩ := List.append_inj front (by simp)
  refine ⟨written.sound, ?_, written.inside, ?_, rfl⟩
  · simp [written.position, size]
  · let patched : Buffer :=
      { buffer with stored := Buffer.overwrite buffer.stored bytes.length value }
    change patched.contents 0 _ = _
    simp only [List.length_append, contents_append, Nat.zero_add]
    rw [contents_stored, contents_elsewhere buffer bytes.length value (.inl (by omega)), first,
      contents_elsewhere buffer bytes.length value (.inr (Nat.le_refl _)), size, last]

variable {body : List UInt8}

private theorem length_position
    (written : Written (bytes ++ int32 0 ++ body) (bytes.length :: pending) buffer) :
    bytes.length ≤ buffer.position ∧ buffer.position - bytes.length = 4 + body.length := by
  simp only [written.position, List.length_append, int32_length]
  omega

private theorem endLength
    (written : Written (bytes ++ int32 0 ++ body) (bytes.length :: pending) buffer)
    (fits : 4 + body.length ≤ Buffer.maxLength) :
    ∃ buffer', Buffer.endLength buffer = .ok () buffer' ∧
      Written (bytes ++ word (4 + body.length) ++ body) pending buffer' := by
  obtain ⟨before, length⟩ := written.length_position
  have within := written.inside
  refine ⟨_, ?_, written.patch (word (4 + body.length)) rfl⟩
  rw [endLength_eq written.pending, length, if_pos ⟨before, fits⟩, Buffer.store, if_pos]
  simp only [word_length]
  omega

private theorem endLength_crash
    (written : Written (bytes ++ int32 0 ++ body) (bytes.length :: pending) buffer)
    (long : ¬ 4 + body.length ≤ Buffer.maxLength) :
    ∃ buffer', Buffer.endLength buffer = .error (.crashed .lengthOutOfRange) buffer' ∧
      Sound buffer' := by
  obtain ⟨before, length⟩ := written.length_position
  refine ⟨{ buffer with pending }, ?_, written.sound⟩
  rw [endLength_eq written.pending, length, if_neg fun both => long both.2]

theorem finishWrite (written : Written bytes [] buffer) :
    ∃ buffer', Buffer.finishWrite buffer = .ok () buffer' ∧ Holds bytes buffer' := by
  refine ⟨buffer.flipped, ?_, written.sound, rfl, written.position, written.inside,
    written.contents⟩
  change (if buffer.pending.isEmpty then Buffer.flip else Buffer.crash .unbalancedLength) buffer = _
  rw [written.pending]
  rfl

end Written

mutual

/-- Whether the size of every group can be written in its length field. -/
def Item.fits : Item → Bool
  | .group items => fitsAll items && decide (4 + (Item.encodeAll items).length ≤ Buffer.maxLength)
  | _ => true

def fitsAll : List Item → Bool
  | [] => true
  | item :: items => Item.fits item && fitsAll items

end

theorem encodeAll_append (front back : List Item) :
    Item.encodeAll (front ++ back) = Item.encodeAll front ++ Item.encodeAll back := by
  induction front with
  | nil => rfl
  | cons item front ih => rw [List.cons_append, Item.encodeAll, Item.encodeAll, ih, List.append_assoc]

theorem writeAll_append (front back : List Item) :
    Item.writeAll (front ++ back) = (do Item.writeAll front; Item.writeAll back) := by
  induction front with
  | nil => rfl
  | cons item front ih =>
    rw [List.cons_append, Item.writeAll, Item.writeAll, ih, bind_assoc]

theorem fitsAll_iff {items : List Item} : fitsAll items ↔ ∀ item ∈ items, Item.fits item := by
  induction items with
  | nil => simp [fitsAll]
  | cons item items ih => simp [fitsAll, ih]

mutual

private theorem write_fits (item : Item) {bytes : List UInt8} {pending : List Nat} {buffer : Buffer}
    (fits : Item.fits item) (written : Written bytes pending buffer) :
    ∃ buffer', item.write buffer = .ok () buffer' ∧
      Written (bytes ++ item.encode) pending buffer' := by
  cases item with
  | byte value => exact written.put [value]
  | int32 value => exact written.put (int32 value)
  | bytes value => exact written.put value
  | text value => exact written.putText value
  | group items =>
    simp only [Item.fits, Bool.and_eq_true, decide_eq_true_eq] at fits
    obtain ⟨reserved, first, waiting⟩ := written.beginLength
    obtain ⟨filled, middle, body⟩ := writeAll_fits items fits.1 waiting
    obtain ⟨buffer', last, whole⟩ := body.endLength fits.2
    refine ⟨buffer', ?_, by simpa only [Item.encode, List.append_assoc] using whole⟩
    rw [Item.write, bind_ok first, bind_ok middle, last]
termination_by structural item

theorem writeAll_fits (items : List Item) {bytes : List UInt8} {pending : List Nat}
    {buffer : Buffer} (fits : fitsAll items) (written : Written bytes pending buffer) :
    ∃ buffer', Item.writeAll items buffer = .ok () buffer' ∧
      Written (bytes ++ Item.encodeAll items) pending buffer' := by
  cases items with
  | nil => exact ⟨buffer, rfl, by simpa only [Item.encodeAll, List.append_nil] using written⟩
  | cons item items =>
    simp only [fitsAll, Bool.and_eq_true] at fits
    obtain ⟨between, first, half⟩ := write_fits item fits.1 written
    obtain ⟨buffer', last, whole⟩ := writeAll_fits items fits.2 half
    refine ⟨buffer', ?_, by simpa only [Item.encodeAll, List.append_assoc] using whole⟩
    rw [Item.writeAll, bind_ok first, last]
termination_by structural items

end

mutual

private theorem write_crash (item : Item) {bytes : List UInt8} {pending : List Nat}
    {buffer : Buffer} (long : ¬ Item.fits item) (written : Written bytes pending buffer) :
    ∃ buffer', item.write buffer = .error (.crashed .lengthOutOfRange) buffer' ∧
      Sound buffer' := by
  cases item with
  | group items =>
    simp only [Item.fits, Bool.and_eq_true, decide_eq_true_eq] at long
    obtain ⟨reserved, first, waiting⟩ := written.beginLength
    rw [Item.write, bind_ok first]
    by_cases inner : fitsAll items
    · obtain ⟨filled, middle, body⟩ := writeAll_fits items inner waiting
      rw [bind_ok middle]
      exact body.endLength_crash fun fits => long ⟨inner, fits⟩
    · obtain ⟨buffer', middle, sound⟩ := writeAll_crash items inner waiting
      exact ⟨buffer', bind_error middle, sound⟩
  | byte _ | int32 _ | bytes _ | text _ => exact absurd rfl long
termination_by structural item

private theorem writeAll_crash (items : List Item) {bytes : List UInt8} {pending : List Nat}
    {buffer : Buffer} (long : ¬ fitsAll items) (written : Written bytes pending buffer) :
    ∃ buffer', Item.writeAll items buffer = .error (.crashed .lengthOutOfRange) buffer' ∧
      Sound buffer' := by
  cases items with
  | nil => exact absurd rfl long
  | cons item items =>
    simp only [fitsAll, Bool.and_eq_true] at long
    rw [Item.writeAll]
    by_cases first : Item.fits item
    · obtain ⟨between, wrote, half⟩ := write_fits item first written
      rw [bind_ok wrote]
      exact writeAll_crash items (fun rest => long ⟨first, rest⟩) half
    · obtain ⟨buffer', crashed, sound⟩ := write_crash item first written
      exact ⟨buffer', bind_error crashed, sound⟩
termination_by structural items

end

/-- All that is done with a buffer to write a message of these items. -/
def writeWhole (items : List Item) : Buffer.Action Unit := do
  Buffer.beginWrite
  Item.writeAll items
  Buffer.finishWrite

theorem writeWhole_fits {items : List Item} {buffer : Buffer} (sound : Sound buffer)
    (fits : fitsAll items) :
    ∃ buffer', writeWhole items buffer = .ok () buffer' ∧ Holds (Item.encodeAll items) buffer' := by
  obtain ⟨empty, first, nothing⟩ := Written.beginWrite sound
  obtain ⟨filled, middle, whole⟩ := writeAll_fits items fits nothing
  obtain ⟨buffer', last, holds⟩ := Written.finishWrite whole
  refine ⟨buffer', ?_, holds⟩
  rw [writeWhole, bind_ok first, bind_ok middle, last]

theorem writeWhole_crash {items : List Item} {buffer : Buffer} (sound : Sound buffer)
    (long : ¬ fitsAll items) :
    ∃ buffer', writeWhole items buffer = .error (.crashed .lengthOutOfRange) buffer' ∧
      Sound buffer' := by
  obtain ⟨empty, first, nothing⟩ := Written.beginWrite sound
  obtain ⟨buffer', crashed, still⟩ := writeAll_crash items long nothing
  refine ⟨buffer', ?_, still⟩
  rw [writeWhole, bind_ok first, bind_error crashed]

/-- The bytes a message is sent as. -/
def encoded (message : FrontendMessage) : List UInt8 := Item.encodeAll message.items

/-- Whether the message can be written at all. -/
def Sendable (message : FrontendMessage) : Prop := fitsAll message.items = true

instance (message : FrontendMessage) : Decidable (Sendable message) :=
  inferInstanceAs (Decidable (_ = _))

theorem write_sendable {message : FrontendMessage} {buffer : Buffer} (sound : Sound buffer)
    (sendable : Sendable message) :
    ∃ buffer', message.write buffer = .ok () buffer' ∧ Holds (encoded message) buffer' :=
  writeWhole_fits sound sendable

theorem write_not_sendable {message : FrontendMessage} {buffer : Buffer} (sound : Sound buffer)
    (long : ¬ Sendable message) :
    ∃ buffer', message.write buffer = .error (.crashed .lengthOutOfRange) buffer' ∧
      Sound buffer' :=
  writeWhole_crash sound long

end PgSession.Proofs
