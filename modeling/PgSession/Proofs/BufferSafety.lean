import PgSession.Proofs.BufferGrowth
import PgSession.Proofs.BufferReading
import PgSession.Proofs.Contracts

/-!
The uses of a buffer that are safe. The cursor never passes the limit, nor the limit the region, so
every offset is one of the region's; and since no message is longer than its length field can say,
the region stays small enough for every number that is computed on the way to fit a machine word.
-/

namespace PgSession.Proofs
open Wire

/-- The live window lies inside the region, and the region has a first byte. -/
structure Ordered (buffer : Buffer) : Prop where
  position : buffer.position ≤ buffer.limit
  limit : buffer.limit ≤ buffer.capacity
  first : 0 < buffer.capacity

namespace Ordered

variable {buffer : Buffer} {stopped : Buffer → Prop}

theorem chunk (ordered : Ordered buffer) :
    Meets Buffer.chunk buffer stopped fun _ after => after = buffer :=
  .ok (if_pos ⟨ordered.position, ordered.limit⟩) rfl

theorem tag (ordered : Ordered buffer) :
    Meets Buffer.tag buffer stopped fun _ after => after = buffer := by
  have first : Meets (Buffer.slice 0 1) buffer stopped fun _ after => after = buffer :=
    .ok (if_pos ⟨Nat.zero_le _, ordered.first⟩) rfl
  exact first.bind fun _ _ same => .pure same

theorem peekInt32 (ordered : Ordered buffer) (offset : Nat) :
    Meets (Buffer.peekInt32 offset) buffer (· = buffer) fun _ after => after = buffer := by
  have shown : Meets (Buffer.slice 0 buffer.limit) buffer (· = buffer) fun _ after => after = buffer :=
    .ok (if_pos ⟨Nat.zero_le _, ordered.limit⟩) rfl
  refine .get (shown.bind fun visible after same => ?_)
  split
  · exact .pure same
  · exact .fail same

/-- Reading moves the cursor, and not past the limit. -/
theorem read {α : Type} (ordered : Ordered buffer) (reader : Reader α) :
    Meets (Buffer.read reader) buffer
      (fun after => ∃ position ≤ buffer.limit, after = { buffer with position })
      fun _ after => ∃ position ≤ buffer.limit, after = { buffer with position } := by
  refine ordered.chunk.bind fun window after same => ?_
  subst same
  cases reader window with
  | ok value rest => exact .ok rfl ⟨_, Nat.sub_le _ _, rfl⟩
  | error error rest => exact .failed rfl ⟨_, Nat.sub_le _ _, rfl⟩

end Ordered

/-- The size of the largest message: a tag, and as many bytes as a length field can count. -/
def longest : Nat := 1 + Buffer.maxLength

/-- A buffer in use, which grows in such steps and has been at least so large. Its offsets are in
order, and its size is bounded whatever was written to it. -/
structure Live (stride least : Nat) (buffer : Buffer) : Prop where
  positive : 0 < stride
  step : buffer.step = stride
  whole : stride ≤ buffer.capacity
  larger : least ≤ buffer.capacity
  position : buffer.position ≤ buffer.limit
  limit : buffer.limit ≤ buffer.capacity
  bounded : buffer.capacity ≤ max stride (4294967296)

namespace Live

variable {stride least : Nat} {buffer after : Buffer} {stopped : Buffer → Prop}

theorem sound (live : Live stride least buffer) : Sound buffer := by
  rw [Sound, live.step]
  exact live.positive

theorem new (size : Nat) :
    Live (max size headerSize) (max size headerSize) (.new size) := by
  refine ⟨?_, rfl, Nat.le_refl _, Nat.le_refl _, Nat.zero_le _, Nat.le_refl _, Nat.le_max_left _ _⟩
  simp only [headerSize]
  omega

/-- Room for one more message can be made: less than a step is wasted, and a step is wasted only if
the region was smaller than the message. -/
theorem grow (live : Live stride least buffer) {required : Nat} (within : required ≤ longest) :
    buffer.capacity ≤ (buffer.grow required).capacity ∧
      (buffer.grow required).capacity ≤ max stride (4294967296) := by
  refine ⟨grow_capacity_le buffer live.sound required, ?_⟩
  have bounded := live.bounded
  by_cases large : required ≤ buffer.capacity
  · rwa [grow_of_le large]
  · have whole := live.whole
    have grown := grow_capacity_lt buffer (Nat.lt_of_not_le large)
    simp only [longest, Buffer.maxLength] at within
    rw [live.step] at grown
    omega

/-- A buffer with a region as large, and offsets in order, is as good. -/
theorem resize (live : Live stride least buffer) {required : Nat} (within : required ≤ longest)
    (same : after.step = buffer.step) (capacity : after.capacity = (buffer.grow required).capacity)
    (position : after.position ≤ after.limit) (limit : after.limit ≤ after.capacity) :
    Live stride least after := by
  obtain ⟨larger, bounded⟩ := live.grow within
  rw [← capacity] at larger bounded
  exact ⟨live.positive, same.trans live.step, Nat.le_trans live.whole larger,
    Nat.le_trans live.larger larger, position, limit, bounded⟩

theorem move (live : Live stride least buffer) (same : after.step = buffer.step)
    (capacity : after.capacity = buffer.capacity) (position : after.position ≤ after.limit)
    (limit : after.limit ≤ after.capacity) : Live stride least after :=
  live.resize (Nat.zero_le _) same (by rw [capacity, grow_of_le (Nat.zero_le _)]) position limit

theorem ordered (live : Live stride least buffer) : Ordered buffer :=
  ⟨live.position, live.limit, Nat.lt_of_lt_of_le live.positive live.whole⟩

theorem chunk (live : Live stride least buffer) :
    Meets Buffer.chunk buffer stopped fun _ after => after = buffer := live.ordered.chunk

theorem tag (live : Live stride least buffer) :
    Meets Buffer.tag buffer stopped fun _ after => after = buffer := live.ordered.tag

theorem peekInt32 (live : Live stride least buffer) (offset : Nat) :
    Meets (Buffer.peekInt32 offset) buffer (· = buffer) fun _ after => after = buffer :=
  live.ordered.peekInt32 offset

theorem clear (live : Live stride least buffer) :
    Meets Buffer.clear buffer stopped fun _ after => Live stride least after ∧ after.position = 0 :=
  .ok rfl ⟨live.move rfl rfl (Nat.zero_le _) (Nat.le_refl _), rfl⟩

theorem flip (live : Live stride least buffer) :
    Meets Buffer.flip buffer stopped fun _ after =>
      Live stride least after ∧ after.limit = buffer.position :=
  .ok rfl ⟨live.move rfl rfl (Nat.zero_le _) (Nat.le_trans live.position live.limit), rfl⟩

theorem setPosition (live : Live stride least buffer) {position : Nat}
    (within : position ≤ buffer.limit) :
    Meets (Buffer.setPosition position) buffer stopped fun _ after =>
      Live stride least after ∧ after.limit = buffer.limit :=
  .ok (if_pos within) ⟨live.move rfl rfl within live.limit, rfl⟩

theorem setLimit (live : Live stride least buffer) {limit : Nat} (within : limit ≤ longest) :
    Meets (Buffer.setLimit limit) buffer stopped fun _ after =>
      Live stride least after ∧ after.limit = limit ∧ after.position = min buffer.position limit := by
  have room := grow_enough buffer live.sound limit
  refine .ok rfl ⟨live.resize within ?_ rfl ?_ room, rfl, ?_⟩
  · simp [Buffer.limited]
  · exact Nat.min_le_right _ _
  · simp [Buffer.limited]

theorem ensureCapacity (live : Live stride least buffer) {count : Nat}
    (within : buffer.position + count ≤ longest) :
    Meets (Buffer.ensureCapacity count) buffer stopped fun _ after =>
      Live stride least after ∧ after.position = buffer.position := by
  obtain ⟨larger, -⟩ := live.grow within
  refine .ok rfl ⟨live.resize within (by simp) rfl ?_ ?_, by simp⟩
  · simpa using live.position
  · simpa using Nat.le_trans live.limit larger

theorem expose (live : Live stride least buffer) :
    Meets Buffer.expose buffer stopped fun window after =>
      Live stride least after ∧ after.limit = buffer.limit ∧ after.position = buffer.limit ∧
        window.1 + window.2 = buffer.limit := by
  refine .ok (if_pos ⟨live.position, live.limit⟩)
    ⟨live.move rfl rfl (Nat.le_refl _) live.limit, rfl, rfl, ?_⟩
  exact Nat.add_sub_cancel' live.position

theorem store (live : Live stride least buffer) {start : Nat} {bytes : List UInt8}
    (within : start + bytes.length ≤ buffer.limit) :
    Meets (Buffer.store start bytes) buffer stopped fun _ after =>
      Live stride least after ∧ after.limit = buffer.limit ∧ after.position = buffer.position :=
  .ok (if_pos (Nat.le_trans within live.limit)) ⟨live.move rfl rfl live.position live.limit, rfl, rfl⟩

theorem read {α : Type} (live : Live stride least buffer) (reader : Reader α) :
    Meets (Buffer.read reader) buffer
      (fun after => Live stride least after ∧ after.limit = buffer.limit)
      fun _ after => Live stride least after ∧ after.limit = buffer.limit := by
  have moved : ∀ after, (∃ position ≤ buffer.limit, after = { buffer with position }) →
      Live stride least after ∧ after.limit = buffer.limit := by
    rintro _ ⟨position, within, rfl⟩
    exact ⟨live.move rfl rfl within live.limit, rfl⟩
  exact (live.ordered.read reader).mono moved fun _ => moved

/-- Whatever a message says, decoding it is safe once its header is there. -/
theorem decode {α : Type} (live : Live stride least buffer) (header : headerSize ≤ buffer.limit)
    (tag : UInt8) (reader : Reader α) :
    Meets (PgSession.decode tag reader) buffer
      (fun after => Live stride least after ∧ after.limit = buffer.limit)
      fun _ after => Live stride least after ∧ after.limit = buffer.limit := by
  refine live.tag.bind fun found after same => ?_
  subst same
  split
  · refine (live.setPosition header).bind fun _ between ⟨moved, limit⟩ => ?_
    exact (moved.read reader).mono (fun _ ⟨live, same⟩ => ⟨live, same.trans limit⟩)
      fun _ _ ⟨live, same⟩ => ⟨live, same.trans limit⟩
  · exact .fail ⟨live, rfl⟩

end Live

private theorem encoded_length_le {message : FrontendMessage} (sendable : Sendable message) :
    (encoded message).length ≤ longest := by
  cases message with
  | startup | password =>
    simp only [Sendable, FrontendMessage.items, fitsAll, Item.fits, Bool.and_eq_true,
      decide_eq_true_eq] at sendable
    simp only [encoded, FrontendMessage.items, Item.encodeAll, Item.encode, List.length_append,
      word_length, List.length_nil, List.length_cons, longest] at sendable ⊢
    omega
  | sslRequest | cancelRequest | terminate => exact Nat.le_of_ble_eq_true rfl

theorem Live.write {stride least : Nat} {buffer : Buffer} {stopped : Buffer → Prop}
    (live : Live stride least buffer) {message : FrontendMessage} (sendable : Sendable message) :
    Meets message.write buffer stopped fun _ after => Live stride least after := by
  obtain ⟨after, wrote, holds, same, capacity⟩ := write_capacity live.sound sendable
  refine .ok wrote (live.resize (encoded_length_le sendable) same capacity ?_ holds.inside)
  rw [holds.position]
  exact Nat.zero_le _

end PgSession.Proofs
