import PgSession.Wire.Buffer

/-!
What the region of a buffer holds, byte by byte. Bytes that were never written are zero, so the
contents of any part of the region are given by one function on offsets, and storing changes that
function at the offsets stored to and nowhere else.
-/

namespace PgSession.Proofs
open Wire

/-- Padding with zeros is not seen by a reader for whom missing bytes are zero. -/
private theorem getD_rightpad (bytes : List UInt8) (size offset : Nat) :
    (bytes.rightpad size 0).getD offset 0 = bytes.getD offset 0 := by
  simp only [List.rightpad, List.getD_eq_getElem?_getD, List.getElem?_append,
    List.getElem?_replicate]
  split
  · rfl
  · next outside =>
    rw [List.getElem?_eq_none (Nat.le_of_not_lt outside)]
    split <;> rfl

def byteAt (buffer : Buffer) (offset : Nat) : UInt8 := buffer.stored.getD offset 0

theorem contents_eq (buffer : Buffer) (start count : Nat) :
    buffer.contents start count = (List.range' start count).map (byteAt buffer) := by
  have size : (buffer.contents start count).length = count := by
    rw [Buffer.contents, List.length_rightpad]
    exact Nat.max_eq_left (List.length_take_le _ _)
  apply List.ext_getElem (by simp [size])
  intro index inside _
  rw [size] at inside
  have found : (buffer.contents start count)[index] =
      (buffer.contents start count).getD index 0 := by
    rw [List.getD_eq_getElem?_getD, List.getElem?_eq_getElem (by omega), Option.getD_some]
  rw [found, Buffer.contents, getD_rightpad, List.getElem_map, List.getElem_range', Nat.one_mul]
  simp [byteAt, List.getD_eq_getElem?_getD, List.getElem?_take_of_lt inside]

@[simp] theorem contents_length (buffer : Buffer) (start count : Nat) :
    (buffer.contents start count).length = count := by
  rw [contents_eq, List.length_map, List.length_range']

theorem contents_append (buffer : Buffer) (start first second : Nat) :
    buffer.contents start (first + second) =
      buffer.contents start first ++ buffer.contents (start + first) second := by
  simp only [contents_eq, ← List.map_append]
  rw [List.range'_append_1]

theorem contents_drop (buffer : Buffer) {start limit : Nat} (within : start ≤ limit) :
    buffer.contents start (limit - start) = (buffer.contents 0 limit).drop start := by
  obtain ⟨rest, rfl⟩ := Nat.exists_eq_add_of_le within
  rw [contents_append, Nat.zero_add, Nat.add_sub_cancel_left, List.drop_left' (by simp)]

/-- Contents depend on the stored bytes only. -/
theorem contents_congr {buffer other : Buffer} (same : other.stored = buffer.stored)
    (start count : Nat) : other.contents start count = buffer.contents start count := by
  rw [Buffer.contents, Buffer.contents, same]

private theorem byteAt_overwrite (buffer : Buffer) (start : Nat) (bytes : List UInt8)
    (offset : Nat) :
    byteAt { buffer with stored := Buffer.overwrite buffer.stored start bytes } offset =
      if start ≤ offset then
        if inside : offset - start < bytes.length then bytes[offset - start] else byteAt buffer offset
      else byteAt buffer offset := by
  have pad : ((buffer.stored.take start).rightpad start 0).length = start := by
    rw [List.length_rightpad]
    exact Nat.max_eq_left (List.length_take_le _ _)
  simp only [byteAt, Buffer.overwrite, List.append_assoc]
  by_cases before : offset < start
  · rw [if_neg (by omega), List.getD_eq_getElem?_getD, List.getElem?_append_left (by omega),
      ← List.getD_eq_getElem?_getD, getD_rightpad]
    simp [List.getD_eq_getElem?_getD, List.getElem?_take_of_lt before]
  · rw [if_pos (by omega), List.getD_eq_getElem?_getD, List.getElem?_append_right (by omega), pad]
    by_cases inside : offset - start < bytes.length
    · simp [List.getElem?_append_left inside, inside]
    · rw [List.getElem?_append_right (by omega), dif_neg inside, List.getElem?_drop,
        List.getD_eq_getElem?_getD]
      congr 2
      omega

/-- What was stored stands where it was stored. -/
theorem contents_stored (buffer : Buffer) (start : Nat) (bytes : List UInt8) :
    ({ buffer with stored := Buffer.overwrite buffer.stored start bytes } : Buffer).contents start
      bytes.length = bytes := by
  rw [contents_eq]
  apply List.ext_getElem (by simp)
  intro index inside _
  simp only [List.length_map, List.length_range'] at inside
  rw [List.getElem_map, List.getElem_range', byteAt_overwrite, if_pos (by omega),
    dif_pos (by omega)]
  congr 1
  omega

/-- Storing changes nothing outside of the bytes stored. -/
theorem contents_elsewhere (buffer : Buffer) (start : Nat) (bytes : List UInt8)
    {first count : Nat} (apart : first + count ≤ start ∨ start + bytes.length ≤ first) :
    ({ buffer with stored := Buffer.overwrite buffer.stored start bytes } : Buffer).contents first
      count = buffer.contents first count := by
  simp only [contents_eq]
  apply List.map_congr_left
  intro offset member
  obtain ⟨low, high⟩ := List.mem_range'_1.mp member
  rw [byteAt_overwrite]
  split
  · rw [dif_neg (by omega)]
  · rfl

theorem grow_enough (buffer : Buffer) (step : 0 < buffer.step) (required : Nat) :
    required ≤ (buffer.grow required).capacity := by
  unfold Buffer.grow
  split
  · assumption
  · have whole := Nat.div_add_mod (required + buffer.step - 1) buffer.step
    have part := Nat.mod_lt (required + buffer.step - 1) step
    rw [Nat.mul_comm] at whole
    simp only
    omega

end PgSession.Proofs
