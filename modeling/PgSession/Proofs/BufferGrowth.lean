import PgSession.Proofs.BufferWriting

/-!
How a buffer grows. Its region is enlarged for what is asked of it and for nothing else, so growing
twice is growing for the larger of two demands, and a message that was written has enlarged the
region exactly as one demand for its last byte would have.
-/

namespace PgSession.Proofs
open Wire

theorem grow_capacity_le (buffer : Buffer) (sound : Sound buffer) (required : Nat) :
    buffer.capacity ≤ (buffer.grow required).capacity := by
  by_cases large : required ≤ buffer.capacity
  · exact Nat.le_of_eq (congrArg Buffer.capacity (if_pos large).symm)
  · exact Nat.le_trans (by omega) (grow_enough buffer sound required)

theorem grow_of_le {buffer : Buffer} {required : Nat} (enough : required ≤ buffer.capacity) :
    buffer.grow required = buffer := if_pos enough

/-- The region grows by less than a step beyond what is required. -/
theorem grow_capacity_lt (buffer : Buffer) {required : Nat} (more : buffer.capacity < required) :
    (buffer.grow required).capacity < required + buffer.step := by
  have whole := Nat.div_mul_le_self (required + buffer.step - 1) buffer.step
  rw [Buffer.grow, if_neg (by omega)]
  simp only
  omega

private theorem multiple_unique {step first second : Nat} (positive : 0 < step)
    (ordered : first ≤ second) (covered : second ≤ (first + step - 1) / step * step) :
    (second + step - 1) / step = (first + step - 1) / step := by
  apply Nat.le_antisymm
  · apply Nat.le_of_lt_succ
    rw [Nat.div_lt_iff_lt_mul positive, Nat.succ_mul]
    omega
  · exact Nat.div_le_div_right (by omega)

private theorem grow_grow (buffer : Buffer) (sound : Sound buffer) {first second : Nat}
    (ordered : first ≤ second) : (buffer.grow first).grow second = buffer.grow second := by
  by_cases small : first ≤ buffer.capacity
  · rw [grow_of_le small]
  have large : ¬ second ≤ buffer.capacity := by omega
  by_cases covered : second ≤ (buffer.grow first).capacity
  · rw [grow_of_le covered, Buffer.grow, if_neg small, Buffer.grow, if_neg large]
    rw [Buffer.grow, if_neg small] at covered
    rw [multiple_unique sound ordered covered]
  · rw [Buffer.grow, if_neg covered, Buffer.grow.eq_def buffer second, if_neg large]
    simp only [Buffer.grow, if_neg small]

/-- One buffer after writing some more into another: the cursor has moved on, and the region has
grown as far as the cursor made it. -/
structure Grown (before after : Buffer) : Prop where
  step : after.step = before.step
  position : before.position ≤ after.position
  inside : after.position ≤ after.capacity
  capacity : after.capacity = (before.grow after.position).capacity

namespace Grown

variable {before between after : Buffer}

theorem refl (inside : before.position ≤ before.capacity) : Grown before before :=
  ⟨rfl, Nat.le_refl _, inside, by rw [grow_of_le inside]⟩

private theorem sound (grown : Grown before after) (sound : Sound before) : Sound after := by
  rw [Sound, grown.step]
  exact sound

theorem grow_capacity_congr (one other : Buffer) (step : other.step = one.step)
    (capacity : other.capacity = one.capacity) (required : Nat) :
    (other.grow required).capacity = (one.grow required).capacity := by
  simp only [Buffer.grow, step, capacity]
  split <;> simp_all

theorem trans (sound : Sound before) (first : Grown before between) (second : Grown between after) :
    Grown before after := by
  refine ⟨second.step.trans first.step, Nat.le_trans first.position second.position, second.inside,
    ?_⟩
  rw [second.capacity, grow_capacity_congr (before.grow between.position) between
    (by rw [Buffer.grow_step, first.step]) first.capacity, grow_grow _ sound second.position]

end Grown

section

variable {before after : Buffer}

theorem put_grown (sound : Sound before) {bytes : List UInt8}
    (wrote : Buffer.put bytes before = .ok () after) : Grown before after := by
  rw [put_eq sound] at wrote
  cases wrote
  exact ⟨by simp, by simp, grow_enough before sound _, rfl⟩

theorem putText_grown (sound : Sound before) {text : String}
    (wrote : Buffer.putText text before = .ok () after) : Grown before after := by
  obtain ⟨_, between, first, last⟩ := bind_ok_inv wrote
  have half := put_grown sound first
  exact half.trans sound (put_grown (half.sound sound) last)

theorem beginLength_grown (sound : Sound before)
    (wrote : Buffer.beginLength before = .ok () after) : Grown before after := by
  let waiting : Buffer := { before with pending := before.position :: before.pending }
  have grown : Grown waiting after := put_grown sound wrote
  refine ⟨grown.step, grown.position, grown.inside, ?_⟩
  rw [grown.capacity, Grown.grow_capacity_congr before waiting rfl rfl]

theorem endLength_grown (inside : before.position ≤ before.capacity)
    (wrote : Buffer.endLength before = .ok () after) : Grown before after := by
  cases waiting : before.pending with
  | nil =>
    obtain ⟨stored, capacity, position, limit, step, lengths⟩ := before
    cases waiting
    cases wrote
  | cons offset pending =>
    rw [endLength_eq waiting] at wrote
    split at wrote
    · rw [Buffer.store] at wrote
      split at wrote <;> cases wrote
      exact ⟨rfl, Nat.le_refl _, inside, by rw [grow_of_le inside]⟩
    · cases wrote

end

mutual

theorem write_grown (item : Item) {before after : Buffer} (sound : Sound before)
    (wrote : item.write before = .ok () after) : Grown before after := by
  cases item with
  | byte value => exact put_grown sound wrote
  | int32 value => exact put_grown sound wrote
  | bytes value => exact put_grown sound wrote
  | text value => exact putText_grown sound wrote
  | group items =>
    rw [Item.write] at wrote
    obtain ⟨_, reserved, first, others⟩ := bind_ok_inv wrote
    obtain ⟨_, filled, middle, last⟩ := bind_ok_inv others
    have one := beginLength_grown sound first
    have two := one.trans sound
      (writeAll_grown items (one.sound sound) one.inside middle)
    exact two.trans sound (endLength_grown two.inside last)
termination_by structural item

theorem writeAll_grown (items : List Item) {before after : Buffer} (sound : Sound before)
    (inside : before.position ≤ before.capacity)
    (wrote : Item.writeAll items before = .ok () after) : Grown before after := by
  cases items with
  | nil =>
    cases wrote
    exact .refl inside
  | cons item items =>
    rw [Item.writeAll] at wrote
    obtain ⟨_, between, first, others⟩ := bind_ok_inv wrote
    have one := write_grown item sound first
    exact one.trans sound (writeAll_grown items (one.sound sound) one.inside others)
termination_by structural items

end

/-- Writing a message makes room for the message. -/
theorem write_capacity {message : FrontendMessage} {before : Buffer} (sound : Sound before)
    (sendable : Sendable message) :
    ∃ after, message.write before = .ok () after ∧ Holds (encoded message) after ∧
      after.step = before.step ∧
      after.capacity = (before.grow (encoded message).length).capacity := by
  obtain ⟨after, wrote, holds⟩ := write_sendable sound sendable
  refine ⟨after, wrote, holds, ?_⟩
  rw [FrontendMessage.write] at wrote
  obtain ⟨_, _, ⟨⟩, others⟩ := bind_ok_inv wrote
  obtain ⟨_, filled, middle, last⟩ := bind_ok_inv others
  have grown : Grown before.cleared filled :=
    writeAll_grown message.items sound (Nat.zero_le _) middle
  change (if filled.pending.isEmpty then Buffer.flip else Buffer.crash .unbalancedLength) filled = _
    at last
  split at last
  · cases last
    refine ⟨grown.step, ?_⟩
    change filled.capacity = _
    rw [grown.capacity, ← show filled.position = (encoded message).length from holds.limit,
      Grown.grow_capacity_congr before before.cleared rfl rfl]
  · cases last

end PgSession.Proofs
