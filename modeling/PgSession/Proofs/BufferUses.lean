import PgSession.Proofs.BufferSafety
import PgSession.Wire.Buffer.Operation

/-!
All uses of a buffer, wise or not. Whatever is done with it and in whatever order, its offsets stay
in order, its region grows in whole steps, and the length fields that wait lie inside the region.
There are five ways to misuse it; an operation crashes if it is one of them, and not otherwise.
-/

namespace PgSession.Proofs
open Wire

/-- Five misuses, each with the crash it ends in. -/
inductive Misuse (buffer : Buffer) : Buffer.Operation → Crash → Prop
  | setPosition {position : Nat} (beyond : buffer.limit < position) :
    Misuse buffer (.setPosition position) (.positionBeyondLimit position buffer.limit)
  | finishWrite (waiting : buffer.pending ≠ []) : Misuse buffer .finishWrite .unbalancedLength
  | unbegun (none : buffer.pending = []) : Misuse buffer .endLength .lengthNotBegun
  | before {offset : Nat} {pending : List Nat} (innermost : buffer.pending = offset :: pending)
    (ahead : buffer.position < offset) : Misuse buffer .endLength .lengthOutOfRange
  | long {offset : Nat} {pending : List Nat} (innermost : buffer.pending = offset :: pending)
    (long : Buffer.maxLength < buffer.position - offset) :
    Misuse buffer .endLength .lengthOutOfRange

/-- What holds of a buffer as long as it has not crashed. -/
structure Orderly (stride : Nat) (buffer : Buffer) : Prop extends Ordered buffer where
  positive : 0 < stride
  step : buffer.step = stride
  steps : ∃ count, buffer.capacity = count * stride
  pending : ∀ offset ∈ buffer.pending, offset + 4 ≤ buffer.capacity

/-- What holds after an operation that did not crash. -/
structure Kept (stride : Nat) (buffer after : Buffer) : Prop where
  orderly : Orderly stride after
  larger : buffer.capacity ≤ after.capacity

/-- The operation ends in one of the two ways its caller must expect. -/
abbrev Conserves {α : Type} (stride : Nat) (buffer : Buffer) (action : Buffer.Action α) : Prop :=
  Meets action buffer (Kept stride buffer) fun _ => Kept stride buffer

theorem Kept.trans {stride : Nat} {buffer between after : Buffer} (first : Kept stride buffer between)
    (second : Kept stride between after) : Kept stride buffer after :=
  ⟨second.orderly, Nat.le_trans first.larger second.larger⟩

namespace Conserves

variable {α β : Type} {stride : Nat} {buffer : Buffer} {action : Buffer.Action α}

theorem bind {next : α → Buffer.Action β} (first : Conserves stride buffer action)
    (rest : ∀ value between, Kept stride buffer between → Conserves stride between (next value)) :
    Conserves stride buffer (action >>= next) :=
  Meets.bind first fun value between kept =>
    (rest value between kept).mono (fun _ => kept.trans) fun _ _ => kept.trans

/-- The value of an operation says nothing about the buffer. -/
theorem value (keeps : Conserves stride buffer action) (wrap : α → β) :
    Conserves stride buffer (wrap <$> action) := by
  rw [map_eq_pure_bind]
  exact Meets.bind keeps fun _ _ kept => .pure kept

end Conserves

namespace Orderly

variable {stride : Nat} {buffer after : Buffer}

theorem new (size : Nat) : Orderly (max size headerSize) (.new size) := by
  have positive : 0 < max size headerSize := by
    simp only [headerSize]
    omega
  exact ⟨⟨Nat.zero_le _, Nat.le_refl _, positive⟩, positive, rfl, ⟨1, (Nat.one_mul _).symm⟩,
    List.forall_mem_nil _⟩

theorem sound (orderly : Orderly stride buffer) : Sound buffer := by
  rw [Sound, orderly.step]
  exact orderly.positive

theorem grow (orderly : Orderly stride buffer) (required : Nat) :
    ∃ count, (buffer.grow required).capacity = count * stride := by
  by_cases enough : required ≤ buffer.capacity
  · rw [grow_of_le enough]
    exact orderly.steps
  · rw [Buffer.grow, if_neg enough, orderly.step]
    exact ⟨_, rfl⟩

/-- Whatever an operation does, it leaves a region that has grown for something or not at all. -/
theorem resize (orderly : Orderly stride buffer) (required : Nat) (same : after.step = buffer.step)
    (capacity : after.capacity = (buffer.grow required).capacity)
    (position : after.position ≤ after.limit) (limit : after.limit ≤ after.capacity)
    (pending : ∀ offset ∈ after.pending, offset ∈ buffer.pending ∨ offset + 4 ≤ after.capacity) :
    Kept stride buffer after := by
  have larger : buffer.capacity ≤ after.capacity := by
    rw [capacity]
    exact grow_capacity_le buffer orderly.sound required
  refine ⟨⟨⟨position, limit, Nat.lt_of_lt_of_le orderly.first larger⟩, orderly.positive,
    same.trans orderly.step, capacity ▸ orderly.grow required, fun offset member => ?_⟩, larger⟩
  rcases pending offset member with old | inside
  · exact Nat.le_trans (orderly.pending offset old) larger
  · exact inside

/-- Most operations leave the region as large as it was, and begin no length field. -/
theorem move (orderly : Orderly stride buffer) (same : after.step = buffer.step)
    (capacity : after.capacity = buffer.capacity) (position : after.position ≤ after.limit)
    (limit : after.limit ≤ after.capacity)
    (pending : ∀ offset ∈ after.pending, offset ∈ buffer.pending) : Kept stride buffer after :=
  orderly.resize 0 same (by rw [capacity, grow_of_le (Nat.zero_le _)]) position limit
    fun offset member => .inl (pending offset member)

theorem refl (orderly : Orderly stride buffer) : Kept stride buffer buffer :=
  ⟨orderly, Nat.le_refl _⟩

theorem clear (orderly : Orderly stride buffer) : Conserves stride buffer Buffer.clear :=
  .ok rfl (orderly.move rfl rfl (Nat.zero_le _) (Nat.le_refl _) nofun)

theorem flip (orderly : Orderly stride buffer) : Conserves stride buffer Buffer.flip :=
  .ok rfl (orderly.move rfl rfl (Nat.zero_le _) (Nat.le_trans orderly.position orderly.limit)
    fun _ => id)

private theorem setPosition (orderly : Orderly stride buffer) {position : Nat}
    (within : position ≤ buffer.limit) : Conserves stride buffer (Buffer.setPosition position) :=
  .ok (if_pos within) (orderly.move rfl rfl within orderly.limit fun _ => id)

theorem setLimit (orderly : Orderly stride buffer) (limit : Nat) :
    Conserves stride buffer (Buffer.setLimit limit) := by
  have room := grow_enough buffer orderly.sound limit
  refine .ok rfl (orderly.resize limit ?_ rfl ?_ room fun _ member => .inl ?_)
  · simp [Buffer.limited]
  · exact Nat.min_le_right _ _
  · simpa [Buffer.limited] using member

theorem ensureCapacity (orderly : Orderly stride buffer) (count : Nat) :
    Conserves stride buffer (Buffer.ensureCapacity count) := by
  have larger := grow_capacity_le buffer orderly.sound (buffer.position + count)
  refine .ok rfl (orderly.resize (buffer.position + count) (by simp) rfl ?_ ?_
    fun _ member => .inl ?_)
  · simpa using orderly.position
  · simpa using Nat.le_trans orderly.limit larger
  · simpa using member

theorem put (orderly : Orderly stride buffer) (bytes : List UInt8) :
    Conserves stride buffer (Buffer.put bytes) := by
  have room := grow_enough buffer orderly.sound (buffer.position + bytes.length)
  refine .ok (put_eq orderly.sound bytes) (orderly.resize (buffer.position + bytes.length)
    (by simp) rfl room (Nat.le_refl _) fun _ member => .inl ?_)
  simpa using member

theorem putText (orderly : Orderly stride buffer) (text : String) :
    Conserves stride buffer (Buffer.putText text) :=
  Conserves.bind (orderly.put _) fun _ _ kept => kept.orderly.put [0]

/-- The field that is reserved lies inside the region, since room is made for it at once. -/
theorem beginLength (orderly : Orderly stride buffer) : Conserves stride buffer Buffer.beginLength := by
  let waiting : Buffer := { buffer with pending := buffer.position :: buffer.pending }
  have sound : Sound waiting := orderly.sound
  have reserved : Buffer.beginLength buffer = _ := put_eq sound (int32 0)
  have capacity : (waiting.grow (waiting.position + (int32 0).length)).capacity =
      (buffer.grow (buffer.position + 4)).capacity :=
    Grown.grow_capacity_congr buffer waiting rfl rfl _
  have room : buffer.position + 4 ≤ (waiting.grow (waiting.position + (int32 0).length)).capacity := by
    rw [capacity]
    exact grow_enough buffer orderly.sound _
  refine .ok reserved (orderly.resize (buffer.position + 4) ?_ capacity room (Nat.le_refl _)
    fun offset member => ?_)
  · simp [waiting]
  · simp only [Buffer.grow_pending, waiting, List.mem_cons] at member
    rcases member with rfl | old
    · exact .inr room
    · exact .inl old

private theorem endLength (orderly : Orderly stride buffer) {offset : Nat} {pending : List Nat}
    (innermost : buffer.pending = offset :: pending) (reached : offset ≤ buffer.position)
    (short : buffer.position - offset ≤ Buffer.maxLength) :
    Conserves stride buffer Buffer.endLength := by
  have inside : offset + 4 ≤ buffer.capacity :=
    orderly.pending offset (by rw [innermost]; exact List.mem_cons_self)
  have stored : Buffer.endLength buffer = .ok () { buffer with
      pending, stored := Buffer.overwrite buffer.stored offset (word (buffer.position - offset)) } := by
    rw [endLength_eq innermost, if_pos ⟨reached, short⟩, Buffer.store, if_pos (by simpa using inside)]
  refine .ok stored (orderly.move rfl rfl orderly.position orderly.limit fun other member => ?_)
  rw [innermost]
  exact List.mem_cons_of_mem _ member

theorem fill (orderly : Orderly stride buffer) (bytes : List UInt8) :
    Conserves stride buffer (Buffer.fill bytes) := by
  let exposed : Buffer := { buffer with position := buffer.limit }
  have inside : buffer.position + (bytes.take (buffer.limit - buffer.position)).length ≤
      exposed.capacity := by
    have := orderly.position
    have := orderly.limit
    rw [List.length_take]
    change _ ≤ buffer.capacity
    omega
  have window : Meets Buffer.expose buffer (Kept stride buffer) fun window after =>
      window = (buffer.position, buffer.limit - buffer.position) ∧ after = exposed :=
    .ok (if_pos ⟨orderly.position, orderly.limit⟩) ⟨rfl, rfl⟩
  refine window.bind ?_
  rintro _ _ ⟨rfl, rfl⟩
  have filled : Meets (Buffer.store buffer.position (bytes.take (buffer.limit - buffer.position)))
      exposed (Kept stride buffer) fun _ => Kept stride buffer :=
    .ok (if_pos inside) (orderly.move rfl rfl (Nat.le_refl _) orderly.limit fun _ => id)
  exact filled.bind fun _ _ kept => .pure kept

/-- What looks at a buffer leaves it as it is. -/
theorem look {α : Type} (orderly : Orderly stride buffer) {action : Buffer.Action α}
    (looks : Meets action buffer (· = buffer) fun _ after => after = buffer) :
    Conserves stride buffer action := by
  have same : ∀ after, after = buffer → Kept stride buffer after := by
    rintro _ rfl
    exact orderly.refl
  exact looks.mono same fun _ => same

theorem read {α : Type} (orderly : Orderly stride buffer) (reader : Reader α) :
    Conserves stride buffer (Buffer.read reader) := by
  have moved : ∀ after, (∃ position ≤ buffer.limit, after = { buffer with position }) →
      Kept stride buffer after := by
    rintro _ ⟨position, within, rfl⟩
    exact orderly.move rfl rfl within orderly.limit fun _ => id
  exact (orderly.toOrdered.read reader).mono moved fun _ => moved

private theorem quiet {action : Buffer.Action Unit} (keeps : Conserves stride buffer action) :
    Conserves stride buffer (do action; return Buffer.Value.nothing) :=
  Meets.bind keeps fun _ _ kept => .pure kept

/-- An operation that is no misuse is safe. -/
theorem perform (orderly : Orderly stride buffer) {operation : Buffer.Operation}
    (proper : ∀ crash, ¬ Misuse buffer operation crash) :
    Conserves stride buffer operation.perform := by
  cases operation with
  | beginWrite | clear => exact quiet orderly.clear
  | flip => exact quiet orderly.flip
  | finishWrite =>
    have balanced : buffer.pending = [] :=
      Decidable.byContradiction fun waiting => proper _ (.finishWrite waiting)
    refine quiet (Meets.get ?_)
    rw [balanced]
    exact orderly.flip
  | beginLength => exact quiet orderly.beginLength
  | endLength =>
    cases waiting : buffer.pending with
    | nil => exact absurd (.unbegun waiting) (proper _)
    | cons offset pending =>
      have reached : ¬ buffer.position < offset := fun ahead => proper _ (.before waiting ahead)
      have short : ¬ Buffer.maxLength < buffer.position - offset :=
        fun long => proper _ (.long waiting long)
      exact quiet (orderly.endLength waiting (Nat.not_lt.mp reached) (Nat.not_lt.mp short))
  | putByte | putInt32 | put => exact quiet (orderly.put _)
  | putText text => exact quiet (orderly.putText text)
  | setPosition position =>
    have within : ¬ buffer.limit < position := fun beyond => proper _ (.setPosition beyond)
    exact quiet (orderly.setPosition (Nat.not_lt.mp within))
  | setLimit limit => exact quiet (orderly.setLimit limit)
  | ensureCapacity count => exact quiet (orderly.ensureCapacity count)
  | fill bytes => exact Conserves.value (orderly.fill bytes) _
  | chunk => exact Conserves.value (orderly.look orderly.chunk) _
  | tag => exact Conserves.value (orderly.look orderly.tag) _
  | peekInt32 offset => exact Conserves.value (orderly.look (orderly.peekInt32 offset)) _
  | readByte | readInt32 | readText | readBytes => exact Conserves.value (orderly.read _) _

end Orderly

theorem Misuse.crashes {buffer : Buffer} {operation : Buffer.Operation} {crash : Crash}
    (misuse : Misuse buffer operation crash) :
    ∃ after, operation.perform buffer = .error (.crashed crash) after := by
  cases misuse with
  | @setPosition position beyond =>
    have refused : Buffer.setPosition position buffer =
        .error (.crashed (.positionBeyondLimit position buffer.limit)) buffer :=
      if_neg (Nat.not_le.mpr beyond)
    exact ⟨_, bind_error refused⟩
  | finishWrite waiting =>
    have refused : Buffer.finishWrite buffer = .error (.crashed .unbalancedLength) buffer := by
      change (if buffer.pending.isEmpty then Buffer.flip else Buffer.crash .unbalancedLength) buffer = _
      rw [if_neg (by simpa using waiting)]
      rfl
    exact ⟨_, bind_error refused⟩
  | unbegun none =>
    have refused : Buffer.endLength buffer = .error (.crashed .lengthNotBegun) buffer := by
      obtain ⟨stored, capacity, position, limit, step, pending⟩ := buffer
      cases none
      rfl
    exact ⟨_, bind_error refused⟩
  | @before offset pending innermost ahead =>
    have refused : Buffer.endLength buffer =
        .error (.crashed .lengthOutOfRange) { buffer with pending } := by
      rw [endLength_eq innermost, if_neg fun both => absurd both.1 (Nat.not_le.mpr ahead)]
    exact ⟨_, bind_error refused⟩
  | @long offset pending innermost long =>
    have refused : Buffer.endLength buffer =
        .error (.crashed .lengthOutOfRange) { buffer with pending } := by
      rw [endLength_eq innermost, if_neg fun both => absurd both.2 (Nat.not_le.mpr long)]
    exact ⟨_, bind_error refused⟩

theorem Orderly.crashes_iff {stride : Nat} {buffer : Buffer} (orderly : Orderly stride buffer)
    (operation : Buffer.Operation) (crash : Crash) :
    (∃ after, operation.perform buffer = .error (.crashed crash) after) ↔
      Misuse buffer operation crash := by
  refine ⟨fun ⟨after, crashed⟩ => ?_, Misuse.crashes⟩
  by_cases misused : ∃ crash, Misuse buffer operation crash
  · obtain ⟨other, misuse⟩ := misused
    obtain ⟨_, same⟩ := misuse.crashes
    rw [crashed] at same
    cases same
    exact misuse
  · have keeps := orderly.perform fun crash misuse => misused ⟨crash, misuse⟩
    rw [Conserves, Meets, crashed] at keeps
    exact keeps.elim

/-- The buffer after operations, one after another, unless one of them crashes. -/
def used (buffer : Buffer) : List Buffer.Operation → Option Buffer
  | [] => some buffer
  | operation :: operations =>
    match operation.perform buffer with
    | .ok _ after => used after operations
    | .error (.failed _) after => used after operations
    | .error (.crashed _) _ => none

private theorem used_append {buffer after : Buffer} {operations more : List Buffer.Operation}
    (ran : used buffer (operations ++ more) = some after) :
    ∃ between, used buffer operations = some between ∧ used between more = some after := by
  induction operations generalizing buffer with
  | nil => exact ⟨buffer, rfl, ran⟩
  | cons operation operations ih =>
    rw [List.cons_append, used] at ran
    rw [used]
    split at ran
    · exact ih ran
    · exact ih ran
    · cases ran

theorem Orderly.used {stride : Nat} {buffer after : Buffer} (orderly : Orderly stride buffer)
    {operations : List Buffer.Operation} (ran : used buffer operations = some after) :
    Kept stride buffer after := by
  induction operations generalizing buffer with
  | nil =>
    cases ran
    exact orderly.refl
  | cons operation operations ih =>
    have proper : ∀ crash, ¬ Misuse buffer operation crash := by
      intro crash misuse
      obtain ⟨_, crashed⟩ := misuse.crashes
      rw [Proofs.used, crashed] at ran
      cases ran
    have first := orderly.perform proper
    rw [Proofs.used] at ran
    split at ran
    · next value between performed =>
      rw [Conserves, Meets, performed] at first
      exact first.trans (ih first.orderly ran)
    · next error between performed =>
      rw [Conserves, Meets, performed] at first
      exact first.trans (ih first.orderly ran)
    · cases ran

/-- Whatever was done with a buffer that has not crashed, it is in order, it has never shrunk, and
the next operation crashes exactly if it is a misuse. -/
theorem buffer_orderly {size : Nat} {operations : List Buffer.Operation} {buffer : Buffer}
    (uncrashed : used (.new size) operations = some buffer) :
    buffer.position ≤ buffer.limit ∧ buffer.limit ≤ buffer.capacity ∧
    (∃ count, 0 < count ∧ buffer.capacity = count * max size 5) ∧
    (∀ earlier later, operations = earlier ++ later → ∃ before,
      used (.new size) earlier = some before ∧ before.capacity ≤ buffer.capacity) ∧
    (∀ offset ∈ buffer.pending, offset + 4 ≤ buffer.capacity) ∧
    ∀ operation crash, (∃ after, operation.perform buffer = .error (.crashed crash) after) ↔
      Misuse buffer operation crash := by
  have orderly : Orderly (max size headerSize) buffer := ((Orderly.new size).used uncrashed).orderly
  refine ⟨orderly.position, orderly.limit, ?_, ?_, orderly.pending, orderly.crashes_iff⟩
  · obtain ⟨count, whole⟩ := orderly.steps
    refine ⟨count, Nat.pos_of_ne_zero fun zero => ?_, whole⟩
    have first := orderly.first
    rw [whole, zero, Nat.zero_mul] at first
    exact Nat.lt_irrefl 0 first
  · rintro earlier later rfl
    obtain ⟨before, ran, others⟩ := used_append uncrashed
    exact ⟨before, ran, (((Orderly.new size).used ran).orderly.used others).larger⟩

private def heedless : List Buffer.Operation :=
  [.putText "abcdefgh", .beginLength, .flip, .readText, .setLimit 3]

private def heedlesslyUsed : Buffer := (used (.new 4) heedless).getD (.new 4)

/-- A length field that was reserved, filled in too late and left behind by the cursor. -/
theorem buffer_orderly_left_behind : used (.new 4) heedless = some heedlesslyUsed ∧
    heedlesslyUsed.pending = [9] ∧ heedlesslyUsed.capacity = 15 ∧
    ∃ after, Buffer.Operation.endLength.perform heedlesslyUsed =
      .error (.crashed .lengthOutOfRange) after := by
  have uncrashed : used (.new 4) heedless = some heedlesslyUsed := by decide +kernel
  have innermost : heedlesslyUsed.pending = [9] := by decide +kernel
  have ahead : heedlesslyUsed.position < 9 := by decide +kernel
  obtain ⟨-, -, -, -, -, crashes⟩ := buffer_orderly uncrashed
  exact ⟨uncrashed, innermost, by decide +kernel, (crashes _ _).mpr (.before innermost ahead)⟩

end PgSession.Proofs
