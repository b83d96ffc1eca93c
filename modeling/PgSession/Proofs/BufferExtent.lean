import Mathlib.Order.Bounds.Basic
import PgSession.Proofs.BufferSafety

/-!
How large a region becomes. It starts as one step, and for everything that is asked of it it grows to
the least multiple of the step that is enough; looking at it and moving in it leave its size alone,
and a message that turns out too long for its length field has been made room for all the same.
-/

namespace PgSession.Proofs
open Wire

/-- The least multiple of the stride that is enough. -/
def roundUp (stride size : Nat) : Nat := (size + stride - 1) / stride * stride

section

variable {stride : Nat}

theorem roundUp_isLeast (positive : 0 < stride) (size : Nat) :
    IsLeast {capacity | stride ∣ capacity ∧ size ≤ capacity} (roundUp stride size) := by
  have whole := Nat.div_add_mod (size + stride - 1) stride
  have part := Nat.mod_lt (size + stride - 1) positive
  rw [Nat.mul_comm] at whole
  refine ⟨⟨Nat.dvd_mul_left .., ?_⟩, ?_⟩
  · unfold roundUp
    omega
  · rintro capacity ⟨⟨count, rfl⟩, enough⟩
    rw [roundUp, Nat.mul_comm stride]
    refine Nat.mul_le_mul_right _ (Nat.le_of_lt_succ ?_)
    rw [Nat.div_lt_iff_lt_mul positive, Nat.succ_mul, Nat.mul_comm count]
    omega

theorem roundUp_mono {size more : Nat} (le : size ≤ more) : roundUp stride size ≤ roundUp stride more :=
  Nat.mul_le_mul_right _ (Nat.div_le_div_right (by omega))

/-- Growing for what is asked is growing to the least multiple that is enough, if that is more. -/
theorem grow_capacity {buffer : Buffer} (sound : Sound buffer) (steps : buffer.step ∣ buffer.capacity)
    (size : Nat) : (buffer.grow size).capacity = max buffer.capacity (roundUp buffer.step size) := by
  obtain ⟨⟨-, enough⟩, least⟩ := roundUp_isLeast sound size
  by_cases room : size ≤ buffer.capacity
  · rw [grow_of_le room, Nat.max_eq_left (least ⟨steps, room⟩)]
  · rw [Buffer.grow, if_neg room, Nat.max_eq_right (by omega)]
    rfl

/-- A size after growing for one demand after another. -/
def growth (stride capacity : Nat) (sizes : List Nat) : Nat :=
  sizes.foldl (fun capacity size => max capacity (roundUp stride size)) capacity

variable {capacity : Nat} {sizes more : List Nat}

theorem growth_append : growth stride capacity (sizes ++ more) =
    growth stride (growth stride capacity sizes) more := List.foldl_append

theorem le_growth : capacity ≤ growth stride capacity sizes := by
  induction sizes generalizing capacity with
  | nil => exact Nat.le_refl _
  | cons size sizes ih => exact Nat.le_trans (Nat.le_max_left ..) ih

/-- One of the demands explains the size, unless there was enough from the beginning. -/
theorem growth_cases (stride capacity : Nat) (sizes : List Nat) :
    growth stride capacity sizes = capacity ∨
      ∃ size ∈ sizes, growth stride capacity sizes = roundUp stride size := by
  induction sizes generalizing capacity with
  | nil => exact .inl rfl
  | cons size sizes ih =>
    rcases ih (max capacity (roundUp stride size)) with same | ⟨other, member, same⟩
    · rcases Nat.le_total (roundUp stride size) capacity with small | large
      · exact .inl (same.trans (Nat.max_eq_left small))
      · exact .inr ⟨size, List.mem_cons_self, same.trans (Nat.max_eq_right large)⟩
    · exact .inr ⟨other, List.mem_cons_of_mem _ member, same⟩

theorem growth_dvd (positive : 0 < stride) (steps : stride ∣ capacity) :
    stride ∣ growth stride capacity sizes := by
  rcases growth_cases stride capacity sizes with same | ⟨size, -, same⟩
  · rw [same]
    exact steps
  · rw [same]
    exact (roundUp_isLeast positive size).1.1

theorem growth_le {bound : Nat} (start : capacity ≤ bound)
    (demands : ∀ size ∈ sizes, roundUp stride size ≤ bound) : growth stride capacity sizes ≤ bound := by
  rcases growth_cases stride capacity sizes with same | ⟨size, member, same⟩
  · rw [same]
    exact start
  · rw [same]
    exact demands size member

end

section

variable {σ ε α β ι : Type}

/-- However the action ended, this is known of what it left, and no length was out of range. -/
def Proper (known : σ → Prop) : EStateM.Result (Halt ε) σ α → Prop
  | .ok _ state => known state
  | .error halt state => halt ≠ .crashed .lengthOutOfRange ∧ known state

/-- Whatever the action comes to, a view of the state stays what it is. -/
def Fixes (view : σ → ι) (action : EStateM (Halt ε) σ α) : Prop :=
  ∀ state, Proper (fun after => view after = view state) (action state)

namespace Fixes

variable {view : σ → ι} {action : EStateM (Halt ε) σ α}

theorem pure (value : α) : Fixes view (Pure.pure value : EStateM (Halt ε) σ α) := fun _ => rfl

theorem throw {halt : Halt ε} (proper : halt ≠ .crashed .lengthOutOfRange) :
    Fixes view (MonadExcept.throw halt : EStateM (Halt ε) σ α) := fun _ => ⟨proper, rfl⟩

theorem bind {next : α → EStateM (Halt ε) σ β} (fixes : Fixes view action)
    (rest : ∀ value, Fixes view (next value)) : Fixes view (action >>= next) := by
  intro state
  have first := fixes state
  cases ran : action state with
  | ok value between =>
    rw [ran] at first
    rw [bind_ok ran]
    have others := rest value between
    rwa [show view between = view state from first] at others
  | error halt between =>
    rw [ran] at first
    rw [bind_error ran]
    exact first

theorem get {next : σ → EStateM (Halt ε) σ α} (rest : ∀ state, Fixes view (next state)) :
    Fixes view (MonadState.get >>= next) := fun state => rest state state

theorem modify {change : σ → σ} (keeps : ∀ state, view (change state) = view state) :
    Fixes view (modify change : EStateM (Halt ε) σ Unit) := keeps

theorem ite {condition : Prop} [Decidable condition] {yes no : EStateM (Halt ε) σ α}
    (whenTrue : Fixes view yes) (whenFalse : Fixes view no) :
    Fixes view (if condition then yes else no) := by
  split <;> assumption

end Fixes

end

/-- The size of the region, and of the steps in which it grows. -/
def extent (buffer : Buffer) : Nat × Nat := (buffer.step, buffer.capacity)

namespace Fixes

variable {α : Type}

theorem slice (start stop : Nat) : Fixes extent (Buffer.slice start stop) := by
  intro buffer
  unfold Buffer.slice
  split
  · rfl
  · exact ⟨nofun, rfl⟩

theorem store (start : Nat) (bytes : List UInt8) : Fixes extent (Buffer.store start bytes) := by
  intro buffer
  unfold Buffer.store
  split
  · rfl
  · exact ⟨nofun, rfl⟩

theorem expose : Fixes extent Buffer.expose := by
  intro buffer
  unfold Buffer.expose
  split
  · rfl
  · exact ⟨nofun, rfl⟩

theorem setPosition (position : Nat) : Fixes extent (Buffer.setPosition position) := by
  intro buffer
  unfold Buffer.setPosition
  split
  · rfl
  · exact ⟨nofun, rfl⟩

theorem clear : Fixes extent Buffer.clear := modify fun _ => rfl

theorem flip : Fixes extent Buffer.flip := modify fun _ => rfl

theorem chunk : Fixes extent Buffer.chunk := get fun _ => slice _ _

theorem tag : Fixes extent Buffer.tag := bind (slice 0 1) fun _ => pure _

theorem peekInt32 (offset : Nat) : Fixes extent (Buffer.peekInt32 offset) := by
  refine get fun buffer => bind (slice _ _) fun visible => ?_
  cases Reader.int32 (visible.drop offset) with
  | ok value rest => exact pure value
  | error error rest => exact throw nofun

theorem read (reader : Reader α) : Fixes extent (Buffer.read reader) := by
  refine bind chunk fun window => ?_
  cases reader window with
  | ok value rest => exact bind (modify fun _ => rfl) fun _ => pure value
  | error error rest => exact bind (modify fun _ => rfl) fun _ => throw nofun

theorem decode (tag : UInt8) (reader : Reader α) : Fixes extent (PgSession.decode tag reader) :=
  bind Fixes.tag fun _ => ite (bind (setPosition _) fun _ => read reader) (throw nofun)

end Fixes

section

variable {before after : Buffer}

/-- The room that a group takes is there before its length is found to be too large. -/
private theorem group_long {items : List Item} {bytes : List UInt8} {pending : List Nat}
    (written : Written bytes pending before) (fits : fitsAll items)
    (long : ¬ Item.fits (.group items)) :
    ∃ after, (Item.group items).write before = .error (.crashed .lengthOutOfRange) after ∧
      Grown before after ∧ after.position = (bytes ++ (Item.group items).encode).length := by
  obtain ⟨reserved, first, waiting⟩ := written.beginLength
  obtain ⟨filled, middle, body⟩ := writeAll_fits items fits waiting
  have one := beginLength_grown written.sound first
  have grown := one.trans written.sound (writeAll_grown items waiting.sound waiting.inside middle)
  have position := body.position
  simp only [Item.fits, fits, Bool.true_and, decide_eq_true_eq] at long
  refine ⟨{ filled with pending }, ?_, ⟨grown.step, grown.position, grown.inside, grown.capacity⟩, ?_⟩
  · rw [Item.write, bind_ok first, bind_ok middle, endLength_eq body.pending, if_neg]
    simp only [position, List.length_append, int32_length]
    omega
  · simp only [position, Item.encode, List.length_append, int32_length, word_length, Nat.add_assoc]

/-- Only the last item of a message can be too long, and it is written after all others. -/
private theorem writeWhole_long (lead items : List Item) (sound : Sound before)
    (first : fitsAll lead) (fits : fitsAll items) (long : ¬ fitsAll (lead ++ [.group items])) :
    ∃ after, writeWhole (lead ++ [.group items]) before = .error (.crashed .lengthOutOfRange) after ∧
      after.step = before.step ∧
      after.capacity = (before.grow (Item.encodeAll (lead ++ [.group items])).length).capacity := by
  have last : ¬ Item.fits (.group items) := by
    intro fits
    refine long (fitsAll_iff.mpr (List.forall_mem_append.mpr ⟨fitsAll_iff.mp first, ?_⟩))
    exact List.forall_mem_singleton.mpr fits
  have empty : Written [] [] before.cleared := ⟨sound, rfl, Nat.zero_le _, rfl, rfl⟩
  obtain ⟨between, wrote, written⟩ := writeAll_fits lead first empty
  obtain ⟨after, crashed, grown, position⟩ := group_long written fits last
  have begun : Buffer.beginWrite before = .ok () before.cleared := rfl
  have start : Grown before.cleared between := writeAll_grown lead sound (Nat.zero_le _) wrote
  have whole : Grown before.cleared after := Grown.trans sound start grown
  refine ⟨after, ?_, whole.step, ?_⟩
  · rw [writeWhole, bind_ok begun, writeAll_append]
    exact bind_error ((bind_ok wrote).trans (bind_error crashed))
  · have size : after.position = (Item.encodeAll (lead ++ [.group items])).length := by
      rw [position, List.nil_append, encodeAll_append, Item.encodeAll, Item.encodeAll, List.append_nil]
    rw [whole.capacity, size, Grown.grow_capacity_congr before before.cleared rfl rfl]

/-- Also a message that is found to be too long has been made room for. -/
theorem write_long {message : FrontendMessage} (sound : Sound before) (long : ¬ Sendable message) :
    ∃ after, message.write before = .error (.crashed .lengthOutOfRange) after ∧
      after.step = before.step ∧
      after.capacity = (before.grow (encoded message).length).capacity := by
  cases message with
  | startup version user database parameters =>
    have flat : fitsAll (.int32 version :: [.text "user", .text user] ++
        (database.map fun name => [.text "database", .text name]).getD [] ++
        parameters.flatMap (fun parameter => [.text parameter.1, .text parameter.2]) ++
        [.byte 0]) := by
      refine fitsAll_iff.mpr fun item member => ?_
      cases item with
      | group items => cases database <;> simp at member
      | byte | int32 | bytes | text => rfl
    exact writeWhole_long [] _ sound rfl flat long
  | password credential =>
    exact writeWhole_long [.byte Tag.password] [.text credential] sound rfl rfl long
  | sslRequest | cancelRequest | terminate => exact absurd rfl long

end

end PgSession.Proofs
