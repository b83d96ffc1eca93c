import PgSession.Proofs.BufferReuse
import PgSession.Proofs.BufferUses
import PgSession.Proofs.RoutineInvariants
import PgSession.Proofs.Steps

/-!
The order of a buffer through everything that is done with it. What holds of a buffer as long as it has
not crashed holds after a crash as well, and whatever a session does with its buffer, it leaves it in
order, however the session fails.
-/

namespace PgSession.Proofs
open Wire Session

variable {σ ε α β : Type}

def stateAfter : EStateM.Result ε σ α → σ
  | .ok _ state => state
  | .error _ state => state

/-- However the action ends, what held before it still holds. -/
def Upholds (invariant : σ → Prop) (action : EStateM ε σ α) : Prop :=
  ∀ state, invariant state → invariant (stateAfter (action state))

namespace Upholds

variable {invariant : σ → Prop} {action : EStateM ε σ α}

theorem pure (value : α) : Upholds invariant (Pure.pure value : EStateM ε σ α) := fun _ holds => holds

theorem throw (error : ε) : Upholds invariant (MonadExcept.throw error : EStateM ε σ α) :=
  fun _ holds => holds

theorem bind {next : α → EStateM ε σ β} (first : Upholds invariant action)
    (rest : ∀ value, Upholds invariant (next value)) : Upholds invariant (action >>= next) := by
  intro state holds
  have between := first state holds
  cases ran : action state with
  | ok value state' =>
    rw [ran] at between
    rw [bind_ok ran]
    exact rest value state' between
  | error error state' =>
    rw [ran] at between
    rw [bind_error ran]
    exact between

theorem get {next : σ → EStateM ε σ α} (rest : ∀ state, Upholds invariant (next state)) :
    Upholds invariant (MonadState.get >>= next) := fun state => rest state state

theorem map (wrap : α → β) (upholds : Upholds invariant action) :
    Upholds invariant (wrap <$> action) := by
  rw [map_eq_pure_bind]
  exact bind upholds fun _ => pure _

theorem ite {condition : Prop} [Decidable condition] {yes no : EStateM ε σ α}
    (whenTrue : Upholds invariant yes) (whenFalse : Upholds invariant no) :
    Upholds invariant (if condition then yes else no) := by
  split <;> assumption

end Upholds

private theorem Conserves.upholds {stride : Nat} {action : Buffer.Action α}
    (conserves : ∀ buffer, Orderly stride buffer → Conserves stride buffer action) :
    Upholds (Orderly stride) action := by
  intro buffer orderly
  have kept := conserves buffer orderly
  unfold Conserves Meets at kept
  match action buffer, kept with
  | .ok _ after, kept => exact kept.orderly
  | .error (.failed _) after, kept => exact kept.orderly

namespace Orderly

variable {stride : Nat}

theorem upholds_clear : Upholds (Orderly stride) Buffer.clear := Conserves.upholds fun _ => clear

theorem upholds_flip : Upholds (Orderly stride) Buffer.flip := Conserves.upholds fun _ => flip

theorem upholds_put (bytes : List UInt8) : Upholds (Orderly stride) (Buffer.put bytes) :=
  Conserves.upholds fun _ orderly => orderly.put bytes

theorem upholds_look {action : Buffer.Action α} (looks : ∀ {buffer}, Ordered buffer →
    Meets action buffer (· = buffer) fun _ after => after = buffer) :
    Upholds (Orderly stride) action :=
  Conserves.upholds fun _ orderly => orderly.look (looks orderly.toOrdered)

theorem upholds_tag : Upholds (Orderly stride) Buffer.tag := upholds_look Ordered.tag

theorem upholds_read (reader : Reader α) : Upholds (Orderly stride) (Buffer.read reader) :=
  Conserves.upholds fun _ orderly => orderly.read reader

/-- An operation that crashes leaves the region and its window alone. -/
theorem upholds_setPosition (position : Nat) :
    Upholds (Orderly stride) (Buffer.setPosition position) := by
  intro buffer orderly
  unfold Buffer.setPosition
  by_cases within : position ≤ buffer.limit
  · have moved : Kept stride buffer { buffer with position } :=
      orderly.move rfl rfl within orderly.limit fun _ => id
    rw [if_pos within]
    exact moved.orderly
  · rw [if_neg within]
    exact orderly

theorem upholds_store (start : Nat) (bytes : List UInt8) :
    Upholds (Orderly stride) (Buffer.store start bytes) := by
  intro buffer orderly
  unfold Buffer.store
  by_cases inside : start + bytes.length ≤ buffer.capacity
  · have stored : Kept stride buffer
        { buffer with stored := Buffer.overwrite buffer.stored start bytes } :=
      orderly.move rfl rfl orderly.position orderly.limit fun _ => id
    rw [if_pos inside]
    exact stored.orderly
  · rw [if_neg inside]
    exact orderly

theorem upholds_expose : Upholds (Orderly stride) Buffer.expose := by
  intro buffer orderly
  have exposed : Kept stride buffer { buffer with position := buffer.limit } :=
    orderly.move rfl rfl (Nat.le_refl _) orderly.limit fun _ => id
  unfold Buffer.expose
  rw [if_pos ⟨orderly.position, orderly.limit⟩]
  exact exposed.orderly

theorem upholds_finishWrite : Upholds (Orderly stride) Buffer.finishWrite :=
  .get fun _ => .ite upholds_flip (.throw _)

theorem upholds_endLength : Upholds (Orderly stride) Buffer.endLength := by
  intro buffer orderly
  cases waiting : buffer.pending with
  | nil =>
    have crashed : Buffer.endLength buffer = .error (.crashed .lengthNotBegun) buffer := by
      obtain ⟨stored, capacity, position, limit, step, pending⟩ := buffer
      cases waiting
      rfl
    rw [crashed]
    exact orderly
  | cons offset pending =>
    -- The field no longer waits when its value turns out to be too long for it.
    have popped : Kept stride buffer { buffer with pending } := by
      refine orderly.move rfl rfl orderly.position orderly.limit fun other member => ?_
      rw [waiting]
      exact List.mem_cons_of_mem _ member
    rw [endLength_eq waiting]
    split
    · exact upholds_store _ _ _ popped.orderly
    · exact popped.orderly

theorem upholds_perform (operation : Buffer.Operation) :
    Upholds (Orderly stride) operation.perform := by
  cases operation with
  | beginWrite | clear => exact .bind upholds_clear fun _ => .pure _
  | flip => exact .bind upholds_flip fun _ => .pure _
  | finishWrite => exact .bind upholds_finishWrite fun _ => .pure _
  | beginLength => exact .bind (Conserves.upholds fun _ => beginLength) fun _ => .pure _
  | endLength => exact .bind upholds_endLength fun _ => .pure _
  | putByte | putInt32 | put => exact .bind (upholds_put _) fun _ => .pure _
  | putText text =>
    exact .bind (Conserves.upholds fun _ orderly => orderly.putText text) fun _ => .pure _
  | setPosition position => exact .bind (upholds_setPosition position) fun _ => .pure _
  | setLimit limit =>
    exact .bind (Conserves.upholds fun _ orderly => orderly.setLimit limit) fun _ => .pure _
  | ensureCapacity count =>
    exact .bind (Conserves.upholds fun _ orderly => orderly.ensureCapacity count) fun _ => .pure _
  | fill bytes => exact .map _ (Conserves.upholds fun _ orderly => orderly.fill bytes)
  | chunk => exact .map _ (upholds_look Ordered.chunk)
  | tag => exact .map _ upholds_tag
  | peekInt32 offset => exact .map _ (upholds_look fun ordered => ordered.peekInt32 offset)
  | readByte | readInt32 | readText | readBytes => exact .map _ (upholds_read _)

theorem upholds_decode (tag : UInt8) (reader : Reader α) :
    Upholds (Orderly stride) (decode tag reader) :=
  .bind upholds_tag fun _ =>
    .ite (.bind (upholds_setPosition _) fun _ => upholds_read reader) (.throw _)

mutual

theorem upholds_item (item : Item) : Upholds (Orderly stride) item.write := by
  cases item with
  | byte | int32 | bytes => exact upholds_put _
  | text text => exact Conserves.upholds fun _ orderly => orderly.putText text
  | group items =>
    exact .bind (Conserves.upholds fun _ => beginLength) fun _ =>
      .bind (upholds_items items) fun _ => upholds_endLength

theorem upholds_items (items : List Item) : Upholds (Orderly stride) (Item.writeAll items) := by
  cases items with
  | nil => exact .pure ()
  | cons item items => exact .bind (upholds_item item) fun _ => upholds_items items

end

theorem upholds_write (message : FrontendMessage) : Upholds (Orderly stride) message.write :=
  .bind upholds_clear fun _ => .bind (upholds_items _) fun _ => upholds_finishWrite

end Orderly

/-- The buffer of a session is in order. -/
abbrev Tidy {τ : Type} (stride : Nat) (session : Session τ) : Prop := Orderly stride session.buffer

abbrev Tidies {τ : Type} (stride : Nat) (action : Action τ α) : Prop := Upholds (Tidy stride) action

namespace Tidies

variable {τ : Type} {stride : Nat}

theorem onBuffer {use : Buffer.Action α} (upholds : Upholds (Orderly stride) use) :
    Tidies stride (Session.onBuffer use : Action τ α) := by
  intro session orderly
  have after := upholds session.buffer orderly
  unfold Session.onBuffer
  cases ran : use session.buffer with
  | ok value buffer =>
    rw [ran] at after
    exact after
  | error halt buffer =>
    rw [ran] at after
    cases halt <;> exact after

theorem onChannel (use : Channel.Action τ α) : Tidies stride (Session.onChannel use) := by
  intro session orderly
  unfold Session.onChannel
  cases use session.channel <;> exact orderly

theorem publish (event : Event) : Tidies stride (publish event : Action τ Unit) := by
  intro session orderly
  unfold Session.publish
  dsimp only
  cases ((session.buses.get event.topic).publish event).1.failure <;> exact orderly

theorem decode (tag : UInt8) (reader : Reader α) :
    Tidies stride (Session.onBuffer (decode tag reader) : Action τ α) :=
  onBuffer (Orderly.upholds_decode tag reader)

theorem tag : Tidies stride (Session.onBuffer Buffer.tag : Action τ UInt8) :=
  onBuffer Orderly.upholds_tag

variable [Transport τ]

theorem say (level : Log.Level) (text : String) : Tidies stride (say level text : Action τ Unit) :=
  .get fun _ => onChannel _

theorem flush : Tidies stride (flush : Action τ Unit) :=
  .bind (onBuffer (Orderly.upholds_look Ordered.chunk)) fun _ => .bind (say _ _) fun _ =>
    .get fun _ => .bind (onChannel _) fun _ => onBuffer Orderly.upholds_clear

theorem send (message : FrontendMessage) : Tidies stride (send message : Action τ Unit) :=
  .bind (onBuffer (Orderly.upholds_write message)) fun _ => flush

theorem fillWindow (timeout : Nat) : Tidies stride (fillWindow timeout : Action τ Unit) :=
  .bind (onBuffer Orderly.upholds_expose) fun _ => .bind (onChannel _) fun _ =>
    onBuffer (Orderly.upholds_store _ _)

theorem fillAfresh (limit timeout : Nat) : Tidies stride (fillAfresh limit timeout : Action τ Unit) :=
  .bind (onBuffer Orderly.upholds_clear) fun _ =>
    .bind (onBuffer (Conserves.upholds fun _ orderly => orderly.setLimit limit)) fun _ =>
      fillWindow timeout

theorem receiveHeader (timeout : Nat) : Tidies stride (receiveHeader timeout : Action τ Nat) :=
  .bind (fillAfresh _ _) fun _ =>
    .bind (onBuffer (Orderly.upholds_look fun ordered => ordered.peekInt32 1)) fun _ =>
      .get fun _ => .ite (.throw _) (.ite (.throw _) (.pure _))

theorem receive (timeout : Nat) : Tidies stride (receive timeout : Action τ UInt8) :=
  .bind (receiveHeader _) fun length => .bind tag fun _ => .bind (say _ _) fun _ =>
    .bind (onBuffer (Conserves.upholds fun _ orderly => orderly.ensureCapacity (length - 4))) fun _ =>
      .bind (onBuffer (Conserves.upholds fun _ orderly => orderly.setLimit (1 + length))) fun _ =>
        .bind (fillWindow _) fun _ => .bind (onBuffer Orderly.upholds_flip) fun _ => tag

omit [Transport τ] in
theorem abides {action : Action τ α} (tidies : Tidies stride action) :
    Abides (Tidy stride) (fun _ => Tidy stride) action := by
  intro session orderly
  have after := tidies session orderly
  match action session, after with
  | .ok _ _, orderly | .error (.failed _) _, orderly | .error (.crashed _) _, orderly => exact orderly

theorem hear (timeout : Nat) : Abides (Tidy stride) (fun _ => Tidy stride)
    (Medium.buffered.hear timeout : Action τ (Option UInt8)) := by
  refine (receive timeout).abides.bind fun _ => Abides.bind ?_ fun _ => (Lockstep.pure _).abides
  exact .dispatch tag.abides (fun tag reader => (decode tag reader).abides)
    (fun event => (publish event).abides) fun _ _ _ orderly => orderly

/-- In whatever way a routine ends. -/
theorem routine (routine : Routine α) :
    Abides (Tidy stride) (fun _ => Tidy stride) (routine.run .buffered : Action τ α) :=
  RoutinesKeep.routine (TalkKeeps.routines
    { say := fun _ => (say _ _).abides
      speak := fun _ => .speak fun session message orderly _ => (send message).abides session orderly
      answer := fun timeout => abides (.bind (fillAfresh 1 timeout) fun _ => tag)
      upgrade := (onChannel _).abides
      close := (onChannel _).abides }
    hear (fun message reader => (decode message reader).abides)
    fun fact _ orderly => by cases fact <;> exact orderly) routine

omit [Transport τ] in
theorem advance {session : Session τ} {action : Action τ Unit}
    (leaves : Leaves (Tidy stride) (fun _ => Tidy stride) (action session)) (success failure : Phase) :
    Tidy stride (Client.advance session action success failure).2.session := by
  unfold Client.advance
  match action session, leaves with
  | .ok _ _, orderly | .error (.failed _) _, orderly | .error (.crashed _) _, orderly => exact orderly

theorem perform {client : Client τ} (orderly : Orderly stride client.session.buffer)
    (operation : Operation) : Orderly stride (client.perform operation).2.session.buffer := by
  unfold Client.perform
  split
  · cases operation using Deed.elim with
    | subscribe | unsubscribe | settings | parameter => exact orderly
    | deed deed =>
      rw [deed.run]
      exact advance (routine _ _ orderly) _ _
  · exact orderly

end Tidies

/-- Every buffer there can be is in order. -/
theorem Reachable.orderly {buffer : Buffer} (reachable : Reachable buffer) :
    ∃ stride, Orderly stride buffer := by
  induction reachable with
  | fresh step => exact ⟨_, .new step⟩
  | @used buffer operation reachable ih =>
    obtain ⟨stride, orderly⟩ := ih
    have after := Orderly.upholds_perform operation buffer orderly
    refine ⟨stride, ?_⟩
    cases ran : operation.perform buffer <;> rw [ran] at after <;> exact after
  | performed operation reachable ih =>
    obtain ⟨stride, orderly⟩ := ih
    exact ⟨stride, Tidies.perform orderly operation⟩

end PgSession.Proofs
