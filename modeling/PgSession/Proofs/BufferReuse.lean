import PgSession.Proofs.Twins
import PgSession.Transport.Script
import PgSession.Wire.Buffer.Operation

/-!
What a buffer was used for before makes no difference to a session, and neither does the size of the
steps in which it grows. The buffer may even be exchanged between operations for one that is left
over from another session, with its bytes, its cursor and its limit as they are.
-/

namespace PgSession.Proofs
open Wire Session

variable {α β : Type}

/-- The buffer that an action leaves, however it ends. -/
def bufferAfter : EStateM.Result (Halt DecodeError) Buffer α → Buffer
  | .ok _ buffer => buffer
  | .error _ buffer => buffer

/-- The buffer grows in the same steps as before, however the action ends. -/
def Steady (action : Buffer.Action α) : Prop :=
  ∀ buffer, (bufferAfter (action buffer)).step = buffer.step

namespace Steady

variable {action : Buffer.Action α}

theorem pure (value : α) : Steady (Pure.pure value : Buffer.Action α) := fun _ => rfl

theorem throw (halt : Halt DecodeError) : Steady (MonadExcept.throw halt : Buffer.Action α) :=
  fun _ => rfl

theorem bind {next : α → Buffer.Action β} (steady : Steady action)
    (rest : ∀ value, Steady (next value)) : Steady (action >>= next) := by
  intro buffer
  have first := steady buffer
  cases ran : action buffer with
  | ok value between =>
    rw [ran] at first
    rw [bind_ok ran]
    exact (rest value between).trans first
  | error halt between =>
    rw [ran] at first
    rw [bind_error ran]
    exact first

theorem get {next : Buffer → Buffer.Action α} (rest : ∀ buffer, Steady (next buffer)) :
    Steady (MonadState.get >>= next) := fun buffer => rest buffer buffer

theorem modify {change : Buffer → Buffer} (keeps : ∀ buffer, (change buffer).step = buffer.step) :
    Steady (modify change : Buffer.Action Unit) := keeps

theorem ite {condition : Prop} [Decidable condition] {yes no : Buffer.Action α}
    (whenTrue : Steady yes) (whenFalse : Steady no) : Steady (if condition then yes else no) := by
  split <;> assumption

theorem slice (start stop : Nat) : Steady (Buffer.slice start stop) := by
  intro buffer
  unfold Buffer.slice
  split <;> rfl

theorem store (start : Nat) (bytes : List UInt8) : Steady (Buffer.store start bytes) := by
  intro buffer
  unfold Buffer.store
  split <;> rfl

theorem expose : Steady Buffer.expose := by
  intro buffer
  unfold Buffer.expose
  split <;> rfl

theorem setPosition (position : Nat) : Steady (Buffer.setPosition position) := by
  intro buffer
  unfold Buffer.setPosition
  split <;> rfl

theorem setLimit (limit : Nat) : Steady (Buffer.setLimit limit) :=
  modify fun buffer => buffer.grow_step limit

theorem clear : Steady Buffer.clear := modify fun _ => rfl

theorem flip : Steady Buffer.flip := modify fun _ => rfl

theorem ensureCapacity (count : Nat) : Steady (Buffer.ensureCapacity count) :=
  modify fun buffer => buffer.grow_step _

theorem put (bytes : List UInt8) : Steady (Buffer.put bytes) :=
  bind (bind (ensureCapacity _) fun _ => get fun _ => bind (modify fun _ => rfl) fun _ => pure _)
    fun start => store start bytes

theorem beginLength : Steady Buffer.beginLength := bind (modify fun _ => rfl) fun _ => put _

theorem endLength : Steady Buffer.endLength := by
  refine get fun buffer => ?_
  cases buffer.pending with
  | nil => exact throw _
  | cons offset pending =>
    exact bind (modify fun _ => rfl) fun _ => get fun _ => ite (store _ _) (throw _)

theorem finishWrite : Steady Buffer.finishWrite := get fun _ => ite flip (throw _)

theorem chunk : Steady Buffer.chunk := get fun _ => slice _ _

theorem fill (bytes : List UInt8) : Steady (Buffer.fill bytes) :=
  bind expose fun _ => bind (store _ _) fun _ => pure _

theorem tag : Steady Buffer.tag := bind (slice 0 1) fun _ => pure _

theorem peekInt32 (offset : Nat) : Steady (Buffer.peekInt32 offset) := by
  refine get fun buffer => bind (slice _ _) fun visible => ?_
  cases Reader.int32 (visible.drop offset) with
  | ok value rest => exact pure value
  | error error rest => exact throw _

theorem read (reader : Reader α) : Steady (Buffer.read reader) := by
  refine bind chunk fun window => ?_
  cases reader window with
  | ok value rest => exact bind (modify fun _ => rfl) fun _ => pure value
  | error error rest => exact bind (modify fun _ => rfl) fun _ => throw _

theorem map (wrap : α → β) (steady : Steady action) : Steady (wrap <$> action) := by
  rw [map_eq_pure_bind]
  exact bind steady fun _ => pure _

end Steady

theorem perform_steady (operation : Buffer.Operation) : Steady operation.perform := by
  cases operation with
  | beginWrite | clear => exact .bind .clear fun _ => .pure _
  | finishWrite => exact .bind .finishWrite fun _ => .pure _
  | beginLength => exact .bind .beginLength fun _ => .pure _
  | endLength => exact .bind .endLength fun _ => .pure _
  | flip => exact .bind .flip fun _ => .pure _
  | putByte | putInt32 | put => exact .bind (.put _) fun _ => .pure _
  | putText text => exact .bind (.bind (.put _) fun _ => .put _) fun _ => .pure _
  | setPosition position => exact .bind (.setPosition position) fun _ => .pure _
  | setLimit limit => exact .bind (.setLimit limit) fun _ => .pure _
  | ensureCapacity count => exact .bind (.ensureCapacity count) fun _ => .pure _
  | fill bytes => exact .map _ (.fill bytes)
  | chunk => exact .map _ .chunk
  | tag => exact .map _ .tag
  | peekInt32 offset => exact .map _ (.peekInt32 offset)
  | readByte | readInt32 | readText | readBytes => exact .map _ (.read _)

variable {τ : Type} [Transport τ]

/-- Settings in which the buffer grows in other steps. No two effects are taken for the same. -/
def growingBy (step : Nat) (settings : Config) : Comparison :=
  ⟨settings, { settings with bufferStep := step }, Eq, Eq.refl⟩

private theorem growingBy_fair (step : Nat) (settings : Config) :
    Fair τ (growingBy step settings) :=
  ⟨rfl, fun challenge => .refl _ (Speech.message? (.answer challenge) settings)⟩

omit [Transport τ] in
/-- Such twins differ in their settings and their buffers only. -/
theorem Twin.whole {step : Nat} {settings : Config} {session session' : Session τ}
    (twin : Twin (growingBy step settings) session session') :
    session' = { session with
      config := { settings with bufferStep := step }, buffer := session'.buffer } := by
  obtain ⟨config, ⟨link, encrypted, journal⟩, buffer, buses, parameters, status, key⟩ := session
  obtain ⟨config', ⟨link', encrypted', journal'⟩, buffer', _, _, _, _⟩ := session'
  obtain ⟨-, rfl, rfl, rfl, same, rfl, rfl, rfl, rfl⟩ := twin
  obtain rfl : journal = journal' := List.forall₂_eq_eq_eq ▸ same
  rfl

/-- The buffers there can be: new ones, and what is left of one by any use of it or by any operation
of a client that has it, over whatever transport and however it ends. -/
inductive Reachable : Buffer → Prop
  | fresh (step : Nat) : Reachable (.new step)
  | used {buffer : Buffer} (operation : Buffer.Operation) (reachable : Reachable buffer) :
    Reachable (bufferAfter (operation.perform buffer))
  | performed {τ : Type} [Transport τ] {client : Client τ} (operation : Operation)
    (reachable : Reachable client.session.buffer) :
    Reachable (client.perform operation).2.session.buffer

theorem Reachable.sound {buffer : Buffer} (reachable : Reachable buffer) : Sound buffer := by
  induction reachable with
  | fresh step => exact .new step
  | used operation reachable sound =>
    rw [Sound, perform_steady operation]
    exact sound
  | @performed τ _ client operation reachable sound =>
    -- A client is its own twin, and twins leave sound buffers.
    obtain ⟨phase, session⟩ := client
    have journal : List.Forall₂ Eq session.channel.journal session.channel.journal :=
      List.forall₂_refl _
    have itself : Twins (growingBy session.config.bufferStep session.config)
        ⟨phase, session⟩ ⟨phase, session⟩ :=
      ⟨rfl, ⟨rfl, rfl, rfl, rfl, journal, rfl, rfl, rfl, rfl⟩, sound, sound⟩
    exact (itself.perform (growingBy_fair _ _) operation).2.sound

private theorem new_reachable (config : Config) (link : τ) :
    Reachable (Client.new config link).session.buffer := by
  obtain ⟨buses, fresh, -⟩ := new_eq config link
  rw [Client.new, fresh]
  exact .fresh config.bufferStep

/-- The same client with another buffer. -/
def exchanged (client : Client τ) (buffer : Buffer) : Client τ :=
  { client with session := { client.session with buffer } }

/-- What is done with a client: an operation, or an exchange of its buffer for another. -/
inductive Move where
  | perform (operation : Operation)
  | exchange (buffer : Buffer) (reachable : Reachable buffer)

def Move.operation? : Move → Option Operation
  | .perform operation => some operation
  | .exchange .. => none

/-- The answers to all operations, and the client that is left. -/
def play (client : Client τ) : List Move → List Answer × Client τ
  | [] => ([], client)
  | .perform operation :: moves =>
    let (answer, client) := client.perform operation
    let (answers, client) := play client moves
    (answer :: answers, client)
  | .exchange buffer _ :: moves => play (exchanged client buffer) moves

/-- The operations answered alike, and twins left. -/
structure Plays (comparison : Comparison) (run run' : List Answer × Client τ) : Prop where
  answers : run'.1 = run.1.map (under comparison.settings')
  twins : Twins comparison run.2 run'.2

variable {comparison : Comparison} {client client' : Client τ}

namespace Twins

omit [Transport τ] in
private theorem exchange (twins : Twins comparison client client') {buffer : Buffer}
    (reachable : Reachable buffer) : Twins comparison (exchanged client buffer) client' :=
  { twins with twin := { twins.twin with }, sound := reachable.sound }

omit [Transport τ] in
private theorem exchange' (twins : Twins comparison client client') {buffer : Buffer}
    (reachable : Reachable buffer) : Twins comparison client (exchanged client' buffer) :=
  { twins with twin := { twins.twin with }, sound' := reachable.sound }

/-- Exchanges that come before the next operation of the second client leave twins. -/
theorem exchanges (twins : Twins comparison client client') {front : List Move}
    (idle : ∀ move ∈ front, move.operation? = none) (moves : List Move) :
    ∃ ready, Twins comparison client ready ∧ play client' (front ++ moves) = play ready moves := by
  induction front generalizing client' with
  | nil => exact ⟨client', twins, rfl⟩
  | cons move front ih =>
    obtain ⟨first, others⟩ := List.forall_mem_cons.mp idle
    cases move with
    | perform operation => cases first
    | exchange buffer reachable => exact ih (twins.exchange' reachable) others

private theorem play (fair : Fair τ comparison) (twins : Twins comparison client client')
    {moves moves' : List Move}
    (same : moves'.filterMap Move.operation? = moves.filterMap Move.operation?) :
    Plays comparison (play client moves) (play client' moves') := by
  induction moves generalizing client client' moves' with
  | nil =>
    have idle : ∀ move ∈ moves', move.operation? = none := List.filterMap_eq_nil_iff.mp same
    obtain ⟨ready, alike, played⟩ := twins.exchanges idle []
    rw [← List.append_nil moves', played]
    exact ⟨rfl, alike⟩
  | cons move moves ih =>
    cases move with
    | exchange buffer reachable => exact ih (twins.exchange reachable) same
    | perform operation =>
      -- The other client exchanges its buffer for a while, and then does the same.
      obtain ⟨front, next, rest, rfl, idle, found, others⟩ := List.filterMap_eq_cons_iff.mp same
      obtain ⟨ready, alike, played⟩ := twins.exchanges idle (next :: rest)
      rw [played]
      cases next with
      | exchange => cases found
      | perform operation' =>
        cases found
        obtain ⟨answer, after⟩ := alike.perform fair operation
        obtain ⟨answers, left⟩ := ih after others
        exact ⟨List.cons_eq_cons.mpr ⟨answer, answers⟩, left⟩

end Twins

/-- However the buffer grows and whatever buffers are put in its place between operations, sessions
over the same transport give the same answers, except that each shows its own settings, and go the
same way: the same calls with the same bytes, the same events, the same records, the same state. -/
theorem buffer_unobservable (settings : Config) (step : Nat) (link : τ) {moves moves' : List Move}
    (same : moves'.filterMap Move.operation? = moves.filterMap Move.operation?) :
    let settings' := { settings with bufferStep := step }
    let run := play (Client.new settings link) moves
    let run' := play (Client.new settings' link) moves'
    run'.1 = run.1.map (under settings') ∧ run'.2.phase = run.2.phase ∧
      run'.2.session =
        { run.2.session with config := settings', buffer := run'.2.session.buffer } := by
  intro settings' run run'
  have fair : Fair τ (growingBy step settings) := growingBy_fair step settings
  obtain ⟨answers, phase, twin, -, -⟩ := (Twins.beginning fair link).play fair same
  exact ⟨answers, phase, twin.whole⟩

private def earlierConfig : Config := { user := "bob", password := some "swordfish" }
private def demanding : Script where served := Frame.bytes ⟨Tag.authentication, int32 3⟩

private def leftover : Buffer :=
  ((Client.new earlierConfig demanding).perform .handshake).2.session.buffer

private theorem leftover_reachable : Reachable leftover := .performed .handshake (new_reachable _ _)

private def laterConfig : Config := { user := "ada" }
private def welcoming : Script where
  served := [⟨Tag.authentication, int32 0⟩, ⟨Tag.readyForQuery, [73]⟩].flatMap Frame.bytes

private def laterMoves : List Move := [.perform .handshake, .perform .settings, .perform .close]
private def exchangingMoves : List Move :=
  [.exchange leftover leftover_reachable, .perform .handshake, .perform .settings,
    .exchange leftover leftover_reachable, .perform .close]

private def plain : List Answer × Client Script := play (Client.new laterConfig welcoming) laterMoves
private def exchanging : List Answer × Client Script :=
  play (Client.new { laterConfig with bufferStep := 7 } welcoming) exchangingMoves

/-- A session in whose place another had sent its password, and then found the server gone. -/
theorem buffer_unobservable_leftover :
    leftover.contents 5 9 = Text.utf8 "swordfish" ∧
    exchangingMoves.filterMap Move.operation? = laterMoves.filterMap Move.operation? ∧
    plain.2.session.channel.calls.getLast? = some (.close true) ∧
    exchanging.1 = plain.1.map (under { laterConfig with bufferStep := 7 }) ∧
    exchanging.2.session.channel = plain.2.session.channel := by
  have stale : leftover.contents 5 9 = Text.utf8 "swordfish" := by decide +kernel
  have closed : plain.2.session.channel.calls.getLast? = some (.close true) := by decide +kernel
  have same : exchangingMoves.filterMap Move.operation? = laterMoves.filterMap Move.operation? := rfl
  have played : play (Client.new laterConfig welcoming) laterMoves = plain := rfl
  have played' : play (Client.new { laterConfig with bufferStep := 7 } welcoming) exchangingMoves =
      exchanging := rfl
  have told := buffer_unobservable laterConfig 7 welcoming same
  simp only [played, played'] at told
  obtain ⟨answers, -, session⟩ := told
  refine ⟨stale, same, closed, answers, ?_⟩
  rw [session]

end PgSession.Proofs
