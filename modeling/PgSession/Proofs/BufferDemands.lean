import PgSession.Proofs.BufferExtent
import PgSession.Proofs.Dealings

/-!
What a session asks of its region. Looking at messages, logging and calling the transport leave its
size alone; sending makes room for what is sent, and receiving for what a header announces, but only
if the header is let through.
-/

namespace PgSession.Proofs
open Wire Session

variable {τ α β : Type}

/-- The extent of the buffer in a session. -/
def region (session : Session τ) : Nat × Nat := extent session.buffer

namespace Proper

variable {σ ε ι : Type} {action : EStateM (Halt ε) σ α} {state : σ} {known other : σ → Prop}

theorem bind {next : α → EStateM (Halt ε) σ β} (first : Proper known (action state))
    (rest : ∀ value between, action state = .ok value between → known between →
      Proper other (next value between))
    (halts : ∀ state, known state → other state) : Proper other ((action >>= next) state) := by
  cases ran : action state with
  | ok value between =>
    rw [ran] at first
    rw [bind_ok ran]
    exact rest value between ran first
  | error halt between =>
    rw [ran] at first
    rw [bind_error ran]
    exact ⟨first.1, halts _ first.2⟩

end Proper

namespace Fixes

theorem onBuffer {use : Buffer.Action α} (fixes : Fixes extent use) :
    Fixes region (Session.onBuffer use : Action τ α) := by
  intro session
  have used := fixes session.buffer
  unfold Session.onBuffer
  cases ran : use session.buffer with
  | ok value buffer =>
    rw [ran] at used
    exact used
  | error halt buffer =>
    rw [ran] at used
    obtain ⟨proper, same⟩ := used
    cases halt with
    | failed error => exact ⟨nofun, same⟩
    | crashed crash =>
      refine ⟨fun long => proper ?_, same⟩
      cases long
      rfl

theorem call (call : Bool → Call) (run : τ → Except IoError α × τ) :
    Fixes region (onChannel (Channel.perform call run)) := by
  intro session
  cases ran : run session.channel.link with
  | mk result link =>
    cases result with
    | ok value =>
      rw [perform_ok ran]
      rfl
    | error error =>
      rw [perform_failed ran]
      exact ⟨nofun, rfl⟩

theorem publish (event : Event) : Fixes region (publish event : Action τ Unit) := by
  intro session
  unfold Session.publish
  dsimp only
  cases ((session.buses.get event.topic).publish event).1.failure with
  | none => rfl
  | some reason => exact ⟨nofun, rfl⟩

variable [Transport τ]

theorem say (level : Log.Level) (text : String) : Fixes region (say level text : Action τ Unit) :=
  fun _ => rfl

theorem hear (count timeout : Nat) :
    Fixes region (onChannel (Channel.read count timeout) : Action τ (List UInt8)) := call _ _

theorem write (bytes : List UInt8) (timeout : Nat) :
    Fixes region (onChannel (Channel.write bytes timeout) : Action τ Unit) :=
  fun session => call (.write session.channel.encrypted bytes timeout) _ session

theorem close : Fixes region (onChannel Channel.close : Action τ Unit) := call _ _

theorem upgrade : Fixes region (onChannel Channel.upgrade : Action τ Unit) := by
  intro session
  cases ran : Transport.upgrade session.channel.link with
  | mk result link =>
    cases result with
    | ok nothing =>
      rw [upgrade_ok ran]
      rfl
    | error error =>
      rw [upgrade_failed ran]
      exact ⟨nofun, rfl⟩

theorem flush : Fixes region (flush : Action τ Unit) :=
  bind (onBuffer chunk) fun _ => bind (say _ _) fun _ => get fun _ => bind (write _ _) fun _ =>
    onBuffer clear

theorem fillWindow (timeout : Nat) : Fixes region (fillWindow timeout : Action τ Unit) :=
  bind (onBuffer expose) fun _ => bind (hear _ _) fun _ => onBuffer (store _ _)

end Fixes

variable [Transport τ] {session : Session τ}

theorem fillAfresh_region {limit : Nat} (room : limit ≤ session.buffer.capacity) (timeout : Nat) :
    Proper (fun after => region after = region session) (fillAfresh limit timeout session) := by
  let opened : Session τ := { session with buffer := session.buffer.cleared.limited limit }
  have same : region opened = region session := by
    have roomy : limit ≤ session.buffer.cleared.capacity := room
    simp only [region, extent, opened, Buffer.limited, grow_of_le roomy]
    rfl
  rw [← same]
  exact Fixes.fillWindow timeout opened

/-- A header is read where there is room for it, and nothing is made of it yet. -/
theorem receiveHeader_region (room : headerSize ≤ session.buffer.capacity) (timeout : Nat) :
    Proper (fun after => region after = region session) (receiveHeader timeout session) := by
  refine (fillAfresh_region room timeout).bind (fun _ between _ same => ?_) fun _ => id
  rw [← same]
  refine (Fixes.bind (Fixes.onBuffer (Fixes.peekInt32 1)) fun length => Fixes.get fun settings => ?_)
    between
  refine Fixes.ite (Fixes.throw nofun) (Fixes.ite (Fixes.throw nofun) (Fixes.pure _))

/-- What is announced is what is let through. -/
private theorem receiveHeader_upcoming (session : Session τ) (timeout : Nat) :
    match Unbuffered.receiveHeader timeout session with
    | .ok header _ => upcoming session.config session.channel.link timeout = some (5 + header.2)
    | .error _ _ => upcoming session.config session.channel.link timeout = none := by
  cases first : Transport.read session.channel.link headerSize timeout with
  | mk result link =>
    cases result with
    | error error =>
      rw [Unbuffered.receiveHeader, bind_error (read_failed first), upcoming, heardBy_failed first]
      rfl
    | ok header =>
      cases header with
      | nil => exact absurd (Transport.read_length first) (by decide)
      | cons tag field =>
        rw [receiveHeader_heard first, upcoming, heardBy_ok first]
        by_cases short : lengthIn (tag :: field) < 4
        · rw [if_pos short]
          exact announced_short short
        obtain ⟨size, length⟩ : ∃ size : Nat, lengthIn (tag :: field) = (4 + size : Nat) :=
          ⟨(lengthIn (tag :: field)).toNat - 4, by omega⟩
        rw [if_neg short, length, Int.toNat_natCast]
        by_cases large : session.config.maxMessageSize < 1 + (4 + size)
        · rw [if_pos large]
          exact announced_large length large
        · rw [if_neg large]
          refine (announced_allowed length (Nat.le_of_not_lt large)).trans (congrArg some ?_)
          change 1 + (4 + size) = 5 + (4 + size - 4)
          omega

/-- With the cursor behind a header, room is made for the whole message. -/
private theorem extent_opened {buffer : Buffer} (sound : Sound buffer)
    (steps : buffer.step ∣ buffer.capacity) (position : buffer.position = headerSize) (size : Nat) :
    extent ((buffer.grow (buffer.position + (4 + size - 4))).limited (1 + (4 + size))) =
      (buffer.step, growth buffer.step buffer.capacity [5 + size]) := by
  have whole : buffer.position + (4 + size - 4) = 5 + size := by
    rw [position, headerSize]
    omega
  have enough : 1 + (4 + size) ≤ (buffer.grow (5 + size)).capacity := by
    have := grow_enough buffer sound (5 + size)
    omega
  rw [whole, extent, Buffer.limited, grow_of_le enough]
  simp only [Buffer.grow_step, grow_capacity sound steps]
  rfl

/-- Receiving makes room for the message that comes next, if it is let through, and only for it. -/
theorem receive_region (sound : Sound session.buffer)
    (steps : session.buffer.step ∣ session.buffer.capacity)
    (room : headerSize ≤ session.buffer.capacity) (timeout : Nat) :
    Proper (fun after => region after = (session.buffer.step,
        growth session.buffer.step session.buffer.capacity
          (upcoming session.config session.channel.link timeout).toList))
      (receive timeout session) := by
  have refines := receiveHeader_refines timeout session session.buffer sound
  have known := receiveHeader_upcoming session timeout
  have kept := receiveHeader_region room timeout
  cases found : Unbuffered.receiveHeader timeout session with
  | error halt session' =>
    rw [found] at refines known
    obtain ⟨buffer, -, ran⟩ := refines
    have stopped : receiveHeader timeout session = .error halt { session' with buffer } := ran
    rw [stopped] at kept
    rw [known, receive, bind_error stopped]
    exact kept
  | ok header session' =>
    rw [found] at refines known
    obtain ⟨length, buffer, ⟨field, ⟨five, -, rfl⟩, filled⟩, ran⟩ := refines
    obtain ⟨tag, size⟩ := header
    have header : receiveHeader timeout session = .ok (4 + size) { session' with buffer } := ran
    rw [header] at kept
    have seen : (Session.onBuffer Buffer.tag : Action τ UInt8) { session' with buffer } =
        .ok tag { session' with buffer } := by
      simp only [Session.onBuffer, filled.tag]
    let told := remarked { session' with buffer } .trace (headerText tag (4 + size))
    let opened : Session τ := { told with
      buffer := (buffer.grow (buffer.position + (4 + size - 4))).limited (1 + (4 + size)) }
    have rest : Fixes region (do
        Session.fillWindow timeout
        Session.onBuffer Buffer.flip
        Session.onBuffer Buffer.tag : Action τ UInt8) :=
      Fixes.bind (Fixes.fillWindow _) fun _ => Fixes.bind (Fixes.onBuffer Fixes.flip) fun _ =>
        Fixes.onBuffer Fixes.tag
    have grown : region opened = (session.buffer.step,
        growth session.buffer.step session.buffer.capacity [5 + size]) := by
      obtain ⟨step, capacity⟩ : buffer.step = session.buffer.step ∧
          buffer.capacity = session.buffer.capacity := Prod.ext_iff.mp kept
      rw [← step, ← capacity] at steps ⊢
      exact extent_opened filled.sound steps (filled.position.trans five) size
    rw [known, receive, bind_ok header, bind_ok seen, bind_ok (say_eq _ _ _), Option.toList, ← grown]
    exact rest opened

/-- Sending makes room for the message, whatever becomes of it then. -/
theorem send_region (sound : Sound session.buffer)
    (steps : session.buffer.step ∣ session.buffer.capacity) {message : FrontendMessage}
    (sendable : Sendable message) :
    Proper (fun after => region after = (session.buffer.step,
        growth session.buffer.step session.buffer.capacity [(encoded message).length]))
      (send message session) := by
  obtain ⟨buffer, wrote, -, step, capacity⟩ := write_capacity sound sendable
  have written : (Session.onBuffer message.write : Action τ Unit) session =
      .ok () { session with buffer } := by
    simp only [Session.onBuffer, wrote]
  have grown : region { session with buffer } = (session.buffer.step,
      growth session.buffer.step session.buffer.capacity [(encoded message).length]) := by
    rw [region, extent, step, capacity, grow_capacity sound steps]
    rfl
  rw [send, bind_ok written, ← grown]
  exact Fixes.flush _

end PgSession.Proofs
