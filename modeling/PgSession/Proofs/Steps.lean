import PgSession.Proofs.Actions
import PgSession.Proofs.SessionRefinement

/-!
What the elementary actions of a session come to. A call of the transport is entered in the journal
with its outcome, a log record changes nothing but the journal, and receiving a message has five
outcomes, each of which says what was read.
-/

namespace PgSession.Proofs
open Wire Session

variable {τ α : Type}

@[simp] theorem get_set (buses : Buses) (topic other : Topic) (bus : Bus Event Effect) :
    (buses.set topic bus).get other = if other = topic then bus else buses.get other := by
  cases topic <;> cases other <;> rfl

/-- The session after a call that left the transport in this state. -/
def made (session : Session τ) (call : Call) (link : τ) : Session τ :=
  { session with channel := { session.channel with link }.note [.call call] }

/-- The session after saying something in the log. -/
def remarked [Transport τ] (session : Session τ) (level : Log.Level) (text : String) : Session τ :=
  { session with channel := session.channel.note [.logged ⟨level, s!"{session.identity} {text}"⟩] }

theorem attempt_done {action : Action τ α} {session session' : Session τ} {value : α}
    (ran : action session = .ok value session') :
    attempt action session = .ok (.ok value) session' := by
  simp only [attempt, ran]

theorem attempt_failed {action : Action τ α} {session session' : Session τ} {error : Error}
    (ran : action session = .error (.failed error) session') :
    attempt action session = .ok (.error error) session' := by
  simp only [attempt, ran]

theorem attempt_crashed {action : Action τ α} {session session' : Session τ} {crash : Crash}
    (ran : action session = .error (.crashed crash) session') :
    attempt action session = .error (.crashed crash) session' := by
  simp only [attempt, ran]

section

variable {session : Session τ} {link : τ} {call : Bool → Call} {run : τ → Except IoError α × τ}

theorem perform_ok {value : α} (ran : run session.channel.link = (.ok value, link)) :
    onChannel (Channel.perform call run) session = .ok value (made session (call true) link) := by
  simp only [onChannel, Channel.perform, ran]
  rfl

theorem perform_failed {error : IoError} (ran : run session.channel.link = (.error error, link)) :
    onChannel (Channel.perform call run) session =
      .error (.failed (.ofIo error)) (made session (call false) link) := by
  simp only [onChannel, Channel.perform, ran]
  rfl

end

section

variable [Transport τ] {session : Session τ} {link : τ}

theorem say_eq (session : Session τ) (level : Log.Level) (text : String) :
    say level text session = .ok () (remarked session level text) := rfl

theorem read_ok {count timeout : Nat} {bytes : List UInt8}
    (ran : Transport.read session.channel.link count timeout = (.ok bytes, link)) :
    onChannel (Channel.read count timeout) session =
      .ok bytes (made session (.read count timeout true) link) := perform_ok ran

theorem read_failed {count timeout : Nat} {error : IoError}
    (ran : Transport.read session.channel.link count timeout = (.error error, link)) :
    onChannel (Channel.read count timeout) session =
      .error (.failed (.ofIo error)) (made session (.read count timeout false) link) :=
  perform_failed ran

theorem write_ok {bytes : List UInt8} {timeout : Nat}
    (ran : Transport.write session.channel.link bytes timeout = (.ok (), link)) :
    onChannel (Channel.write bytes timeout) session =
      .ok () (made session (.write session.channel.encrypted bytes timeout true) link) :=
  perform_ok ran

private theorem close_ok (ran : Transport.close session.channel.link = (.ok (), link)) :
    onChannel Channel.close session = .ok () (made session (.close true) link) := perform_ok ran

private theorem close_failed {error : IoError}
    (ran : Transport.close session.channel.link = (.error error, link)) :
    onChannel Channel.close session =
      .error (.failed (.ofIo error)) (made session (.close false) link) := perform_failed ran

/-- The session after an upgrade that succeeded. -/
def upgraded (session : Session τ) (link : τ) : Session τ :=
  { session with channel := { (made session (.upgrade true) link).channel with encrypted := true } }

theorem upgrade_ok (ran : Transport.upgrade session.channel.link = (.ok (), link)) :
    onChannel Channel.upgrade session = .ok () (upgraded session link) := by
  have called : Channel.perform .upgrade Transport.upgrade session.channel =
      .ok () (made session (.upgrade true) link).channel := by
    simp only [Channel.perform, ran]
    rfl
  simp only [onChannel, Channel.upgrade, bind_ok called]
  rfl

theorem upgrade_failed {error : IoError}
    (ran : Transport.upgrade session.channel.link = (.error error, link)) :
    onChannel Channel.upgrade session =
      .error (.failed (.ofIo error)) (made session (.upgrade false) link) := by
  have called : Channel.perform .upgrade Transport.upgrade session.channel =
      .error (.failed (.ofIo error)) (made session (.upgrade false) link).channel := by
    simp only [Channel.perform, ran]
    rfl
  simp only [onChannel, Channel.upgrade, bind_error called]
  rfl

/-- A session that has not begun: nothing was sent, and at most the logger of notices listens. -/
theorem new_eq (config : Config) (link : τ) : ∃ buses : Buses,
    Session.new config link =
      ⟨config, .ofLink link, .new config.bufferStep, buses, .empty, none, none⟩ ∧
    ∀ topic, ∀ entry ∈ (buses.get topic).active, ∀ seen,
      (entry.2.respond seen).failure = none ∧
        (entry.2.respond seen).records.filterMap Effect.call? = [] := by
  unfold Session.new
  split
  · refine ⟨_, rfl, ?_⟩
    intro topic entry member seen
    cases topic with
    | notices =>
      obtain rfl := List.mem_singleton.mp member
      match seen with
      | [] | .notice _ :: _ | .notification _ :: _ | .parameterStatus _ :: _ => exact ⟨rfl, rfl⟩
    | notifications | parameterStatuses => cases member
  · refine ⟨_, rfl, ?_⟩
    intro topic entry member
    cases topic <;> cases member

/-- The session after a stage that failed: the failure is logged and the transport closed. -/
def shut (stage : Stage) (error : Error) (session : Session τ) : Session τ :=
  let told := remarked session .debug s!"Failed in {stage.name}: {error.message}"
  match Transport.close told.channel.link with
  | (.ok (), link) => made told (.close true) link
  | (.error closing, link) =>
    remarked (made told (.close false) link) .warn s!"Failed closing: {(Error.ofIo closing).message}"

variable {action : Action τ α} {session' : Session τ}

theorem guarded_done (stage : Stage) {value : α} (ran : action session = .ok value session') :
    guarded stage action session = .ok value session' := by
  simp only [guarded, bind_ok (attempt_done ran)]
  rfl

theorem guarded_crashed (stage : Stage) {crash : Crash}
    (ran : action session = .error (.crashed crash) session') :
    guarded stage action session = .error (.crashed crash) session' := by
  simp only [guarded, bind_error (attempt_crashed ran)]

theorem guarded_failed (stage : Stage) {error : Error}
    (ran : action session = .error (.failed error) session') :
    guarded stage action session =
      .error (.failed (error.within stage)) (shut stage error session') := by
  simp only [guarded, bind_ok (attempt_failed ran), bind_ok (say_eq _ _ _), shut]
  cases closed : Transport.close (remarked session' .debug
      s!"Failed in {stage.name}: {error.message}").channel.link with
  | mk result link =>
    cases result with
    | ok nothing =>
      rw [bind_ok (attempt_done (close_ok closed))]
      rfl
    | error closing =>
      rw [bind_ok (attempt_failed (close_failed closed))]
      rfl

end

/-- How receiving a message from a session ends. -/
inductive Reception [Transport τ] (session : Session τ) (timeout : Nat) :
    EStateM.Result (Halt Error) (Session τ) Frame → Prop
  | unheard {error : IoError} {link : τ}
      (failed : Transport.read session.channel.link headerSize timeout = (.error error, link)) :
      Reception session timeout (.error (.failed (.ofIo error))
        (made session (.read headerSize timeout false) link))
  | short {header : List UInt8} {link : τ}
      (heard : Transport.read session.channel.link headerSize timeout = (.ok header, link))
      (length : lengthIn header < 4) :
      Reception session timeout (.error
        (.failed (.ofViolation (.malformed "invalid message length")))
        (made session (.read headerSize timeout true) link))
  | large {header : List UInt8} {size : Nat} {link : τ}
      (heard : Transport.read session.channel.link headerSize timeout = (.ok header, link))
      (length : lengthIn header = (4 + size : Nat))
      (refused : session.config.maxMessageSize < 1 + (4 + size)) :
      Reception session timeout (.error (.failed (.ofViolation (.malformed "message too large")))
        (made session (.read headerSize timeout true) link))
  | cut {tag : UInt8} {field : List UInt8} {size : Nat} {error : IoError} {link link' : τ}
      (heard : Transport.read session.channel.link headerSize timeout = (.ok (tag :: field), link))
      (length : lengthIn (tag :: field) = (4 + size : Nat))
      (allowed : 1 + (4 + size) ≤ session.config.maxMessageSize)
      (failed : Transport.read link size timeout = (.error error, link')) :
      Reception session timeout (.error (.failed (.ofIo error))
        (made (remarked (made session (.read headerSize timeout true) link) .trace
          (headerText tag (4 + size))) (.read size timeout false) link'))
  | whole {field : List UInt8} {frame : Frame} {link link' : τ}
      (heard : Transport.read session.channel.link headerSize timeout =
        (.ok (frame.tag :: field), link))
      (bytes : frame.tag :: field ++ frame.body = frame.bytes)
      (within : frame.Within session.config)
      (rest : Transport.read link frame.body.length timeout = (.ok frame.body, link')) :
      Reception session timeout (.ok frame
        (made (remarked (made session (.read headerSize timeout true) link) .trace
          (headerText frame.tag (4 + frame.body.length))) (.read frame.body.length timeout true)
          link'))

variable [Transport τ]

theorem receiveHeader_heard {session : Session τ} {timeout : Nat} {tag : UInt8}
    {field : List UInt8} {link : τ}
    (heard : Transport.read session.channel.link headerSize timeout = (.ok (tag :: field), link)) :
    Unbuffered.receiveHeader timeout session =
      if lengthIn (tag :: field) < 4 then
        .error (.failed (.ofViolation (.malformed "invalid message length")))
          (made session (.read headerSize timeout true) link)
      else if session.config.maxMessageSize < 1 + (lengthIn (tag :: field)).toNat then
        .error (.failed (.ofViolation (.malformed "message too large")))
          (made session (.read headerSize timeout true) link)
      else .ok (tag, (lengthIn (tag :: field)).toNat - 4)
        (made session (.read headerSize timeout true) link) := by
  rw [Unbuffered.receiveHeader, bind_ok (read_ok heard)]
  change (if lengthIn (tag :: field) < 4 then _ else
    if session.config.maxMessageSize < 1 + (lengthIn (tag :: field)).toNat then _ else _ :
      Action τ (UInt8 × Nat)) _ = _
  split
  · rfl
  · split <;> rfl

theorem receive_reception (session : Session τ) (timeout : Nat) :
    Reception session timeout (Unbuffered.receive timeout session) := by
  unfold Unbuffered.receive
  cases first : Transport.read session.channel.link headerSize timeout with
  | mk result link =>
    cases result with
    | error error =>
      rw [Unbuffered.receiveHeader, bind_error (bind_error (read_failed first))]
      exact .unheard first
    | ok header =>
      match header, Transport.read_length first with
      | tag :: field, five =>
        have got := receiveHeader_heard first
        by_cases short : lengthIn (tag :: field) < 4
        · rw [if_pos short] at got
          rw [bind_error got]
          exact .short first short
        obtain ⟨size, length⟩ : ∃ size : Nat, lengthIn (tag :: field) = (4 + size : Nat) :=
          ⟨(lengthIn (tag :: field)).toNat - 4, by omega⟩
        rw [if_neg short, length, Int.toNat_natCast, Nat.add_sub_cancel_left] at got
        by_cases large : session.config.maxMessageSize < 1 + (4 + size)
        · rw [if_pos large] at got
          rw [bind_error got]
          exact .large first length large
        rw [if_neg large] at got
        rw [bind_ok got]
        dsimp only
        rw [bind_ok (say_eq _ _ _)]
        cases second : Transport.read link size timeout with
        | mk result link' =>
          cases result with
          | error error =>
            rw [bind_error (read_failed second)]
            exact .cut first length (Nat.le_of_not_lt large) second
          | ok body =>
            obtain rfl := Transport.read_length second
            obtain ⟨bytes, fits⟩ := announced_bytes five length
            rw [bind_ok (read_ok second)]
            exact .whole first bytes ⟨fits, Nat.le_of_not_lt large⟩ second

omit [Transport τ] in
/-- What stands before the body of a frame says how long it is. -/
theorem lengthIn_field {frame : Frame} {field : List UInt8} (fits : frame.Fits)
    (bytes : frame.tag :: field ++ frame.body = frame.bytes)
    (size : (frame.tag :: field).length = headerSize) :
    lengthIn (frame.tag :: field) = (4 + frame.body.length : Nat) := by
  have whole := lengthIn_bytes frame fits []
  rw [← bytes] at whole
  match field, size with
  | [_, _, _, _], _ => exact whole

/-- A whole frame that is no larger than allowed is received. -/
theorem receive_whole {session : Session τ} {timeout : Nat} {field : List UInt8} {frame : Frame}
    {link link' : τ}
    (heard : Transport.read session.channel.link headerSize timeout =
      (.ok (frame.tag :: field), link))
    (bytes : frame.tag :: field ++ frame.body = frame.bytes) (within : frame.Within session.config)
    (rest : Transport.read link frame.body.length timeout = (.ok frame.body, link')) :
    Unbuffered.receive timeout session = .ok frame
      (made (remarked (made session (.read headerSize timeout true) link) .trace
        (headerText frame.tag (4 + frame.body.length))) (.read frame.body.length timeout true)
        link') := by
  have length := lengthIn_field within.1 bytes (Transport.read_length heard)
  have got := receiveHeader_heard heard
  rw [if_neg (by omega), if_neg (by have := within.2; omega), length, Int.toNat_natCast,
    Nat.add_sub_cancel_left] at got
  rw [Unbuffered.receive, bind_ok got]
  dsimp only
  rw [bind_ok (say_eq _ _ _), bind_ok (read_ok rest)]
  rfl

end PgSession.Proofs
