import PgSession.Proofs.SessionGrowth

/-!
What receiving a message comes to, computed from the bytes that are served. A header is read first,
and what it announces decides whether more is read and whether the buffer grows; the buffer then holds
the message and nothing else.
-/

namespace PgSession.Proofs
open Wire Session

variable {τ : Type} [Transport τ]

/-- A transport that delivers the next bytes that are served to it, as many as it is asked for, or
else none, and then takes none. -/
structure AllOrNothing (served : τ → List UInt8) : Prop where
  enough : ∀ {link : τ} {count : Nat} (timeout : Nat), count ≤ (served link).length →
    ∃ link', Transport.read link count timeout = (.ok ((served link).take count), link') ∧
      served link' = (served link).drop count
  tooFew : ∀ {link : τ} {count : Nat} (timeout : Nat), (served link).length < count →
    ∃ error link', Transport.read link count timeout = (.error error, link') ∧
      served link' = served link

theorem script_allOrNothing : AllOrNothing Script.served where
  enough _ enough := ⟨_, if_pos enough, rfl⟩
  tooFew _ tooFew := ⟨_, _, if_neg (Nat.not_le_of_lt tooFew), rfl⟩

/-- What every buffer keeps: it can grow, and has room for a header. -/
structure Roomy (buffer : Buffer) : Prop where
  sound : Sound buffer
  header : headerSize ≤ buffer.capacity

theorem performAll_roomy (config : Config) (link : τ) (operations : List Operation) :
    Roomy (performAll (Client.new config link) operations).session.buffer := by
  have start : Measured config link [] (Client.new config link).session := new_measured config link
  obtain ⟨unsent, -, measured, -⟩ := start.performAll operations
  exact ⟨measured.sound, measured.room⟩

/-- How receiving a message ends, by the bytes that are served and the length among them. -/
structure Intake (served : τ → List UInt8) (timeout : Nat) (session : Session τ)
    (bytes : List UInt8) (result : EStateM.Result (Halt Error) (Session τ) UInt8) : Prop where
  starved : bytes.length < headerSize →
    (∃ error link, Transport.read session.channel.link headerSize timeout = (.error error, link) ∧
      outcome result = .error (.failed (.ofIo error))) ∧
    served (final result).channel.link = bytes
  short : headerSize ≤ bytes.length → lengthIn bytes < 4 →
    outcome result = .error (.failed (.ofViolation (.malformed "invalid message length"))) ∧
    served (final result).channel.link = bytes.drop headerSize ∧
    (final result).buffer.capacity = session.buffer.capacity
  large : ∀ length : Nat, headerSize ≤ bytes.length → lengthIn bytes = length → 4 ≤ length →
    session.config.maxMessageSize < 1 + length →
    outcome result = .error (.failed (.ofViolation (.malformed "message too large"))) ∧
    served (final result).channel.link = bytes.drop headerSize ∧
    (final result).buffer.capacity = session.buffer.capacity
  cut : ∀ length : Nat, headerSize ≤ bytes.length → lengthIn bytes = length → 4 ≤ length →
    1 + length ≤ session.config.maxMessageSize → (bytes.drop headerSize).length < length - 4 →
    (∃ error link link',
      Transport.read session.channel.link headerSize timeout = (.ok (bytes.take headerSize), link) ∧
      Transport.read link (length - 4) timeout = (.error error, link') ∧
      outcome result = .error (.failed (.ofIo error))) ∧
    served (final result).channel.link = bytes.drop headerSize
  whole : ∀ length : Nat, headerSize ≤ bytes.length → lengthIn bytes = length → 4 ≤ length →
    1 + length ≤ session.config.maxMessageSize → length - 4 ≤ (bytes.drop headerSize).length →
    outcome result = .ok (bytes.headD 0) ∧
    served (final result).channel.link = bytes.drop (1 + length) ∧
    (final result).buffer.position = 0 ∧ (final result).buffer.limit = 1 + length ∧
    Buffer.chunk (final result).buffer = .ok (bytes.take (1 + length)) (final result).buffer
  bare : bytes.length = headerSize → lengthIn bytes = (4 : Nat) →
    headerSize ≤ session.config.maxMessageSize →
    outcome result = .ok (bytes.headD 0) ∧ served (final result).channel.link = [] ∧
    Buffer.chunk (final result).buffer = .ok bytes (final result).buffer

omit [Transport τ] in
private theorem lengthIn_append {header : List UInt8} (size : header.length = headerSize)
    (rest : List UInt8) : lengthIn (header ++ rest) = lengthIn header := by
  match header, size with
  | [_, _, _, _, _], _ => rfl

variable {served : τ → List UInt8} {session : Session τ} {timeout : Nat}

/-- Where a header is served, it is read and nothing else. -/
theorem AllOrNothing.header (transport : AllOrNothing served) {link : τ} (timeout : Nat)
    (enough : headerSize ≤ (served link).length) : ∃ tag field link',
      Transport.read link headerSize timeout = (.ok (tag :: field), link') ∧
      (tag :: field).length = headerSize ∧ served link = tag :: field ++ served link' := by
  obtain ⟨link', heard, left⟩ := transport.enough timeout enough
  have size := Transport.read_length heard
  have bytes := List.take_append_drop headerSize (served link)
  rw [← left] at bytes
  match header : (served link).take headerSize, size with
  | tag :: field, size =>
    rw [header] at heard bytes
    exact ⟨tag, field, link', heard, size, bytes.symm⟩

/-- Nothing is made of a message whose header is refused, in the buffer neither. -/
theorem receive_refused (roomy : Roomy session.buffer) {halt : Halt Error} {session' : Session τ}
    (refused : Unbuffered.receiveHeader timeout session = .error halt session') :
    ∃ buffer, Session.receive timeout session = .error halt { session' with buffer } ∧
      buffer.capacity = session.buffer.capacity := by
  have refines := receiveHeader_refines timeout session session.buffer roomy.sound
  rw [refused] at refines
  obtain ⟨buffer, -, ran⟩ := refines
  have stopped : receiveHeader timeout session = .error halt { session' with buffer } := ran
  have kept := receiveHeader_region roomy.header timeout
  rw [stopped] at kept
  exact ⟨buffer, bind_error stopped, congrArg Prod.snd kept.2⟩

/-- Behind a header that is let through, as much is read as it announces. -/
theorem receive_announced {tag : UInt8} {field : List UInt8} {link : τ} {length : Nat}
    (heard : Transport.read session.channel.link headerSize timeout = (.ok (tag :: field), link))
    (found : lengthIn (tag :: field) = length) (least : 4 ≤ length)
    (allowed : 1 + length ≤ session.config.maxMessageSize) :
    Unbuffered.receive timeout session = (do
        let body ← onChannel (Channel.read (length - 4) timeout)
        return ⟨tag, body⟩ : Action τ Frame)
      (remarked (made session (.read headerSize timeout true) link) .trace
        (headerText tag (4 + (length - 4)))) := by
  have got := receiveHeader_heard heard
  rw [found, if_neg (by omega), Int.toNat_natCast, if_neg (by omega)] at got
  rw [Unbuffered.receive, bind_ok got]
  rfl

/-- The rest of the message does not disturb its header, whether or not the buffer grows for it. -/
theorem receive_served (transport : AllOrNothing served) (roomy : Roomy session.buffer)
    (timeout length : Nat) (enough : headerSize ≤ (served session.channel.link).length)
    (found : lengthIn (served session.channel.link) = length) (least : 4 ≤ length)
    (allowed : 1 + length ≤ session.config.maxMessageSize)
    (body : length - 4 ≤ ((served session.channel.link).drop headerSize).length) :
    ∃ session', Session.receive timeout session =
        .ok ((served session.channel.link).headD 0) session' ∧
      served session'.channel.link = (served session.channel.link).drop (1 + length) ∧
      Holds ((served session.channel.link).take (1 + length)) session'.buffer := by
  obtain ⟨tag, field, link, heard, size, bytes⟩ := transport.header timeout enough
  rw [bytes, List.drop_left' size] at body
  rw [bytes, lengthIn_append size] at found
  obtain ⟨link', rest, left⟩ := transport.enough timeout body
  have counted : ((served link).take (length - 4)).length = length - 4 := Transport.read_length rest
  have same : tag :: field ++ (served link).take (length - 4) =
      (Frame.mk tag ((served link).take (length - 4))).bytes :=
    (announced_bytes size (by omega)).1
  have direct := receive_announced heard found least allowed
  rw [bind_ok (read_ok rest)] at direct
  have refines := receive_refines timeout session session.buffer roomy.sound
  rw [direct] at refines
  obtain ⟨_, buffer, ⟨told, holds⟩, ran⟩ := refines
  rw [told] at ran
  have reach : 1 + length = (tag :: field).length + (length - 4) := by
    rw [size, headerSize]
    omega
  have taken : (served session.channel.link).take (1 + length) =
      (Frame.mk tag ((served link).take (length - 4))).bytes := by
    rw [bytes, reach, List.take_length_add_append, same]
  have ahead : (served session.channel.link).drop (1 + length) = served link' := by
    rw [bytes, reach, List.drop_length_add_append, left]
  rw [taken, ahead, bytes]
  exact ⟨_, ran, rfl, holds⟩

/-- Receiving does exactly what the bytes that are served ask for. -/
theorem reception_exact (transport : AllOrNothing served) (session : Session τ)
    (roomy : Roomy session.buffer) (timeout : Nat) :
    Intake served timeout session (served session.channel.link)
      (Session.receive timeout session) where
  starved few := by
    obtain ⟨error, link, failed, left⟩ := transport.tooFew timeout few
    obtain ⟨buffer, stopped, -⟩ :=
      receive_refused roomy (bind_error (read_failed failed) : Unbuffered.receiveHeader _ _ = _)
    rw [stopped]
    exact ⟨⟨error, link, failed, rfl⟩, left⟩
  short enough length := by
    obtain ⟨tag, field, link, heard, size, bytes⟩ := transport.header timeout enough
    rw [bytes, lengthIn_append size] at length
    have refused := receiveHeader_heard heard
    rw [if_pos length] at refused
    obtain ⟨buffer, stopped, capacity⟩ := receive_refused roomy refused
    rw [stopped, bytes, List.drop_left' size]
    exact ⟨rfl, rfl, capacity⟩
  large length enough found least large := by
    obtain ⟨tag, field, link, heard, size, bytes⟩ := transport.header timeout enough
    rw [bytes, lengthIn_append size] at found
    have refused := receiveHeader_heard heard
    rw [found, if_neg (by omega), Int.toNat_natCast, if_pos large] at refused
    obtain ⟨buffer, stopped, capacity⟩ := receive_refused roomy refused
    rw [stopped, bytes, List.drop_left' size]
    exact ⟨rfl, rfl, capacity⟩
  cut length enough found least allowed few := by
    obtain ⟨tag, field, link, heard, size, bytes⟩ := transport.header timeout enough
    rw [bytes, List.drop_left' size] at few
    rw [bytes, lengthIn_append size] at found
    obtain ⟨error, link', failed, left⟩ := transport.tooFew timeout few
    have direct := receive_announced heard found least allowed
    rw [bind_error (read_failed failed)] at direct
    have refines := receive_refines timeout session session.buffer roomy.sound
    rw [direct] at refines
    obtain ⟨buffer, -, ran⟩ := refines
    have stopped : Session.receive timeout session = _ := ran
    rw [stopped, bytes, List.drop_left' size, List.take_left' size]
    exact ⟨⟨error, link, link', heard, failed, rfl⟩, left⟩
  whole length enough found least allowed body := by
    obtain ⟨session', received, left, holds⟩ :=
      receive_served transport roomy timeout length enough found least allowed body
    have limit : session'.buffer.limit = 1 + length := by
      rw [headerSize] at enough
      rw [List.length_drop, headerSize] at body
      rw [holds.limit, List.length_take]
      omega
    rw [received]
    exact ⟨rfl, left, holds.position, limit, holds.chunk⟩
  bare only found allowed := by
    obtain ⟨session', received, left, holds⟩ :=
      receive_served transport roomy timeout 4 (by omega) found (Nat.le_refl 4) allowed (Nat.zero_le _)
    rw [List.drop_of_length_le (by rw [only, headerSize])] at left
    rw [List.take_of_length_le (by rw [only, headerSize])] at holds
    rw [received]
    exact ⟨rfl, left, holds.chunk⟩

private def crampedConfig : Config := { user := "ada", bufferStep := 1, maxMessageSize := 8 }

private def cramped (served : List UInt8) : Session Script :=
  (performAll (Client.new crampedConfig { served }) []).session

/-- A region of one header that has to grow for the body, and a message larger than is allowed. -/
theorem reception_exact_cramped :
    let fitting := cramped [65, 0, 0, 0, 7, 1, 2, 3, 4]
    let larger := cramped [65, 0, 0, 0, 8, 1, 2, 3, 4]
    fitting.buffer.capacity = headerSize ∧
    (final (Session.receive 20 fitting)).channel.link.served = [4] ∧
    Buffer.chunk (final (Session.receive 20 fitting)).buffer =
      .ok [65, 0, 0, 0, 7, 1, 2, 3] (final (Session.receive 20 fitting)).buffer ∧
    (final (Session.receive 20 larger)).channel.link.served = [1, 2, 3, 4] ∧
    (final (Session.receive 20 larger)).buffer.capacity = headerSize := by
  intro fitting larger
  have roomy (served : List UInt8) : Roomy (cramped served).buffer := performAll_roomy _ _ []
  obtain ⟨-, left, -, -, message⟩ := (reception_exact script_allOrNothing fitting (roomy _) 20).whole 7
    (by decide) (by decide) (by decide) (by decide) (by decide)
  obtain ⟨-, kept, capacity⟩ := (reception_exact script_allOrNothing larger (roomy _) 20).large 8
    (by decide) (by decide) (by decide) (by decide)
  exact ⟨by decide, left, message, kept, capacity⟩

end PgSession.Proofs
