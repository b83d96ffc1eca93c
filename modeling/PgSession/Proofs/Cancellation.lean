import PgSession.Proofs.FramedWriting
import PgSession.Proofs.SessionKnowledge

/-!
Cancelling, from the key that a handshake was told to the bytes that reach another transport. There
are two ways to send the request, one of which keeps a buffer of its own and no session; over any
transport they make the same two calls and come to the same.
-/

namespace PgSession.Proofs
open Wire Session

variable {τ α : Type}

/-- The first of two failures counts. -/
def firstFailure {ε : Type} : Except ε Unit → Except ε Unit → Except ε Unit
  | .error error, _ => .error error
  | .ok (), second => second

/-- Bytes are written to a transport, which is then closed. -/
structure Parting (τ : Type) where
  link : τ
  bytes : List UInt8
  timeout : Nat

namespace Parting

variable [Transport τ] (parting : Parting τ)

def written : Except IoError Unit × τ :=
  Transport.write parting.link parting.bytes parting.timeout

def closed : Except IoError Unit × τ := Transport.close parting.written.2

/-- The transport is closed even if nothing could be written. -/
def calls : List Call :=
  [.write false parting.bytes parting.timeout (succeeded parting.written.1),
    .close (succeeded parting.closed.1)]

/-- A failure to write comes before a failure to close. -/
def result : Except Error Unit :=
  firstFailure (parting.written.1.mapError Error.ofIo) (parting.closed.1.mapError Error.ofIo)

end Parting

/-- Two actions are tried, the second whatever became of the first. -/
theorem attempt_both {σ ε : Type} {first second : EStateM (Halt ε) σ Unit} {one two : Except ε Unit}
    {state between last : σ} (tried : attempt first state = .ok one between)
    (after : attempt second between = .ok two last) :
    (do let one ← attempt first; let two ← attempt second; ensure one; ensure two :
      EStateM (Halt ε) σ Unit) state = ensure (firstFailure one two) last := by
  rw [bind_ok tried, bind_ok after]
  cases one <;> rfl

/-- The channel after a call. -/
def Channel.made (channel : Channel τ) (call : Call) (link : τ) : Channel τ :=
  { channel with link }.note [.call call]

private theorem Channel.made_calls (channel : Channel τ) (call : Call) (link : τ) :
    (Channel.made channel call link).calls = channel.calls ++ [call] := List.filterMap_append ..

theorem attempt_perform (call : Bool → Call) (run : τ → Except IoError α × τ) (channel : Channel τ) :
    attempt (Channel.perform call run) channel =
      .ok ((run channel.link).1.mapError Error.ofIo)
        (Channel.made channel (call (succeeded (run channel.link).1)) (run channel.link).2) := by
  unfold attempt Channel.perform Channel.made
  generalize run channel.link = ran
  obtain ⟨_ | _, link⟩ := ran <;> rfl

/-- What is tried over the channel of a session touches nothing else of it. -/
theorem attempt_onChannel {action : Channel.Action τ α} {session : Session τ} {result : Except Error α}
    {channel : Channel τ} (tried : attempt action session.channel = .ok result channel) :
    attempt (onChannel action) session = .ok result { session with channel } := by
  unfold attempt at tried
  unfold attempt onChannel
  cases ran : action session.channel with
  | ok value last =>
    rw [ran] at tried
    cases tried
    rfl
  | error halt last =>
    rw [ran] at tried
    cases halt <;> cases tried
    rfl

variable [Transport τ]

/-- The two calls over a channel, whatever was entered in its journal before. -/
private theorem parting_tried (channel : Channel τ) (plain : channel.encrypted = false)
    (bytes : List UInt8) (timeout : Nat) : let parting : Parting τ := ⟨channel.link, bytes, timeout⟩
    ∃ between last,
      attempt (Channel.write bytes timeout) channel =
        .ok (parting.written.1.mapError Error.ofIo) between ∧
      attempt Channel.close between = .ok (parting.closed.1.mapError Error.ofIo) last ∧
      last.calls = channel.calls ++ parting.calls := by
  intro parting
  refine ⟨_, _, attempt_perform (.write channel.encrypted bytes timeout) _ channel,
    attempt_perform .close Transport.close _, ?_⟩
  rw [Channel.made_calls, Channel.made_calls, plain, List.append_assoc]
  rfl

/-- A buffer of its own takes a message whole, or crashes since a group is too long. Writing has no
third end, so `FrontendMessage.bytes` never gets to answer for a failure. -/
theorem written_alone (message : FrontendMessage) (step : Nat) : ∃ after,
    (do message.write; Buffer.chunk : Buffer.Action (List UInt8)) (.new step) =
      if Sendable message then .ok (encoded message) after
      else .error (.crashed .lengthOutOfRange) after := by
  by_cases sendable : Sendable message
  · obtain ⟨after, wrote, holds⟩ := write_sendable (Sound.new step) sendable
    exact ⟨after, by rw [if_pos sendable, bind_ok wrote, holds.chunk]⟩
  · obtain ⟨after, crashed, -⟩ := write_not_sendable (Sound.new step) sendable
    exact ⟨after, by rw [if_neg sendable, bind_error crashed]⟩

/-- So the bytes of a message are its encoding, and there is no other answer. -/
theorem bytes_eq (message : FrontendMessage) (step : Nat) :
    message.bytes step =
      if Sendable message then .ok (encoded message) else .error .lengthOutOfRange := by
  obtain ⟨after, written⟩ := written_alone message step
  unfold FrontendMessage.bytes
  rw [written]
  by_cases sendable : Sendable message
  · rw [if_pos sendable, if_pos sendable]
  · rw [if_neg sendable, if_neg sendable]

private theorem bytes_sendable {message : FrontendMessage} (sendable : Sendable message)
    (step : Nat) : message.bytes step = .ok (encoded message) := by rw [bytes_eq, if_pos sendable]

/-- The bytes of the request for a key. -/
def requestBytes (key : KeyData) : List UInt8 :=
  int32 16 ++ int32 80877102 ++ (int32 key.processId ++ int32 key.secretKey)

private theorem encoded_request (key : KeyData) :
    encoded key.cancelRequest = requestBytes key := rfl

private theorem request_sendable (key : KeyData) : Sendable key.cancelRequest := rfl

/-- Both ways of cancelling with a key write these bytes and then close the transport, whether or
not they could be written, and come to the same. This holds of every transport, however it behaves,
and of all settings. -/
structure Cancels (key : KeyData) (bytes : List UInt8) : Prop where
  alone : ∀ {τ : Type} [Transport τ] (settings : Config) (link : τ),
    let parting : Parting τ := ⟨link, bytes, settings.timeout⟩
    ∃ channel, cancel key settings.timeout (.ofLink link) = ensure parting.result channel ∧
      channel.calls = parting.calls
  inSession : ∀ {τ : Type} [Transport τ] (settings : Config) (link : τ),
    let parting : Parting τ := ⟨link, bytes, settings.timeout⟩
    ∃ session : Session τ, (Client.new settings link).perform (.cancelOther key) =
        (.finished parting.result, ⟨.done, session⟩) ∧ session.channel.calls = parting.calls

theorem cancel_parts (key : KeyData) (timeout : Nat) (link : τ) :
    let parting : Parting τ := ⟨link, requestBytes key, timeout⟩
    ∃ channel, cancel key timeout (.ofLink link) = ensure parting.result channel ∧
      channel.calls = parting.calls := by
  obtain ⟨between, last, wrote, closed, calls⟩ := parting_tried ((Channel.ofLink link).note
    [.logged ⟨.debug, s!"Cancelling backend {key.processId.toInt}"⟩]) rfl (requestBytes key) timeout
  refine ⟨last, ?_, calls⟩
  unfold cancel
  rw [bytes_sendable (request_sendable key), encoded_request]
  exact attempt_both wrote closed

/-- What is said first changes neither the transport nor the settings. -/
theorem sendAndClose_parts {message : FrontendMessage} (sendable : Sendable message)
    (session : Session τ) (plain : session.channel.encrypted = false) :
    let parting : Parting τ := ⟨session.channel.link, encoded message, session.config.timeout⟩
    ∃ session', Unbuffered.sendAndClose message session = ensure parting.result session' ∧
      session'.channel.calls = session.channel.calls ++ parting.calls := by
  let told := remarked session .trace s!"Write {Text.dump (encoded message)}"
  obtain ⟨between, last, wrote, closed, calls⟩ :=
    parting_tried told.channel plain (encoded message) session.config.timeout
  have sent : attempt (Unbuffered.send message) session = attempt
      (onChannel (Channel.write (encoded message) session.config.timeout)) told := by
    unfold Unbuffered.send
    rw [if_pos sendable]
    rfl
  refine ⟨{ told with channel := last }, ?_, calls.trans (congrArg (· ++ _) ?_)⟩
  · exact attempt_both (sent.trans (attempt_onChannel wrote)) (attempt_onChannel closed)
  · exact (List.filterMap_append ..).trans (List.append_nil _)

omit [Transport τ] in
/-- A result that ends the session is also what the operation answers. -/
private theorem answered_ensure (result : Except Error Unit) (session : Session τ) :
    answered (outcome (ensure result session)) = .finished result ∧
      final (ensure result session) = session := by
  cases result <;> exact ⟨rfl, rfl⟩

theorem cancelOther_parts (key : KeyData) (settings : Config) (link : τ) :
    let parting : Parting τ := ⟨link, requestBytes key, settings.timeout⟩
    ∃ session : Session τ, (Client.new settings link).perform (.cancelOther key) =
        (.finished parting.result, ⟨.done, session⟩) ∧ session.channel.calls = parting.calls := by
  intro parting
  obtain ⟨buses, fresh, -⟩ := new_eq settings link
  let told := remarked (Session.new settings link) .debug
    s!"Cancelling backend {key.processId.toInt}"
  have channel : told.channel.link = link ∧ told.channel.encrypted = false ∧
      told.channel.calls = [] ∧ told.config = settings := by
    simp only [told, fresh]
    exact ⟨rfl, rfl, rfl, rfl⟩
  obtain ⟨last, ran, calls⟩ := sendAndClose_parts (request_sendable key) told channel.2.1
  rw [channel.1, channel.2.2.2, encoded_request] at ran calls
  have direct : Unbuffered.cancelOther key (Session.new settings link) =
      ensure parting.result last := ran
  obtain ⟨buffer, -, advanced⟩ :=
    (Means.cancelOther key).refines.advance (new_sturdy settings link).sound .done .done
  obtain ⟨answer, rest⟩ := answered_ensure parting.result last
  refine ⟨{ last with buffer }, advanced.trans ?_, calls.trans ?_⟩
  · rw [leads_done, direct, answer, rest]
  · rw [channel.2.2.1, List.nil_append]

private theorem request_cancels (key : KeyData) : Cancels key (requestBytes key) where
  alone settings link := cancel_parts key settings.timeout link
  inSession settings link := cancelOther_parts key settings link

namespace Frame

/-- The last message that brings a key. -/
def lastKey? (frames : List Frame) : Option Frame :=
  (frames.filter (·.tag = Tag.keyData)).getLast?

/-- A message that brings a key begins with the numbers of the key. -/
private theorem key_body {frame : Frame} {key : KeyData} (found : frame.key? = some key) :
    8 ≤ frame.body.length ∧ frame.body.take 8 = int32 key.processId ++ int32 key.secretKey := by
  obtain ⟨-, rest, read⟩ := reads?_eq_some_iff.mp found
  rw [keyData_ok_iff.mp read]
  refine ⟨?_, rfl⟩
  simp only [List.length_append, int32_length]
  omega

/-- The key that was told last stands in the last message that brings one. -/
private theorem key_of_last {frames : List Frame} {frame : Frame}
    (last : lastKey? frames = some frame)
    (readable : ∀ frame ∈ frames, frame.tag = Tag.keyData → frame.key?.isSome) :
    ∃ key, frame.key? = some key ∧ (frames.filterMap key?).getLast? = some key := by
  obtain ⟨front, split⟩ := List.getLast?_eq_some_iff.mp last
  have member : frame ∈ frames.filter (·.tag = Tag.keyData) := List.mem_of_getLast? last
  obtain ⟨inside, tag⟩ := List.mem_filter.mp member
  obtain ⟨key, found⟩ := Option.isSome_iff_exists.mp (readable frame inside (of_decide_eq_true tag))
  refine ⟨key, found, ?_⟩
  -- Only a message with this tag brings a key, so the others can be left out.
  have same : frames.filterMap key? = (frames.filter (·.tag = Tag.keyData)).filterMap key? := by
    rw [List.filterMap_filter]
    refine List.filterMap_congr fun frame _ => ?_
    split
    · rfl
    · next other => exact reads?_other (by simpa using other) _
  rw [same, split, List.filterMap_append, List.filterMap_cons, found, List.filterMap_nil,
    List.getLast?_concat]

end Frame

/-- The operation by which a connection comes about, after these operations. -/
structure Connects (config : Config) (link : τ) (operations : List Operation) (last : Operation) :
    Prop where
  before : (performAll (Client.new config link) operations).phase ≠ .connection
  after : (performAll (Client.new config link) (operations ++ [last])).phase = .connection

private theorem Connects.concludes {config : Config} {link : τ} {operations : List Operation}
    {last : Operation} (connects : Connects config link operations last) :
    let client := performAll (Client.new config link) (operations ++ [last])
    Sturdy client.session ∧
      Concludes .empty (messages config link (operations ++ [last])) (reported client.session) := by
  obtain ⟨heard, informed⟩ := (new_informed config link).after operations
  obtain ⟨more, steps⟩ := perform_steps informed.sturdy last
  have after := connects.after
  have reached : performAll (Client.new config link) (operations ++ [last]) =
      ((performAll (Client.new config link) operations).perform last).2 := by
    simp only [performAll, List.foldl_append, List.foldl_cons, List.foldl_nil]
  rw [reached] at after
  have alive : (performAll (Client.new config link) operations).phase ≠ .done := by
    intro done
    rw [steps.learned.stays done] at after
    cases after
  obtain ⟨quiet, none⟩ := informed.underway connects.before alive
  have received : messages config link (operations ++ [last]) = heard ++ more := by
    rw [messages, reached]
    exact (informed.steps steps).hears.received_eq
  rw [received, reached]
  exact ⟨steps.sturdy, (steps.learned.concludes connects.before after).behind quiet none⟩

/-- The key of a connection, however long it lasts, is the one its handshake was told last. -/
theorem Connects.key {config : Config} {link : τ} {operations : List Operation} {last : Operation}
    (connects : Connects config link operations last) {frame : Frame}
    (told : Frame.lastKey? (messages config link (operations ++ [last])) = some frame) :
    ∃ key, frame.key? = some key ∧ ∀ more,
      (performAll (Client.new config link) (operations ++ last :: more)).session.key = some key := by
  obtain ⟨sturdy, earlier, ready, same, going, ends, -, found⟩ := connects.concludes
  rw [same] at told
  have readable : ∀ frame ∈ earlier ++ [ready], frame.tag = Tag.keyData → frame.key?.isSome := by
    intro frame member
    rcases List.mem_append.mp member with front | back
    · exact (going_apart (going frame front)).2
    · intro tag
      have other := ends.1
      rw [← List.mem_singleton.mp back, tag] at other
      exact absurd other (by decide)
  obtain ⟨key, brings, latest⟩ := Frame.key_of_last told readable
  refine ⟨key, brings, fun more => ?_⟩
  have whole : performAll (Client.new config link) (operations ++ last :: more) =
      performAll (performAll (Client.new config link) (operations ++ [last])) more := by
    simp only [performAll, List.foldl_append, List.foldl_cons, List.foldl_nil]
  rw [List.filterMap_append, List.filterMap_cons, ends.key, List.filterMap_nil,
    List.append_nil] at latest
  rw [latest] at found
  rw [whole]
  exact (performAll_keeps sturdy connects.after more).2.trans found

/-- Cancelling, by either of two ways, makes the same calls and comes to the same; and what is sent
with the key of a connection are sixteen bytes, of which the last eight are the first eight of the
last message of the handshake that brought a key. -/
theorem cancellation_names_last_key (config : Config) (link : τ) (operations : List Operation)
    (last : Operation) :
    (∀ key, Cancels key (requestBytes key)) ∧
    (Connects config link operations last →
      ∀ frame, Frame.lastKey? (messages config link (operations ++ [last])) = some frame →
      ∃ key, (∀ more, (performAll (Client.new config link)
          (operations ++ last :: more)).session.key = some key) ∧
        8 ≤ frame.body.length ∧
        Cancels key (int32 16 ++ int32 80877102 ++ frame.body.take 8)) := by
  refine ⟨request_cancels, fun connects frame told => ?_⟩
  obtain ⟨key, brings, lasting⟩ := connects.key told
  obtain ⟨enough, body⟩ := Frame.key_body brings
  refine ⟨key, lasting, enough, ?_⟩
  rw [body]
  exact request_cancels key

private def rekeyedConfig : Config := { user := "ada" }

private def rekeying : Script where
  served := [⟨Tag.authentication, int32 0⟩, ⟨Tag.keyData, int32 7 ++ int32 42⟩,
    ⟨Tag.keyData, [255, 1, 2, 3, 128, 5, 6, 7, 8]⟩, ⟨Tag.readyForQuery, [73]⟩].flatMap Frame.bytes

private def broken : Script where
  failingWrites := [0]
  closeFails := true

private def rekeyedRequest : List UInt8 :=
  [0, 0, 0, 16, 4, 210, 22, 46, 255, 1, 2, 3, 128, 5, 6, 7]

/-- A server that sends a second key, longer than need be, and a transport for the request that can
neither be written to nor closed. -/
theorem cancellation_names_last_key_rekeyed : Connects rekeyedConfig rekeying [] .handshake ∧
    ∃ key channel,
      (performAll (Client.new rekeyedConfig rekeying) [.handshake]).session.key = some key ∧
      cancel key 20 (.ofLink broken) =
        ensure (.error (.ofIo ⟨.brokenPipe, "mock broken pipe"⟩)) channel ∧
      channel.calls = [.write false rekeyedRequest 20 false, .close false] := by
  have connects : Connects rekeyedConfig rekeying [] .handshake :=
    ⟨by decide +kernel, by decide +kernel⟩
  have told : Frame.lastKey? (messages rekeyedConfig rekeying ([] ++ [.handshake])) =
      some ⟨Tag.keyData, [255, 1, 2, 3, 128, 5, 6, 7, 8]⟩ := by decide +kernel
  have bytes : int32 16 ++ int32 80877102 ++ [255, 1, 2, 3, 128, 5, 6, 7, 8].take 8 =
      rekeyedRequest := by decide +kernel
  obtain ⟨key, lasting, -, cancels⟩ :=
    (cancellation_names_last_key rekeyedConfig rekeying [] .handshake).2 connects _ told
  have kept := lasting []
  rw [List.nil_append] at kept
  rw [bytes] at cancels
  obtain ⟨channel, ran, calls⟩ := cancels.alone { rekeyedConfig with timeout := 20 } broken
  have result : Parting.result (⟨broken, rekeyedRequest, 20⟩ : Parting Script) =
      .error (.ofIo ⟨.brokenPipe, "mock broken pipe"⟩) := rfl
  have made : Parting.calls (⟨broken, rekeyedRequest, 20⟩ : Parting Script) =
      [.write false rekeyedRequest 20 false, .close false] := rfl
  exact ⟨connects, key, channel, kept, ran.trans (congrArg (ensure · channel) result),
    calls.trans made⟩

end PgSession.Proofs
