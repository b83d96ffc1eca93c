import PgSession.Proofs.Cancellation
import PgSession.Proofs.Lifecycle

/-!
Ending a session, whatever happened to it before. Three things may have failed: an operation, the
writing of the good bye and the closing of the transport. The transport is closed in any case, and of
the failures the earliest is the one that is told.
-/

namespace PgSession.Proofs
open Wire Session

variable {τ α : Type} [Transport τ]

/-- How a session takes leave of the transport it has at the moment. -/
def farewell (session : Session τ) : Parting τ :=
  ⟨session.channel.link, goodBye, session.config.timeout⟩

def saying (session : Session τ) (level : Log.Level) (text : String) : Effect :=
  .logged ⟨level, s!"{session.identity} {text}"⟩

/-- What taking leave adds to the journal. -/
def farewellEffects (session : Session τ) : List Effect :=
  [saying session .debug "Terminating",
    saying session .trace s!"Write {Text.dump goodBye}",
    .call (.write session.channel.encrypted goodBye session.config.timeout
      (succeeded (farewell session).written.1)),
    .call (.close (succeeded (farewell session).closed.1))]

/-- The channel behind the closing. -/
def departed (session : Session τ) : Channel τ :=
  ⟨(farewell session).closed.2, session.channel.encrypted,
    session.channel.journal ++ farewellEffects session⟩

/-- What is told in the end. -/
def overall (result : Except Error α) (ended : Except Error Unit) : Except Error α :=
  match result, ended with
  | .error error, _ => .error error
  | .ok _, .error closing => .error closing
  | .ok value, .ok () => .ok value

/-- A failure of ending a session is logged if another error is told in its place. -/
def unreported (result : Except Error α) (session : Session τ) : List Effect :=
  match result, (farewell session).result with
  | .error _, .error closing =>
    [saying { session with channel := departed session } .warn
      s!"Failed terminating: {closing.message}"]
  | _, _ => []

theorem close_departs (session : Session τ) : Unbuffered.close session =
    ensure (farewell session).result { session with channel := departed session } := by
  let parting := farewell session
  let told := remarked (remarked session .debug "Terminating") .trace s!"Write {Text.dump goodBye}"
  have wrote : attempt (Channel.write goodBye session.config.timeout) told.channel =
      .ok (parting.written.1.mapError Error.ofIo) (Channel.made told.channel
        (.write session.channel.encrypted goodBye session.config.timeout
          (succeeded parting.written.1)) parting.written.2) := attempt_perform _ _ told.channel
  have closed (channel : Channel τ) : attempt Channel.close channel =
      .ok ((Transport.close channel.link).1.mapError Error.ofIo) (Channel.made channel
        (.close (succeeded (Transport.close channel.link).1)) (Transport.close channel.link).2) :=
    attempt_perform _ _ channel
  have sent : attempt (Unbuffered.send .terminate) (remarked session .debug "Terminating") =
      attempt (onChannel (Channel.write goodBye session.config.timeout)) told := by
    have sendable : Sendable .terminate := rfl
    unfold Unbuffered.send
    rw [if_pos sendable, encoded_terminate]
    rfl
  have both := attempt_both (sent.trans (attempt_onChannel wrote)) (attempt_onChannel (closed _))
  have journal : departed session = Channel.made (Channel.made told.channel
      (.write session.channel.encrypted goodBye session.config.timeout
        (succeeded parting.written.1)) parting.written.2)
      (.close (succeeded parting.closed.1)) parting.closed.2 := by
    simp only [departed, farewellEffects, Channel.made, Channel.note, told, remarked,
      List.append_assoc]
    rfl
  rw [journal]
  exact both

theorem terminated_departs (result : Except Error α) (session : Session τ) :
    Unbuffered.terminated result session = ensure (overall result (farewell session).result)
      { session with channel := (departed session).note (unreported result session) } := by
  have nothing : (departed session).note [] = departed session := by
    simp only [Channel.note, List.append_nil]
  unfold Unbuffered.terminated unreported
  cases ended : (farewell session).result with
  | error closing =>
    have failed := close_departs session
    rw [ended] at failed
    rw [bind_ok (attempt_failed failed)]
    cases result with
    | error error => rfl
    | ok value =>
      rw [nothing]
      rfl
  | ok _ =>
    have done := close_departs session
    rw [ended] at done
    rw [bind_ok (attempt_done done)]
    cases result <;> rw [nothing] <;> rfl

omit [Transport τ] in
private theorem outcome_ensure (result : Except Error α) (session : Session τ) :
    outcome (ensure result session) = result.mapError .failed ∧
      final (ensure result session) = session := by
  cases result <;> exact ⟨rfl, rfl⟩

omit [Transport τ] in
/-- Whatever is left in the buffer, an action that comes to a result without one comes to it with
one. -/
theorem Refines.ensured {action direct : Action τ α} (refines : Refines Sound action direct Same)
    {session session' : Session τ} (sound : Sound session.buffer) {result : Except Error α}
    (ran : direct session = ensure result session') :
    outcome (action session) = result.mapError .failed ∧
      (final (action session)).channel = session'.channel := by
  obtain ⟨buffer, -, same⟩ := refines.run sound
  obtain ⟨told, rest⟩ := outcome_ensure result session'
  rw [same, ran, outcome_withBuffer, final_withBuffer, told, rest]
  exact ⟨rfl, rfl⟩

/-- However a session came about and whatever fails: ending it writes the good bye to the transport it
has and then closes that transport. The failure to write comes before the failure to close, and the
error of the operation before comes first of all. Only with such an error is a failure of ending
logged. -/
theorem termination_keeps_first_error (config : Config) (link : τ) (operations : List Operation)
    (result : Except Error α) :
    let session := (performAll (Client.new config link) operations).session
    let ended := (farewell session).result
    (outcome (Session.close session) = ended.mapError .failed ∧
      (final (Session.close session)).channel = departed session) ∧
    (outcome (Session.terminated result session) = (overall result ended).mapError .failed ∧
      (final (Session.terminated result session)).channel =
        (departed session).note (unreported result session)) := by
  intro session ended
  have sound : Sound session.buffer := (performAll_sturdy config link operations).1.sound
  exact ⟨Means.close.refines.ensured sound (close_departs session),
    (Means.terminated result).refines.ensured sound (terminated_departs result session)⟩

/-- A server whose last message is cut off, over a transport that can then neither be written to nor
closed. -/
private def cutOff : Script where
  served := [⟨Tag.authentication, int32 0⟩, ⟨Tag.readyForQuery, [73]⟩].flatMap Frame.bytes ++
    [78, 0, 0, 0, 9, 83]
  failingWrites := [1]
  closeFails := true

private def afterTick : Session Script :=
  (performAll (Client.new { user := "ada" } cutOff) [.handshake, .tick 20]).session

example : let ran := Session.terminated (.error (.ofIo cutOff.atEnd.error) : Except Error Unit) afterTick
    (final ran).channel.calls = afterTick.channel.calls ++
        [.write false goodBye 30000 false, .close false] ∧
      outcome ran = .error (.failed (.ofIo cutOff.atEnd.error)) := by
  decide +kernel

end PgSession.Proofs
