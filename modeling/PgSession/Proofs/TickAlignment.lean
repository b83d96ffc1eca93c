import PgSession.Proofs.Receptions
import PgSession.Proofs.Runs
import PgSession.Proofs.Transparency

/-!
Ticks and message boundaries. A tick that finds a whole message ahead takes exactly that message from
the stream, whatever it makes of it: the body was read before anyone looked at it, so neither a body
that cannot be read nor a subscriber that refuses the event leaves the session in the middle of a
message. Ticks one after another therefore take messages one after another.
-/

namespace PgSession.Proofs
open Wire Session

variable {τ : Type}

/-- What a tick comes to that receives the frame. -/
def consequence (buses : Buses) (frame : Frame) : Except Error Unit :=
  match frame.general with
  | none => .error (.ofViolation (.unexpected none frame.tag (some tickPlace)))
  | some (.error error) => .error error
  | some (.ok event) =>
    match refusals buses event with
    | [] => .ok ()
    | reason :: _ => .error ⟨.subscriber reason, none⟩

/-- A tick succeeds on the messages that may come at any time, unless somebody refuses them. -/
theorem consequence_ok_iff {buses : Buses} {frame : Frame} :
    consequence buses frame = .ok () ↔ frame.Unsolicited ∧
      ∀ event, frame.general = some (.ok event) → refusals buses event = [] := by
  rw [Frame.unsolicited_iff, consequence]
  constructor
  · intro succeeds
    cases kind : frame.general with
    | none => simp only [kind, reduceCtorEq] at succeeds
    | some result =>
      cases result with
      | error error => simp only [kind, reduceCtorEq] at succeeds
      | ok event =>
        refine ⟨⟨event, rfl⟩, ?_⟩
        rintro _ ⟨⟩
        cases refused : refusals buses event with
        | nil => rfl
        | cons reason others => simp only [kind, refused, reduceCtorEq] at succeeds
  · rintro ⟨⟨event, general⟩, accepted⟩
    simp only [general, accepted event general]

variable [Transport τ]

/-- As long as enough bytes are served, a read in a live state delivers them. -/
structure Yields (served : τ → List UInt8) (live : τ → Prop) : Prop where
  reads : ∀ {link : τ} {bytes rest : List UInt8} (timeout : Nat), live link →
    served link = bytes ++ rest → ∃ link',
      Transport.read link bytes.length timeout = (.ok bytes, link') ∧ live link' ∧
        served link' = rest

theorem script_yields : Yields Script.served fun _ => True :=
  ⟨fun timeout _ next => ⟨_, script_reads next timeout, trivial, rfl⟩⟩

variable {served : τ → List UInt8} {live : τ → Prop} {frame : Frame} {rest : List UInt8}

theorem Yields.receive (yields : Yields served live) {session : Session τ}
    (alive : live session.channel.link) (stream : served session.channel.link = frame.bytes ++ rest)
    (within : frame.Within session.config) (timeout : Nat) : ∃ session',
      Unbuffered.receive timeout session = .ok frame session' ∧ session'.config = session.config ∧
        session'.buses = session.buses ∧ live session'.channel.link ∧
        served session'.channel.link = rest := by
  have next : served session.channel.link =
      frame.tag :: word (4 + frame.body.length) ++ (frame.body ++ rest) := by
    rw [stream, Frame.bytes, List.cons_append, List.cons_append, List.append_assoc]
  obtain ⟨link, heard, alive', left⟩ := yields.reads timeout alive next
  obtain ⟨link', body, alive'', left'⟩ := yields.reads timeout alive' left
  exact ⟨_, receive_whole heard rfl within body, rfl, rfl, alive'', left'⟩

/-- A tick takes the message that is ahead, and comes to what that message makes of it. -/
theorem Yields.tick (yields : Yields served live) {session : Session τ}
    (alive : live session.channel.link) (stream : served session.channel.link = frame.bytes ++ rest)
    (within : frame.Within session.config) (timeout : Nat) :
    let result := Unbuffered.tick timeout session
    outcome result = (consequence session.buses frame).mapError .failed ∧
      (final result).config = session.config ∧ live (final result).channel.link ∧
      served (final result).channel.link = rest := by
  intro result
  obtain ⟨session', received, config, buses, alive', left⟩ :=
    yields.receive alive stream within timeout
  unfold result Unbuffered.tick
  rw [bind_ok received, ← config, ← buses, consequence]
  cases kind : frame.general with
  | none =>
    rw [bind_ok (dispatch_solicited kind session')]
    exact ⟨rfl, rfl, alive', left⟩
  | some found =>
    cases found with
    | error error =>
      rw [bind_error (dispatch_error kind session')]
      exact ⟨rfl, rfl, alive', left⟩
    | ok event =>
      obtain ⟨after, same, link, -, dispatched⟩ := dispatch_refusals kind session'
      have kept : after.config = session'.config ∧ live after.channel.link ∧
          served after.channel.link = rest := ⟨same, link ▸ alive', link ▸ left⟩
      dsimp only
      cases refused : refusals session'.buses event with
      | nil =>
        rw [refused] at dispatched
        rw [bind_ok dispatched]
        exact ⟨rfl, kept⟩
      | cons reason others =>
        rw [refused] at dispatched
        rw [bind_error dispatched]
        exact ⟨rfl, kept⟩

/-- A connection on whose transport this is what is served next. -/
structure Awaits (served : τ → List UInt8) (live : τ → Prop) (config : Config)
    (stream : List UInt8) (client : Client τ) : Prop where
  phase : client.phase = .connection
  sound : Sound client.session.buffer
  config : client.session.config = config
  live : live client.session.channel.link
  served : served client.session.channel.link = stream

/-- So many ticks, and in between whatever needs no call. -/
inductive Ticks : Nat → List Operation → Prop
  | none : Ticks 0 []
  | tick {count : Nat} {operations : List Operation} (timeout : Nat)
    (others : Ticks count operations) : Ticks (count + 1) (.tick timeout :: operations)
  | quiet {count : Nat} {operation : Operation} {operations : List Operation}
    (still : quiet operation) (others : Ticks count operations) : Ticks count (operation :: operations)

namespace Awaits

variable {config : Config} {client : Client τ} {stream : List UInt8}

private theorem quiet (awaits : Awaits served live config stream client) {operation : Operation}
    (still : quiet operation) : Awaits served live config stream (client.perform operation).2 := by
  have allowed : client.phase.allows operation := by
    rw [awaits.phase]
    cases operation with
    | subscribe | unsubscribe | settings | parameter => rfl
    | _ => cases still
  rw [perform_allowed allowed]
  cases operation with
  | subscribe | unsubscribe | settings | parameter =>
    exact ⟨awaits.phase, awaits.sound, awaits.config, awaits.live, awaits.served⟩
  | _ => cases still

/-- The message that is ahead is taken, whatever comes of it. -/
theorem tick (yields : Yields served live)
    (awaits : Awaits served live config (frame.bytes ++ rest) client) (within : frame.Within config)
    (timeout : Nat) :
    (client.perform (.tick timeout)).1 = .finished (consequence client.session.buses frame) ∧
      Awaits served live config rest (client.perform (.tick timeout)).2 := by
  obtain ⟨phase, session⟩ := client
  obtain ⟨rfl, sound, rfl, alive, stream⟩ := awaits
  obtain ⟨buffer, still, advanced⟩ := (Means.tick timeout).refines.advance sound .connection .connection
  obtain ⟨ends, config, alive', left⟩ := yields.tick alive stream within timeout
  have performed : Client.perform ⟨.connection, session⟩ (.tick timeout) = _ := advanced
  rw [performed, ends]
  cases consequence session.buses frame with
  | ok nothing => exact ⟨rfl, rfl, still, config, alive', left⟩
  | error error => exact ⟨rfl, rfl, still, config, alive', left⟩

/-- As many messages are taken as there are ticks. -/
theorem ticks (yields : Yields served live) {waits : List Operation} {frames : List Frame}
    (ticks : Ticks frames.length waits)
    (awaits : Awaits served live config (frames.flatMap Frame.bytes ++ rest) client)
    (within : ∀ frame ∈ frames, frame.Within config) :
    Awaits served live config rest (performAll client waits) := by
  generalize size : frames.length = count at ticks
  induction ticks generalizing frames client with
  | none =>
    obtain rfl := List.eq_nil_of_length_eq_zero size
    exact awaits
  | tick timeout others ih =>
    obtain ⟨frame, later, rfl⟩ := List.exists_cons_of_length_eq_add_one size
    obtain ⟨first, after⟩ := List.forall_mem_cons.mp within
    rw [List.flatMap_cons, List.append_assoc] at awaits
    exact ih (awaits.tick yields first timeout).2 after (Nat.succ.inj size)
  | quiet still others ih => exact ih (awaits.quiet still) within size

end Awaits

/-- However a connection was reached, and whatever its earlier ticks came to, the next one takes the
next message and comes to what that message makes of it. -/
theorem ticks_aligned (yields : Yields served live) (config : Config) (link : τ)
    (operations : List Operation) {client : Client τ}
    (reached : performAll (Client.new config link) operations = client)
    (connected : client.phase = .connection) (alive : live client.session.channel.link)
    {earlier : List Frame} (stream : served client.session.channel.link =
      earlier.flatMap Frame.bytes ++ (frame.bytes ++ rest))
    (within : ∀ other ∈ earlier ++ [frame], other.Within config)
    {waits : List Operation} (ticks : Ticks earlier.length waits) {before after : Client τ}
    (waited : performAll client waits = before) {timeout : Nat} {answer : Answer}
    (ticked : before.perform (.tick timeout) = (answer, after)) :
    before.phase = .connection ∧ served before.session.channel.link = frame.bytes ++ rest ∧
    after.phase = .connection ∧ served after.session.channel.link = rest ∧
    ∃ result, answer = .finished result ∧ result = consequence before.session.buses frame ∧
      (result = .ok () ↔ frame.Unsolicited ∧
        ∀ event, frame.general = some (.ok event) → refusals before.session.buses event = []) := by
  obtain ⟨others, last⟩ := List.forall_mem_append.mp within
  obtain ⟨sturdy, settings⟩ := performAll_sturdy config link operations
  rw [reached] at sturdy settings
  have start : Awaits served live config (earlier.flatMap Frame.bytes ++ (frame.bytes ++ rest)) client :=
    ⟨connected, sturdy.sound, settings, alive, stream⟩
  have next := start.ticks yields ticks others
  rw [waited] at next
  obtain ⟨answered, past⟩ := next.tick yields (last frame (List.mem_singleton_self frame)) timeout
  rw [ticked] at answered past
  exact ⟨next.phase, next.served, past.phase, past.served, _, answered, rfl, consequence_ok_iff⟩

private def tickingConfig : Config := { user := "ada" }
private def cutNotice : Frame := ⟨Tag.notice, [83, 69]⟩
private def unknownFrame : Frame := ⟨33, [1, 2, 3]⟩
private def zoneReport : Frame :=
  ⟨Tag.parameterStatus, Text.utf8 "zone" ++ 0 :: (Text.utf8 "utc" ++ [0])⟩

private def ticking : Script where
  served := Frame.bytes ⟨Tag.authentication, int32 0⟩ ++ Frame.bytes ⟨Tag.readyForQuery, [73]⟩ ++
    ([cutNotice, unknownFrame].flatMap Frame.bytes ++ (zoneReport.bytes ++ [42]))

private def tickedOnce : Client Script := performAll (Client.new tickingConfig ticking) [.handshake]
private def tickedThrice : Client Script := performAll tickedOnce [.tick 5, .settings, .tick 5]
private def zoneTick : Answer × Client Script := tickedThrice.perform (.tick 5)

/-- A server that is ready at once, and then sends a notice cut short, a message of an unknown kind
and a parameter. -/
theorem ticks_aligned_past_errors : tickedOnce.phase = .connection ∧
    tickedOnce.session.channel.link.served =
      [cutNotice, unknownFrame].flatMap Frame.bytes ++ (zoneReport.bytes ++ [42]) ∧
    (∀ other ∈ [cutNotice, unknownFrame] ++ [zoneReport], other.Within tickingConfig) ∧
    zoneTick.2.session.channel.link.served = [42] ∧
    ∃ result, zoneTick.1 = .finished result ∧ succeeded result = true := by
  have connected : tickedOnce.phase = .connection := by decide +kernel
  have stream : tickedOnce.session.channel.link.served =
      [cutNotice, unknownFrame].flatMap Frame.bytes ++ (zoneReport.bytes ++ [42]) := by
    decide +kernel
  have within : ∀ other ∈ [cutNotice, unknownFrame] ++ [zoneReport], other.Within tickingConfig := by
    decide +kernel
  have ticks : Ticks [cutNotice, unknownFrame].length [.tick 5, .settings, .tick 5] :=
    .tick 5 (.quiet rfl (.tick 5 .none))
  have reached : performAll (Client.new tickingConfig ticking) [.handshake] = tickedOnce := rfl
  have waited : performAll tickedOnce [.tick 5, .settings, .tick 5] = tickedThrice := rfl
  have ticked : tickedThrice.perform (.tick 5) = (zoneTick.1, zoneTick.2) := (Prod.eta zoneTick).symm
  obtain ⟨-, -, -, left, result, answer, same, -⟩ := ticks_aligned script_yields tickingConfig ticking
    [.handshake] reached connected trivial stream within ticks waited ticked
  refine ⟨connected, stream, within, left, result, answer, ?_⟩
  rw [same]
  decide +kernel

end PgSession.Proofs
