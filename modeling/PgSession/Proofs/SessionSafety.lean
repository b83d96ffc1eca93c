import PgSession.Proofs.BufferSafety
import PgSession.Proofs.HandshakeLanguage
import PgSession.Proofs.RoutineInvariants
import PgSession.Proofs.Runs

/-!
No server can make a session crash. Whatever the bytes that arrive, the calls that fail and the
subscribers that refuse, every action of a session finds the buffer fit for use and leaves it so,
and a message is only decoded once its whole header is in the buffer.
-/

namespace PgSession.Proofs
open Wire Session

variable {τ α : Type}

/-- The settings are those of the beginning, and the buffer is fit for use. -/
structure Fit (settings : Config) (least : Nat) (session : Session τ) : Prop where
  config : session.config = settings
  live : Live (max settings.bufferStep headerSize) least session.buffer

/-- At least a header is in the buffer. -/
structure Holding (settings : Config) (least : Nat) (session : Session τ) : Prop extends
    Fit settings least session where
  header : headerSize ≤ session.buffer.limit

/-- What is known of settings and buffer does not depend on the rest of a session. -/
structure Alongside (session other : Session τ) : Prop where
  config : other.config = session.config
  buffer : other.buffer = session.buffer

section

variable {config : Config} {least : Nat} {session other : Session τ}

private theorem Fit.alongside (fit : Fit config least session) (same : Alongside session other) :
    Fit config least other :=
  ⟨same.config.trans fit.config, by rw [same.buffer]; exact fit.live⟩

private theorem Holding.alongside (holding : Holding config least session)
    (same : Alongside session other) : Holding config least other :=
  ⟨holding.toFit.alongside same, by rw [same.buffer]; exact holding.header⟩

end

section

variable {session : Session τ} {stopped : Session τ → Prop} {after : α → Session τ → Prop}

theorem Meets.onBuffer {action : Buffer.Action α}
    (meets : Meets action session.buffer (fun buffer => stopped { session with buffer })
      fun value buffer => after value { session with buffer }) :
    Meets (onBuffer action) session stopped after := by
  unfold Meets at meets
  match ran : action session.buffer, meets with
  | .ok value buffer, holds => exact .ok (by rw [Session.onBuffer, ran]) holds
  | .error (.failed error) buffer, holds => exact .failed (by rw [Session.onBuffer, ran]) holds

/-- A call of the transport leaves settings and buffer alone, whatever it comes to. -/
theorem Meets.call (call : Bool → Call) (run : τ → Except IoError α × τ) :
    Meets (onChannel (Channel.perform call run)) session (Alongside session) fun value other =>
      Alongside session other ∧ (run session.channel.link).1 = .ok value := by
  simp only [Meets, onChannel, Channel.perform]
  cases run session.channel.link with
  | mk result link =>
    cases result with
    | ok value => exact ⟨⟨rfl, rfl⟩, rfl⟩
    | error error => exact ⟨rfl, rfl⟩

/-- An action with a contract does not crash. -/
theorem Meets.leaves {holds : Session τ → Prop} {action : Action τ α}
    (meets : Meets action session holds after)
    (still : ∀ value session, after value session → holds session) :
    Leaves holds (fun _ _ => False) (action session) := by
  unfold Meets at meets
  match action session, meets with
  | .ok value session, holds => exact still value session holds
  | .error (.failed _) session, holds => exact holds
  | .error (.crashed _) _, crashed => exact crashed.elim

theorem Meets.publish (event : Event) :
    Meets (publish event) session (Alongside session) fun _ => Alongside session := by
  unfold Session.publish Meets
  simp only
  split <;> exact ⟨rfl, rfl⟩

end

variable {config : Config} {least : Nat} {session : Session τ}

/-- Nothing is asked of an action that fails but that the session is still fit for use. -/
abbrev Safe (config : Config) (least : Nat) (action : Action τ α) (session : Session τ)
    (after : α → Session τ → Prop) : Prop :=
  Meets action session (Fit config least) after

namespace Safe

theorem publish (fit : Fit config least session) (event : Event) :
    Safe config least (publish event) session fun _ => Alongside session :=
  (Meets.publish event).mono (fun _ => fit.alongside) fun _ _ => id

/-- The buffer is used in a way that is safe for it. -/
theorem onBuffer {action : Buffer.Action α} (fit : Fit config least session)
    {known : α → Buffer → Prop}
    (use : Meets action session.buffer (Live (max config.bufferStep headerSize) least)
      fun value buffer => Live (max config.bufferStep headerSize) least buffer ∧ known value buffer) :
    Safe config least (Session.onBuffer action) session fun value other =>
      Fit config least other ∧ known value other.buffer :=
  Meets.onBuffer <| use.mono (fun _ live => ⟨fit.config, live⟩)
    fun _ _ ⟨live, known⟩ => ⟨⟨fit.config, live⟩, known⟩

/-- The buffer is looked at. -/
theorem look {action : Buffer.Action α} (fit : Fit config least session)
    (use : Meets action session.buffer (· = session.buffer) fun _ buffer => buffer = session.buffer) :
    Safe config least (Session.onBuffer action) session fun _ => Alongside session :=
  Meets.onBuffer <| use.mono (fun buffer same => by subst same; exact fit)
    fun _ buffer same => ⟨rfl, same⟩

theorem tag (fit : Fit config least session) :
    Safe config least (Session.onBuffer Buffer.tag) session fun _ => Alongside session :=
  look fit fit.live.tag

theorem decode {tag : UInt8} {reader : Reader α} (holding : Holding config least session) :
    Safe config least (Session.onBuffer (PgSession.decode tag reader)) session fun _ =>
      Holding config least := by
  refine Meets.onBuffer ((holding.live.decode holding.header tag reader).mono ?_ ?_)
  · rintro buffer ⟨live, -⟩
    exact ⟨holding.config, live⟩
  · rintro value buffer ⟨live, limit⟩
    exact ⟨⟨holding.config, live⟩, by rw [limit]; exact holding.header⟩

section

variable [Transport τ] {after : α → Session τ → Prop}

theorem saying {level : Log.Level} {text : String} {next : Unit → Action τ α}
    (rest : ∀ other, Alongside session other → Safe config least (next ()) other after) :
    Safe config least (say level text >>= next) session after :=
  rest (remarked session level text) ⟨rfl, rfl⟩

theorem read (fit : Fit config least session) (count timeout : Nat) :
    Safe config least (onChannel (Channel.read count timeout)) session fun bytes other =>
      Alongside session other ∧ bytes.length = count :=
  (Meets.call _ _).mono (fun _ => fit.alongside) fun _ _ ⟨same, found⟩ =>
    ⟨same, Transport.read_length (Prod.ext found rfl)⟩

theorem write (fit : Fit config least session) (bytes : List UInt8) (timeout : Nat) :
    Safe config least (onChannel (Channel.write bytes timeout)) session fun _ =>
      Alongside session :=
  (Meets.call _ _).mono (fun _ => fit.alongside) fun _ _ => And.left

theorem close (fit : Fit config least session) :
    Safe config least (onChannel Channel.close) session fun _ => Alongside session :=
  (Meets.call _ _).mono (fun _ => fit.alongside) fun _ _ => And.left

theorem upgrade (fit : Fit config least session) :
    Safe config least (onChannel Channel.upgrade) session fun _ => Alongside session := by
  cases ran : Transport.upgrade session.channel.link with
  | mk result link =>
    cases result with
    | ok nothing => exact .ok (upgrade_ok ran) ⟨rfl, rfl⟩
    | error error => exact .failed (upgrade_failed ran) (fit.alongside ⟨rfl, rfl⟩)

end

end Safe

/-- A message that may come at any time is decoded and handed on; any other stays as it is. -/
theorem dispatch_safe (holding : Holding config least session) :
    Safe config least dispatch session fun _ => Holding config least := by
  refine (Safe.tag holding.toFit).bind fun tag seen same => ?_
  have still := holding.alongside same
  have published (event : Event) (decoded : Session τ) (held : Holding config least decoded) :
      Safe config least (do publish event; return true) decoded fun _ => Holding config least :=
    (Safe.publish held.toFit event).bind fun _ _ same => .pure (held.alongside same)
  split
  · exact (Safe.decode still).bind fun _ => published _
  split
  · exact (Safe.decode still).bind fun _ _ decoded => .fail decoded.toFit
  split
  · exact (Safe.decode still).bind fun _ => published _
  split
  · refine (Safe.decode still).bind fun status decoded held => ?_
    exact published _ _ (held.alongside ⟨rfl, rfl⟩)
  · exact .pure still

variable [Transport τ]

theorem flush_safe (fit : Fit config least session) :
    Safe config least flush session fun _ => Fit config least := by
  refine (Safe.look fit fit.live.chunk).bind fun bytes shown same => ?_
  refine Safe.saying fun told same' => .get ?_
  have still := (fit.alongside same).alongside same'
  refine (Safe.write still _ _).bind fun _ wrote same'' => ?_
  have last := still.alongside same''
  exact (Safe.onBuffer last (last.live.clear)).mono (fun _ => id) fun _ _ => And.left

theorem send_safe (fit : Fit config least session) {message : FrontendMessage}
    (sendable : Sendable message) :
    Safe config least (send message) session fun _ => Fit config least := by
  have written : Safe config least (onBuffer message.write) session fun _ => Fit config least :=
    Meets.onBuffer <| (fit.live.write sendable).mono (fun _ => id) fun _ _ live => ⟨fit.config, live⟩
  exact written.bind fun _ _ => flush_safe

/-- Filling the window moves the cursor to its end. -/
theorem fillWindow_safe (fit : Fit config least session) (timeout : Nat) :
    Safe config least (fillWindow timeout) session fun _ other => Fit config least other ∧
      other.buffer.limit = session.buffer.limit ∧ other.buffer.position = session.buffer.limit := by
  refine (Safe.onBuffer fit fit.live.expose).bind fun window exposed after => ?_
  obtain ⟨still, limit, position, size⟩ := after
  refine (Safe.read still _ timeout).bind fun bytes heard after => ?_
  obtain ⟨same, length⟩ := after
  have last := still.alongside same
  have within : window.1 + bytes.length ≤ heard.buffer.limit := by
    apply Nat.le_of_eq
    rw [length, same.buffer, limit, size]
  refine (Safe.onBuffer last (last.live.store within)).mono (fun _ => id) fun _ stored after => ?_
  obtain ⟨fit', limit', position'⟩ := after
  rw [same.buffer] at limit' position'
  exact ⟨fit', limit'.trans limit, position'.trans position⟩

theorem fillAfresh_safe (fit : Fit config least session) {limit : Nat}
    (within : limit ≤ longest) (timeout : Nat) :
    Safe config least (fillAfresh limit timeout) session fun _ other => Fit config least other ∧
      other.buffer.position = limit := by
  refine (Safe.onBuffer fit fit.live.clear).bind fun _ cleared after => ?_
  obtain ⟨empty, -⟩ := after
  refine (Safe.onBuffer empty (empty.live.setLimit within)).bind fun _ opened after => ?_
  obtain ⟨opened, limit, -⟩ := after
  refine (fillWindow_safe opened timeout).mono (fun _ => id) fun _ filled after => ?_
  obtain ⟨fit, -, position⟩ := after
  exact ⟨fit, position.trans limit⟩

private theorem toInt_toNat_le (value : Int32) : value.toInt.toNat ≤ Buffer.maxLength := by
  have := value.toInt_lt
  simp only [Buffer.maxLength]
  omega

/-- A length that is let through is one whose message can be held. -/
theorem receiveHeader_safe (fit : Fit config least session) (timeout : Nat) :
    Safe config least (receiveHeader timeout) session fun length other =>
      Fit config least other ∧ other.buffer.position = headerSize ∧ 4 ≤ length ∧
        1 + length ≤ longest := by
  refine (fillAfresh_safe fit (Nat.le_of_ble_eq_true rfl) timeout).bind fun _ filled after => ?_
  obtain ⟨still, position⟩ := after
  refine (Safe.look still (still.live.peekInt32 1)).bind fun field peeked same => .get ?_
  have last := still.alongside same
  have bound := toInt_toNat_le field
  dsimp only
  split
  · exact .fail last
  · split
    · exact .fail last
    · refine .pure ⟨last, by rw [same.buffer, position], ?_, ?_⟩
      · omega
      · simp only [longest]
        omega

theorem receive_safe (fit : Fit config least session) (timeout : Nat) :
    Safe config least (receive timeout) session fun _ => Holding config least := by
  refine (receiveHeader_safe fit timeout).bind fun length header after => ?_
  obtain ⟨told, position, enough, within⟩ := after
  refine (Safe.tag told).bind fun tag seen same => Safe.saying fun logged same' => ?_
  have still := (told.alongside same).alongside same'
  have room : logged.buffer.position + (length - 4) ≤ longest := by
    rw [same'.buffer, same.buffer, position]
    simp only [headerSize]
    omega
  refine (Safe.onBuffer still (still.live.ensureCapacity room)).bind fun _ roomy after => ?_
  obtain ⟨roomy', -⟩ := after
  refine (Safe.onBuffer roomy' (roomy'.live.setLimit within)).bind fun _ opened after => ?_
  obtain ⟨opened', limit, -⟩ := after
  refine (fillWindow_safe opened' timeout).bind fun _ filled after => ?_
  obtain ⟨filled', -, position'⟩ := after
  refine (Safe.onBuffer filled' filled'.live.flip).bind fun _ flipped after => ?_
  obtain ⟨flipped', whole⟩ := after
  have holding : Holding config least flipped := by
    refine ⟨flipped', ?_⟩
    rw [whole, position', limit]
    simp only [headerSize]
    omega
  exact (Safe.tag flipped').mono (fun _ => id) fun _ _ => holding.alongside

theorem hear_safe (fit : Fit config least session) (timeout : Nat) :
    Safe config least (Medium.buffered.hear timeout) session fun _ => Holding config least :=
  (receive_safe fit timeout).bind fun _ _ holding => (dispatch_safe holding).bind fun _ _ holding =>
    .pure holding

theorem answer_safe (fit : Fit config least session) (timeout : Nat) :
    Safe config least (Medium.buffered.answer timeout) session fun _ => Fit config least := by
  refine (fillAfresh_safe fit (Nat.le_of_ble_eq_true rfl) timeout).bind fun _ filled after => ?_
  exact (Safe.tag after.1).mono (fun _ => id) fun _ _ => after.1.alongside

/-- Every message that there is to say is short enough. -/
theorem Expressible.speech (expressible : Expressible config) {speech : Speech}
    {message : FrontendMessage} (asked : speech.message? config = .ok (some message)) :
    Sendable message := by
  cases speech with
  | greeting =>
    obtain rfl : startupMessage config = message := Option.some.inj (Except.ok.inj asked)
    exact expressible.startup
  | answer challenge =>
    obtain ⟨answer, replied, rfl⟩ := Speech.message?_answer asked
    exact expressible.reply replied
  | encryption | farewell | cancellation =>
    cases asked
    rfl

/-- A message in hand is there with its header. -/
theorem buffered_safe (expressible : Expressible config) :
    RoutinesKeep (Fit config least) (fun _ _ => False) (Medium.buffered (τ := τ))
      fun _ => Holding config least where
  say _ _ fit := fit.alongside ⟨rfl, rfl⟩
  speak speech := .speak fun session message fit asked => by
    rw [fit.config] at asked
    exact (send_safe fit (expressible.speech asked)).leaves fun _ _ => id
  note fact session fit := fit.alongside (by cases fact <;> exact ⟨rfl, rfl⟩)
  answer timeout session fit := (answer_safe fit timeout).leaves fun _ _ => id
  upgrade session fit := (Safe.upgrade fit).leaves fun _ _ => fit.alongside
  close session fit := (Safe.close fit).leaves fun _ _ => fit.alongside
  hear timeout session fit := by
    have safe := hear_safe fit timeout
    unfold Safe Meets at safe
    match Medium.buffered.hear timeout session, safe with
    | .ok none _, holding => exact holding.toFit
    | .ok (some _) _, holding => exact holding
    | .error (.failed _) _, fit => exact fit
    | .error (.crashed _) _, crashed => exact crashed.elim
  decode _ _ _ holding := (Safe.decode holding).leaves fun _ _ => Holding.toFit
  released := Holding.toFit

theorem new_fit (config : Config) (link : τ) :
    Fit config (max config.bufferStep headerSize) (Session.new config link) := by
  obtain ⟨buses, fresh, -⟩ := new_eq config link
  rw [fresh]
  exact ⟨rfl, Live.new config.bufferStep⟩

/-- What became of an operation that was allowed. -/
structure Finished (config : Config) (least : Nat) (operation : Operation)
    (ran : Answer × Client τ) : Prop where
  fit : Fit config least ran.2.session
  intact : ∀ crash, ran.1 ≠ .crashed crash
  result : quiet operation = false → ∃ result, ran.1 = .finished result

theorem run_finished (expressible : Expressible config) {client : Client τ}
    (fit : Fit config least client.session) (operation : Operation) :
    Finished config least operation (client.run operation) := by
  cases operation using Deed.elim with
  | subscribe | unsubscribe | settings | parameter =>
    refine ⟨fit.alongside ⟨rfl, rfl⟩, fun crash crashed => ?_, fun loud => ?_⟩
    · cases crashed
    · cases loud
  | @deed operation routine success failure deed =>
    have leaves := (buffered_safe expressible).routine routine client.session fit
    rw [deed.run, Client.advance]
    generalize routine.run .buffered client.session = result at leaves
    rcases result with _ | ⟨_ | _⟩
    · exact ⟨leaves, fun _ => Answer.noConfusion, fun _ => ⟨_, rfl⟩⟩
    · exact ⟨leaves, fun _ => Answer.noConfusion, fun _ => ⟨_, rfl⟩⟩
    · exact leaves.elim

private theorem perform_fit (expressible : Expressible config) {client : Client τ}
    (fit : Fit config least client.session) (operation : Operation) :
    Fit config least (client.perform operation).2.session := by
  cases allowed : client.phase.allows operation with
  | true =>
    rw [perform_allowed allowed]
    exact (run_finished expressible fit operation).fit
  | false =>
    rw [perform_refused allowed]
    exact fit

theorem performAll_fit (expressible : Expressible config) {client : Client τ}
    (fit : Fit config least client.session) (operations : List Operation) :
    Fit config least (performAll client operations).session := by
  induction operations generalizing client with
  | nil => exact fit
  | cons operation operations ih => exact ih (perform_fit expressible fit operation)

/-- Whatever the server sends, whichever calls fail and however subscribers answer, an operation that
its phase allows ends, well or with an error, and the offsets of the buffer stay in order and within
its region. The region never shrinks, so its size bounds all numbers that were computed on the way,
and it fits a word of 64 bits as long as the step does. -/
theorem operations_end {config : Config} (expressible : Expressible config) (link : τ)
    (operations : List Operation) (operation : Operation) :
    let client := performAll (Client.new config link) operations
    let ran := client.perform operation
    let before := client.session.buffer
    let after := ran.2.session.buffer
    (∀ crash, ran.1 ≠ .crashed crash) ∧
      (client.phase.allows operation → quiet operation = false →
        ∃ result, ran.1 = .finished result) ∧
      after.position ≤ after.limit ∧ after.limit ≤ after.capacity ∧
      before.capacity ≤ after.capacity ∧ after.capacity ≤ max config.bufferStep (4294967296) ∧
      (config.bufferStep < 18446744073709551616 → after.capacity < 18446744073709551616) := by
  intro client ran before after
  have start : Fit config _ client.session := performAll_fit expressible (new_fit config link) operations
  -- The invariant is taken up anew, so that it speaks of growth from here on.
  have fit : Fit config before.capacity client.session :=
    ⟨start.config, { start.live with larger := Nat.le_refl _ }⟩
  have live := (perform_fit expressible fit operation).live
  have bounded : after.capacity ≤ max config.bufferStep (4294967296) := by
    refine Nat.le_trans live.bounded ?_
    simp only [headerSize]
    omega
  have finished (allowed : client.phase.allows operation) :
      Finished config before.capacity operation ran := by
    rw [show ran = client.run operation from perform_allowed allowed]
    exact run_finished expressible fit operation
  refine ⟨?_, fun allowed => (finished allowed).result, live.position, live.limit, live.larger,
    bounded, fun small => by omega⟩
  cases allowed : client.phase.allows operation with
  | true => exact (finished allowed).intact
  | false =>
    rw [show ran = _ from perform_refused allowed]
    intro crash same
    cases same

private def generousConfig : Config := { user := "ada", maxMessageSize := 2147483648 }

private def announcing : Script where
  served := [Tag.authentication, 127, 255, 255, 255]

/-- A server that announces the largest of all messages, and then falls silent. -/
theorem operations_end_announced :
    Expressible generousConfig ∧
      let ran := (performAll (Client.new generousConfig announcing) [.secure, .sendStartup]).perform
        .authenticate
      (∃ result, ran.1 = .finished result) ∧ ran.2.session.buffer.capacity < 18446744073709551616 := by
  have expressible : Expressible generousConfig := ⟨by decide +kernel, nofun⟩
  obtain ⟨-, finished, -, -, -, -, small⟩ :=
    operations_end expressible announcing [.secure, .sendStartup] .authenticate
  exact ⟨expressible, finished (by decide +kernel) rfl, small (by decide)⟩

end PgSession.Proofs
