import Mathlib.Data.List.Forall2
import PgSession.Proofs.Lockstep
import PgSession.Proofs.Runs

/-!
Two sessions over the same transport whose settings differ in what should make no difference: how the
buffer grows, and what the password is. Their effects are compared one by one. As long as the answers
to every challenge have effects that are taken for the same, the sessions do the same, step by step.
-/

namespace PgSession.Proofs
open Wire Session

variable {τ α β : Type}

/-- Two settings, and which effects of sessions that have them are taken for the same. -/
structure Comparison where
  settings : Config
  settings' : Config
  alike : Effect → Effect → Prop
  refl : ∀ effect, alike effect effect

/-- The record of bytes that are about to be written. -/
def writeRecord (speaker : String) (bytes : List UInt8) : Effect :=
  .logged ⟨.trace, s!"{speaker} {writeText bytes}"⟩

/-- Two messages with effects that are taken for the same. The transport does not tell them apart. -/
structure Interchangeable (τ : Type) [Transport τ] (alike : Effect → Effect → Prop)
    (message message' : FrontendMessage) : Prop where
  sendable : Sendable message' ↔ Sendable message
  recorded : ∀ speaker, alike (writeRecord speaker (encoded message))
    (writeRecord speaker (encoded message'))
  written : ∀ encrypted timeout succeeded,
    alike (.call (.write encrypted (encoded message) timeout succeeded))
      (.call (.write encrypted (encoded message') timeout succeeded))
  taken : ∀ (link : τ) timeout, Transport.write link (encoded message') timeout =
    Transport.write link (encoded message) timeout

theorem Interchangeable.refl [Transport τ] (comparison : Comparison) (message : FrontendMessage) :
    Interchangeable τ comparison.alike message message :=
  ⟨Iff.rfl, fun _ => comparison.refl _, fun _ _ _ => comparison.refl _, fun _ _ => rfl⟩

/-- Nothing is said, for the same reason, or two messages that are interchangeable. -/
inductive Matching (τ : Type) [Transport τ] (alike : Effect → Effect → Prop) :
    Except ConfigError (Option FrontendMessage) → Except ConfigError (Option FrontendMessage) → Prop
  | refused (error : ConfigError) : Matching τ alike (.error error) (.error error)
  | unasked : Matching τ alike (.ok none) (.ok none)
  | said {message message' : FrontendMessage} (same : Interchangeable τ alike message message') :
    Matching τ alike (.ok (some message)) (.ok (some message'))

theorem Matching.refl [Transport τ] (comparison : Comparison)
    (result : Except ConfigError (Option FrontendMessage)) :
    Matching τ comparison.alike result result := by
  cases result with
  | error error => exact .refused error
  | ok asked =>
    cases asked with
    | none => exact .unasked
    | some message => exact .said (.refl comparison _)

/-- The settings differ in nothing else, and every challenge is answered alike. -/
structure Fair (τ : Type) [Transport τ] (comparison : Comparison) : Prop where
  same : comparison.settings' = { comparison.settings with
    bufferStep := comparison.settings'.bufferStep, password := comparison.settings'.password }
  replies : ∀ challenge, Matching τ comparison.alike
    (Speech.message? (.answer challenge) comparison.settings)
    (Speech.message? (.answer challenge) comparison.settings')

/-- Sessions that have got equally far. -/
structure Twin (comparison : Comparison) (session session' : Session τ) : Prop where
  config : session.config = comparison.settings
  config' : session'.config = comparison.settings'
  link : session'.channel.link = session.channel.link
  encrypted : session'.channel.encrypted = session.channel.encrypted
  journal : List.Forall₂ comparison.alike session.channel.journal session'.channel.journal
  buses : session'.buses = session.buses
  parameters : session'.parameters = session.parameters
  status : session'.status = session.status
  key : session'.key = session.key

variable {comparison : Comparison} {session session' : Session τ}

namespace Twin

private theorem noted (twin : Twin comparison session session') {effects effects' : List Effect}
    (alike : List.Forall₂ comparison.alike effects effects') :
    Twin comparison { session with channel := session.channel.note effects }
      { session' with channel := session'.channel.note effects' } :=
  { twin with journal := List.rel_append twin.journal alike }

private theorem noted_same (twin : Twin comparison session session') (effects : List Effect) :
    Twin comparison { session with channel := session.channel.note effects }
      { session' with channel := session'.channel.note effects } :=
  twin.noted (List.forall₂_same.mpr fun effect _ => comparison.refl effect)

private theorem made (twin : Twin comparison session session') {call call' : Call}
    (alike : comparison.alike (.call call) (.call call')) (link : τ) :
    Twin comparison (made session call link) (made session' call' link) := by
  have moved : Twin comparison { session with channel := { session.channel with link } }
      { session' with channel := { session'.channel with link } } := { twin with link := rfl }
  exact moved.noted (.cons alike .nil)

private theorem upgraded (twin : Twin comparison session session') (link : τ) :
    Twin comparison (upgraded session link) (upgraded session' link) :=
  { twin.made (comparison.refl _) link with encrypted := rfl }

private theorem learn (twin : Twin comparison session session') (event : Event) :
    Twin comparison (learn event session) (learn event session') := by
  cases event with
  | notice | notification => exact twin
  | parameterStatus status =>
    refine { twin with parameters := ?_ }
    exact congrArg (Parameters.set · status.name status.value) twin.parameters

end Twin

variable [Transport τ]

namespace Fair

variable (fair : Fair τ comparison)

include fair

private theorem timeout : comparison.settings'.timeout = comparison.settings.timeout := by rw
    [fair.same]

private theorem ssl : comparison.settings'.ssl = comparison.settings.ssl := by rw [fair.same]

private theorem maxMessageSize :
    comparison.settings'.maxMessageSize = comparison.settings.maxMessageSize := by rw [fair.same]

private theorem speech (speech : Speech) : Matching τ comparison.alike
    (speech.message? comparison.settings) (speech.message? comparison.settings') := by
  cases speech with
  | answer challenge => exact fair.replies challenge
  | greeting =>
    rw [fair.same]
    exact .refl comparison _
  | encryption | farewell | cancellation => exact .refl comparison _

theorem identity (twin : Twin comparison session session') : session'.identity = session.identity := by
  unfold Session.identity
  rw [twin.config, twin.config', twin.link, fair.same]
  rfl

end Fair

/-- Begun by twins, the actions come to the same and leave twins. -/
abbrev Mirrors (comparison : Comparison) : Action τ α → Action τ α → Prop :=
  Lockstep (Twin comparison) fun _ => Twin comparison

namespace Mirrors

section

omit [Transport τ]

/-- The subscribers are the same, so they make the same of an event. -/
theorem publish (event : Event) : Mirrors comparison (publish event : Action τ Unit) (publish event) := by
  refine ⟨fun {session session'} twin => ?_⟩
  simp only [Session.publish, twin.buses]
  generalize (session.buses.get event.topic).publish event = delivered
  have told := twin.noted_same delivered.1.records
  cases delivered.1.failure with
  | none => exact .ok { told with buses := rfl }
  | some reason => exact .failed { told with buses := rfl }

/-- Calls that are taken for the same, and come to the same. -/
theorem performs {call call' : Bool → Call} {run run' : τ → Except IoError α × τ}
    (alike : ∀ succeeded, comparison.alike (.call (call succeeded)) (.call (call' succeeded)))
    (same : ∀ link, run' link = run link) :
    Mirrors comparison (onChannel (Channel.perform call run))
      (onChannel (Channel.perform call' run')) := by
  refine ⟨fun {session session'} twin => ?_⟩
  have other : run' session'.channel.link = run session.channel.link := by rw [same, twin.link]
  cases came : run session.channel.link with
  | mk result link =>
    cases result with
    | ok value =>
      rw [perform_ok came, perform_ok (other.trans came)]
      exact .ok (twin.made (alike true) link)
    | error error =>
      rw [perform_failed came, perform_failed (other.trans came)]
      exact .failed (twin.made (alike false) link)

theorem perform (call : Bool → Call) (run : τ → Except IoError α × τ) :
    Mirrors comparison (onChannel (Channel.perform call run)) (onChannel (Channel.perform call run)) :=
  performs (fun _ => comparison.refl _) fun _ => rfl

theorem dispatch (frame : Frame) :
    Mirrors comparison (Unbuffered.dispatch frame : Action τ Bool) (Unbuffered.dispatch frame) := by
  unfold Unbuffered.dispatch
  cases frame.general with
  | none => exact .pure false
  | some event =>
    refine .bind (.ensure event) fun event => ?_
    exact .bind (.modify fun twin => twin.learn event) fun _ => .bind (publish event) fun _ => .pure true

end

/-- How a write is marked depends on the session, and is the same for both. -/
theorem write {bytes bytes' : List UInt8} {timeout : Nat}
    (alike : ∀ encrypted succeeded, comparison.alike
      (.call (.write encrypted bytes timeout succeeded))
      (.call (.write encrypted bytes' timeout succeeded)))
    (same : ∀ link : τ, Transport.write link bytes' timeout = Transport.write link bytes timeout) :
    Mirrors comparison (onChannel (Channel.write bytes timeout) : Action τ Unit)
      (onChannel (Channel.write bytes' timeout)) := by
  refine ⟨fun {session session'} twin => ?_⟩
  have marked : onChannel (Channel.write bytes' timeout) session' = onChannel (Channel.perform
      (.write session.channel.encrypted bytes' timeout) (Transport.write · bytes' timeout)) session' := by
    rw [← twin.encrypted]
    rfl
  rw [marked]
  exact (performs (alike session.channel.encrypted) same).run twin

theorem upgrade :
    Mirrors comparison (onChannel Channel.upgrade : Action τ Unit) (onChannel Channel.upgrade) := by
  refine ⟨fun {session session'} twin => ?_⟩
  have same := congrArg Transport.upgrade twin.link
  cases came : Transport.upgrade session.channel.link with
  | mk result link =>
    cases result with
    | ok value =>
      rw [upgrade_ok came, upgrade_ok (same.trans came)]
      exact .ok (twin.upgraded link)
    | error error =>
      rw [upgrade_failed came, upgrade_failed (same.trans came)]
      exact .failed (twin.made (comparison.refl _) link)

section

variable (fair : Fair τ comparison)

include fair

theorem say (level : Log.Level) (text : String) :
    Mirrors comparison (say level text : Action τ Unit) (say level text) := by
  refine ⟨fun {session session'} twin => ?_⟩
  rw [say_eq, say_eq, remarked, remarked, fair.identity twin]
  exact .ok (twin.noted_same _)

theorem sends {message message' : FrontendMessage}
    (same : Interchangeable τ comparison.alike message message') :
    Mirrors comparison (Unbuffered.send message : Action τ Unit) (Unbuffered.send message') := by
  have recorded : Mirrors comparison
      (Session.say .trace (writeText (encoded message)) : Action τ Unit)
      (Session.say .trace (writeText (encoded message'))) := by
    refine ⟨fun {session session'} twin => ?_⟩
    rw [say_eq, say_eq, remarked, remarked, fair.identity twin]
    exact .ok (twin.noted (.cons (same.recorded _) .nil))
  unfold Unbuffered.send
  by_cases sendable : Sendable message
  · rw [if_pos sendable, if_pos (same.sendable.mpr sendable)]
    refine .bind recorded fun _ => .get fun session session' twin => ?_
    rw [twin.config, twin.config', fair.timeout]
    exact write (same.written · _) (same.taken · _)
  · rw [if_neg sendable, if_neg fun other => sendable (same.sendable.mp other)]
    exact ⟨fun twin => .crashed twin⟩

theorem speak (speech : Speech) : Mirrors comparison (Medium.direct.speak speech : Action τ Bool)
    (Medium.direct.speak speech) := by
  refine .get fun session session' twin => ?_
  rw [twin.config, twin.config']
  have matching := fair.speech speech
  generalize speech.message? comparison.settings = asked,
    speech.message? comparison.settings' = asked' at matching
  cases matching with
  | refused error => exact .fail _
  | unasked => exact .pure _
  | said same => exact .bind (sends fair same) fun _ => .pure true

theorem receive (timeout : Nat) :
    Mirrors comparison (Unbuffered.receive timeout : Action τ Frame) (Unbuffered.receive timeout) := by
  have header : Mirrors comparison (Unbuffered.receiveHeader timeout : Action τ (UInt8 × Nat))
      (Unbuffered.receiveHeader timeout) := by
    refine .bind (perform _ _) fun header => .get fun session session' twin => ?_
    simp only [twin.config, twin.config', fair.maxMessageSize]
    exact .ite (.fail _) (.ite (.fail _) (.pure _))
  refine .bind header fun ⟨tag, size⟩ => .bind (say fair _ _) fun _ => ?_
  exact .bind (perform _ _) fun body => .pure _

theorem hear (timeout : Nat) : Mirrors comparison
    (Medium.direct.hear timeout : Action τ (Option Frame)) (Medium.direct.hear timeout) :=
  .bind (receive fair timeout) fun frame => .bind (dispatch frame) fun _ => .pure _

theorem media : RoutinesRelate (Twin comparison) (fun _ => Twin comparison) (Medium.direct (τ := τ))
    .direct fun frame frame' session session' =>
      frame' = frame ∧ Twin comparison session session' where
  talks :=
    { ssl := fun twin => by rw [twin.config, twin.config', fair.ssl]
      timeout := fun twin => by rw [twin.config, twin.config', fair.timeout]
      say := fun _ => say fair _ _
      speak := speak fair
      answer := fun _ timeout => .bind (perform _ _) fun _ => .pure _
      upgrade := fun _ => upgrade
      close := fun _ => perform _ _ }
  messages :=
    { tag := fun held => by rw [held.1]
      decode := fun reader _ _ _ _ ⟨same, twin⟩ => same ▸ (Lockstep.ensure _).run twin
      note := fun fact _ _ twin => by
        cases fact with
        | nothing => exact twin
        | key => exact { twin with key := rfl }
        | status => exact { twin with status := rfl }
      released := fun held => held.2 }
  hear timeout _ _ twin := ((hear fair timeout).run twin).heard

theorem routine (routine : Routine α) :
    Mirrors comparison (routine.run .direct : Action τ α) (routine.run .direct) :=
  (media fair).routine routine

end

end Mirrors

/-- The answer of a client that has these settings, and is otherwise the same. -/
def under (settings : Config) : Answer → Answer
  | .settings _ => .settings settings
  | answer => answer

private theorem under_answered (settings : Config) (result : Except (Halt Error) Unit) :
    under settings (answered result) = answered result := by
  rcases result with (_ | _) | _ <;> rfl

/-- A session before anyone listens. -/
def unheard (config : Config) (link : τ) : Session τ :=
  ⟨config, .ofLink link, .new config.bufferStep, .empty, .empty, none, none⟩

theorem new_unheard (config : Config) (link : τ) : Session.new config link =
    if config.logNotices then ((unheard config link).subscribe .notices
      (noticeLogger (unheard config link).identity)).2
    else unheard config link := rfl

/-- Clients that have got equally far, each with a buffer of its own. -/
structure Twins (comparison : Comparison) (client client' : Client τ) : Prop where
  phase : client'.phase = client.phase
  twin : Twin comparison client.session client'.session
  sound : Sound client.session.buffer
  sound' : Sound client'.session.buffer

omit [Transport τ] in
/-- They come to the same outcome, and remain twins whatever that is. -/
theorem Abreast.outcome {result result' : EStateM.Result (Halt Error) (Session τ) α}
    (abreast : Abreast (Twin comparison) (fun _ => Twin comparison) result result') :
    Proofs.outcome result' = Proofs.outcome result ∧ Twin comparison (final result) (final result') := by
  cases abreast with
  | ok twin | failed twin | crashed twin => exact ⟨rfl, twin⟩

/-- The clients answer alike, and remain twins. -/
def Agree (comparison : Comparison) (answered answered' : Answer × Client τ) : Prop :=
  answered'.1 = under comparison.settings' answered.1 ∧ Twins comparison answered.2 answered'.2

private theorem agree_advance (fair : Fair τ comparison) (routine : Routine Unit)
    (twin : Twin comparison session session') (sound : Sound session.buffer)
    (sound' : Sound session'.buffer) (success failure : Phase) :
    Agree comparison (Client.advance session (routine.run .buffered) success failure)
      (Client.advance session' (routine.run .buffered) success failure) := by
  obtain ⟨buffer, still, ran⟩ := (routine_refines routine).advance sound success failure
  obtain ⟨buffer', still', ran'⟩ := (routine_refines routine).advance sound' success failure
  obtain ⟨same, twin⟩ := ((Mirrors.routine fair routine).run twin).outcome
  rw [ran, ran', same]
  exact ⟨(under_answered _ _).symm, rfl, { twin with }, still, still'⟩

omit [Transport τ] in
theorem Twin.subscribe (twin : Twin comparison session session') (topic : Topic)
    (respond : List Event → Response Effect) :
    (session'.subscribe topic respond).1 = (session.subscribe topic respond).1 ∧
      Twin comparison (session.subscribe topic respond).2 (session'.subscribe topic respond).2 := by
  simp only [Session.subscribe, twin.buses]
  exact ⟨trivial, { twin with buses := rfl }⟩

omit [Transport τ] in
theorem Twin.unsubscribe (twin : Twin comparison session session') (topic : Topic) (id : Nat) :
    (session'.unsubscribe topic id).1 = (session.unsubscribe topic id).1 ∧
      Twin comparison (session.unsubscribe topic id).2 (session'.unsubscribe topic id).2 := by
  simp only [Session.unsubscribe, twin.buses]
  exact ⟨trivial, { twin with buses := rfl }⟩

namespace Twins

variable {client client' : Client τ} (fair : Fair τ comparison)

include fair

theorem run (twins : Twins comparison client client') (operation : Operation) :
    Agree comparison (client.run operation) (client'.run operation) := by
  obtain ⟨phase, session⟩ := client
  obtain ⟨phase', session'⟩ := client'
  obtain ⟨same, twin, sound, sound'⟩ := twins
  obtain rfl : phase' = phase := same
  cases operation using Deed.elim with
  | subscribe topic observer =>
    obtain ⟨id, twin⟩ := twin.subscribe topic observer.response
    exact ⟨congrArg Answer.subscribed id, rfl, twin, sound, sound'⟩
  | unsubscribe topic id =>
    obtain ⟨removed, twin⟩ := twin.unsubscribe topic id
    exact ⟨congrArg Answer.unsubscribed removed, rfl, twin, sound, sound'⟩
  | settings => exact ⟨congrArg Answer.settings twin.config', rfl, twin, sound, sound'⟩
  | parameter name =>
    have value := congrArg (Parameters.find? · name) twin.parameters
    exact ⟨congrArg Answer.parameter value, rfl, twin, sound, sound'⟩
  | deed deed =>
    rw [deed.run, deed.run]
    exact agree_advance fair _ twin sound sound' _ _

theorem perform (twins : Twins comparison client client') (operation : Operation) :
    Agree comparison (client.perform operation) (client'.perform operation) := by
  cases allowed : client.phase.allows operation with
  | true =>
    rw [perform_allowed allowed, perform_allowed (by rw [twins.phase, allowed])]
    exact twins.run fair operation
  | false =>
    rw [perform_refused allowed, perform_refused (by rw [twins.phase, allowed])]
    exact ⟨rfl, twins⟩

theorem performAll (twins : Twins comparison client client') (operations : List Operation) :
    Twins comparison (performAll client operations) (performAll client' operations) := by
  induction operations generalizing client client' with
  | nil => exact twins
  | cons operation operations ih => exact ih (twins.perform fair operation).2

theorem beginning (link : τ) : Twins comparison (Client.new comparison.settings link)
    (Client.new comparison.settings' link) := by
  have twin : Twin comparison (unheard comparison.settings link)
      (unheard comparison.settings' link) := ⟨rfl, rfl, rfl, rfl, .nil, rfl, rfl, rfl, rfl⟩
  have logs : comparison.settings'.logNotices = comparison.settings.logNotices := by rw [fair.same]
  have started : Twin comparison (Session.new comparison.settings link)
      (Session.new comparison.settings' link) := by
    rw [new_unheard, new_unheard, logs, fair.identity twin]
    split
    · exact (twin.subscribe _ _).2
    · exact twin
  exact ⟨rfl, started, (new_sturdy _ link).sound, (new_sturdy _ link).sound⟩

end Twins

end PgSession.Proofs
