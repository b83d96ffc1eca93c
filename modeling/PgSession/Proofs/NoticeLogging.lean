import PgSession.Proofs.Narration

/-!
Logging notices, over whole runs. Every message that is received and holds a notice brings one record,
in the order in which the messages came, and the record stands before anything an observer of notices
leaves of it. Without logging there is no such record.
-/

namespace PgSession.Proofs
open Wire Session

namespace Frame

def notice? : Frame → Option Notice := reads? Tag.notice Reader.notice

/-- A notice that can be read is one of the events, and no other event is a notice. -/
theorem notice?_eq (frame : Frame) : frame.notice? = frame.event?.bind Event.notice? := by
  unfold notice? reads? event? general
  by_cases notice : frame.tag = Tag.notice
  · rw [notice, if_pos rfl, if_neg (by decide), if_neg (by decide), if_pos rfl]
    cases frame.decode Reader.notice <;> rfl
  · rw [if_neg notice, if_neg notice]
    split
    · cases frame.decode Reader.notification <;> rfl
    split
    · cases frame.decode Reader.errorReport <;> rfl
    split
    · cases frame.decode Reader.parameterStatus <;> rfl
    · rfl

end Frame

/-- Where the same events were told and received, so were the same notices. -/
theorem notices_of_events {τ : Type} {happenings : List (Happening τ)} {frames : List Frame}
    (events : happenings.filterMap Happening.event? = frames.filterMap Frame.event?) :
    happenings.filterMap Happening.notice? = frames.filterMap Frame.notice? := by
  have received : Frame.notice? = fun frame => frame.event?.bind Event.notice? :=
    funext Frame.notice?_eq
  rw [received, ← List.filterMap_filterMap, ← events, List.filterMap_filterMap]
  rfl

variable {τ : Type} [Transport τ] {target? : Option String}

/-- A client whose subscribers are those there should be. -/
structure Equipped (target? : Option String) (client : Client τ) : Prop where
  sound : Sound client.session.buffer
  listened : Listened target? client.session.buses

/-- What is true of a client after an operation that does not give up a logger. -/
structure Narrated (target? : Option String) (client client' : Client τ) : Prop where
  equipped : Equipped target? client'
  recounts : Recounts target? [] client.session client'.session

/-- Nothing but the subscribers may have changed. -/
private theorem narrated_still {client client' : Client τ} (equipped : Equipped target? client')
    (config : client'.session.config = client.session.config)
    (channel : client'.session.channel = client.session.channel) : Narrated target? client client' :=
  ⟨equipped, .still config channel equipped.listened⟩

private theorem narrated_advance {client : Client τ} (equipped : Equipped target? client)
    (routine : Routine Unit) (success failure : Phase) : Narrated target? client
      (Client.advance client.session (routine.run .buffered) success failure).2 := by
  obtain ⟨buffer, sound, advanced⟩ := (routine_refines routine).advance equipped.sound success failure
  have recounts := Recounts.routine equipped.listened routine
  rw [advanced]
  exact ⟨⟨sound, recounts.listened⟩, recounts.trans (.still rfl rfl recounts.listened)⟩

theorem run_narrated {client : Client τ} (equipped : Equipped target? client) (operation : Operation)
    (spared : ∀ id, operation = .unsubscribe .notices id → (loggers target? .notices).length ≤ id) :
    Narrated target? client (client.run operation).2 := by
  cases operation using Deed.elim with
  | subscribe topic observer =>
    have listened := equipped.listened.set ((equipped.listened topic).subscribe observer)
    exact narrated_still ⟨equipped.sound, listened⟩ rfl rfl
  | unsubscribe topic id =>
    have enough : (loggers target? topic).length ≤ id := by
      cases topic with
      | notices => exact spared id rfl
      | notifications | parameterStatuses => cases target? <;> exact Nat.zero_le _
    have listened := equipped.listened.set ((equipped.listened topic).unsubscribe enough)
    exact narrated_still ⟨equipped.sound, listened⟩ rfl rfl
  | settings | parameter => exact narrated_still equipped rfl rfl
  | deed deed =>
    rw [deed.run]
    exact narrated_advance equipped _ _ _

/-- The identifier that the notices were asked to remove. -/
def givenUp? : Operation → Answer → Option Nat
  | .unsubscribe .notices id, .unsubscribed _ => some id
  | _, _ => none

/-- The identifier that the notices returned. -/
def handedOut? : Operation → Answer → Option Nat
  | .subscribe .notices _, .subscribed id => some id
  | _, _ => none

/-- Only identifiers that the notices returned before are given to them. -/
def Entitled (client : Client τ) (returned : List Nat) : List Operation → Prop
  | [] => True
  | operation :: later =>
    (∀ id ∈ givenUp? operation (client.perform operation).1, id ∈ returned) ∧
      Entitled (client.perform operation).2
        (returned ++ (handedOut? operation (client.perform operation).1).toList) later

instance decidableEntitled (client : Client τ) (returned : List Nat) :
    (operations : List Operation) → Decidable (Entitled client returned operations)
  | [] => inferInstanceAs (Decidable True)
  | operation :: later =>
    have := decidableEntitled (client.perform operation).2
      (returned ++ (handedOut? operation (client.perform operation).1).toList) later
    inferInstanceAs (Decidable (_ ∧ _))

/-- No logger can be given up by these identifiers. -/
def Beyond (target? : Option String) (ids : List Nat) : Prop :=
  ∀ id ∈ ids, (loggers target? .notices).length ≤ id

/-- What the notices return is not the identifier of a logger. -/
private theorem handedOut_beyond {client : Client τ} (equipped : Equipped target? client)
    {operation : Operation}
    {id : Nat} (returned : handedOut? operation (client.perform operation).1 = some id) :
    (loggers target? .notices).length ≤ id := by
  cases allowed : client.phase.allows operation with
  | false =>
    rw [perform_refused allowed] at returned
    cases operation with
    | subscribe topic => cases topic <;> cases returned
    | _ => cases returned
  | true =>
    rw [perform_allowed allowed] at returned
    cases operation with
    | subscribe topic observer =>
      cases topic with
      | notices =>
        obtain rfl : client.session.buses.notices.nextId = id := Option.some.inj returned
        exact (equipped.listened .notices).beyond
      | notifications | parameterStatuses => cases returned
    | _ => cases returned

theorem perform_narrated {client : Client τ} (equipped : Equipped target? client) {operation : Operation}
    (spared : ∀ id ∈ givenUp? operation (client.perform operation).1,
      (loggers target? .notices).length ≤ id) :
    Narrated target? client (client.perform operation).2 := by
  cases allowed : client.phase.allows operation with
  | false =>
    rw [perform_refused allowed]
    exact narrated_still equipped rfl rfl
  | true =>
    rw [perform_allowed allowed] at spared ⊢
    refine run_narrated equipped operation fun id same => spared id ?_
    rw [same]
    rfl

/-- By induction on the operations. No logger is among the identifiers returned so far, so none is given
up; and without a logger it makes no difference what is. -/
theorem performAll_narrated {client : Client τ} (equipped : Equipped target? client) {returned : List Nat}
    {operations : List Operation} (beyond : Beyond target? returned)
    (entitled : target?.isSome → Entitled client returned operations) :
    Narrated target? client (performAll client operations) := by
  induction operations generalizing client returned with
  | nil => exact narrated_still equipped rfl rfl
  | cons operation operations ih =>
    have first : Narrated target? client (client.perform operation).2 := by
      refine perform_narrated equipped fun id given => ?_
      cases target? with
      | none => exact Nat.zero_le id
      | some target => exact beyond id ((entitled rfl).1 id given)
    have more : Beyond target?
        (returned ++ (handedOut? operation (client.perform operation).1).toList) := by
      intro id member
      rcases List.mem_append.mp member with known | new
      · exact beyond id known
      · exact handedOut_beyond equipped (Option.mem_toList.mp new)
    have rest := ih first.equipped more fun logging => (entitled logging).2
    exact ⟨rest.equipped, first.recounts.trans rest.recounts⟩

/-- The journal of every run is made of calls, of what the session says of itself, and of the events
it tells. The notices among these are those in the messages it received, one for one and in order; and
each begins with its record, on behalf of the session as it was named at first, if notices are logged,
and with none if they are not. -/
theorem notices_logged (config : Config) (link : τ) (operations : List Operation)
    (entitled : config.logNotices → Entitled (Client.new config link) [] operations) :
    ∃ happenings : List (Happening τ),
      (performAll (Client.new config link) operations).session.channel.journal =
        happenings.flatMap (Happening.entries config (loggingFor config link)) ∧
      happenings.filterMap Happening.notice? =
        (messages config link operations).filterMap Frame.notice? := by
  have equipped : Equipped (loggingFor config link) (Client.new config link) :=
    ⟨(new_sturdy config link).sound, new_listened config link⟩
  have logging : (loggingFor config link).isSome → config.logNotices := by
    intro some
    by_contra off
    rw [loggingFor, if_neg off] at some
    cases some
  obtain ⟨-, calls, frames, events, advances, hears, grows, told⟩ :=
    performAll_narrated equipped (List.forall_mem_nil _) fun some => entitled (logging some)
  obtain ⟨happenings, journal, rfl⟩ := grows.journal
  obtain ⟨buses, fresh, -⟩ := new_eq config link
  have settings : (Client.new config link).session.config = config := by rw [Client.new, fresh]
  have channel : (Client.new config link).session.channel = .ofLink link := by rw [Client.new, fresh]
  rw [settings, channel] at hears journal
  refine ⟨happenings, journal, ?_⟩
  have made := advances.calls
  rw [channel] at made
  have same : messages config link operations = frames := by
    rw [messages, made]
    exact hears.received_eq
  rw [same]
  exact notices_of_events ((List.append_nil _).symm.trans told)

private def noticedConfig : Config := { user := "ada" }

private def noticeFrame (severity text : String) : Frame :=
  ⟨Tag.notice, 'S'.toUInt8 :: (Text.utf8 severity ++ 0 :: 'M'.toUInt8 :: (Text.utf8 text ++ [0, 0]))⟩

private def noticing : Script where
  served := [noticeFrame "WARNING" "one", ⟨Tag.authentication, int32 0⟩, ⟨Tag.readyForQuery, [73]⟩,
    noticeFrame "DEBUG2" "two", noticeFrame "LOG" "three"].flatMap Frame.bytes

private def noticingOperations : List Operation :=
  [.subscribe .notices ⟨"calm", fun _ => none⟩, .handshake,
    .subscribe .notices ⟨"critic", fun _ => some "no"⟩, .tick 5, .unsubscribe .notices 1, .tick 5]

private def noticed : Client Script :=
  performAll (Client.new noticedConfig noticing) noticingOperations

/-- A notice during the handshake, and two after it. One observer accepts what it sees and leaves
before the last notice; another, which comes after the handshake, refuses everything. -/
theorem notices_logged_refused :
    Entitled (Client.new noticedConfig noticing) [] noticingOperations ∧
    ∃ happenings : List (Happening Script),
      noticed.session.channel.journal =
        happenings.flatMap (Happening.entries noticedConfig (some "[ada@localhost:5432/ada]")) ∧
      (happenings.filterMap Happening.notice?).map Notice.message? =
        [some "one", some "two", some "three"] ∧
      noticed.session.channel.deliveries.map Prod.fst = ["calm", "calm", "critic", "critic"] := by
  have entitled : Entitled (Client.new noticedConfig noticing) [] noticingOperations := by
    decide +kernel
  have target : loggingFor noticedConfig noticing = some "[ada@localhost:5432/ada]" := by
    decide +kernel
  have found : ((messages noticedConfig noticing noticingOperations).filterMap Frame.notice?).map
      Notice.message? = [some "one", some "two", some "three"] := by
    decide +kernel
  have delivered : noticed.session.channel.deliveries.map Prod.fst =
      ["calm", "calm", "critic", "critic"] := by
    decide +kernel
  have reached : performAll (Client.new noticedConfig noticing) noticingOperations = noticed := rfl
  obtain ⟨happenings, journal, notices⟩ :=
    notices_logged noticedConfig noticing noticingOperations fun _ => entitled
  rw [target, reached] at journal
  rw [← notices] at found
  exact ⟨entitled, happenings, journal, found, delivered⟩

end PgSession.Proofs
