import PgSession.Proofs.EventBus
import PgSession.Proofs.TickAlignment

/-!
Waiting for a message that does not come at just any time. The messages before it are taken one by
one, and each is told to the subscribers of its topic before the next is read; the first of them that
is an error, or that somebody refuses, ends the wait.
-/

namespace PgSession.Proofs
open Wire Session

variable {τ : Type}

/-- What a subscriber makes of an event. -/
def answerTo (event : Event) (entry : Nat × Subscriber Event Effect) : Response Effect :=
  entry.2.respond (event :: entry.2.seen)

/-- The subscriber after it was called. -/
def remembering (event : Event) (entry : Nat × Subscriber Event Effect) :
    Nat × Subscriber Event Effect :=
  (entry.1, { entry.2 with seen := event :: entry.2.seen })

/-- The session after so many subscribers of a topic were called, in the order in which they
subscribed. -/
def notified (event : Event) (count : Nat) (session : Session τ) : Session τ :=
  let bus := session.buses.get event.topic
  let called := bus.active.take count
  { session with
    buses := session.buses.set event.topic
      { bus with active := called.map (remembering event) ++ bus.active.drop count }
    channel := session.channel.note (called.flatMap fun entry => (answerTo event entry).records) }

/-- Nobody refuses any of these events, which come one after another. -/
def AllAccept : Buses → List Event → Prop
  | _, [] => True
  | buses, event :: later =>
    (∀ entry ∈ (buses.get event.topic).active, (answerTo event entry).failure = none) ∧
      AllAccept (told event buses) later

instance AllAccept.decide : ∀ buses events, Decidable (AllAccept buses events)
  | _, [] => .isTrue trivial
  | buses, event :: later =>
    have := AllAccept.decide (told event buses) later
    inferInstanceAs (Decidable (_ ∧ _))

private theorem notified_everyone (event : Event) (session : Session τ) :
    (notified event (session.buses.get event.topic).size session).buses =
      told event session.buses := by
  unfold notified told Bus.size
  simp only [List.take_length, List.drop_length, List.append_nil]
  rfl

private theorem Willing.told {buses : Buses} (willing : Willing buses) (event : Event) :
    Willing (told event buses) := by
  intro topic entry member
  rw [Proofs.told, get_set] at member
  split at member
  · obtain ⟨entry', member', rfl⟩ := List.mem_map.mp member
    exact willing _ entry' member'
  · exact willing topic entry member

private theorem Willing.allAccept {buses : Buses} (willing : Willing buses) (events : List Event) :
    AllAccept buses events := by
  induction events generalizing buses with
  | nil => trivial
  | cons event later ih =>
    exact ⟨fun entry member => willing _ entry member _, ih (willing.told event)⟩

private theorem deliver_all {event : Event} {active : List (Nat × Subscriber Event Effect)}
    (accepted : ∀ entry ∈ active, (answerTo event entry).failure = none) :
    Bus.deliver event active =
      (⟨active.flatMap fun entry => (answerTo event entry).records, none⟩,
        active.map (remembering event)) := by
  induction active with
  | nil => rfl
  | cons entry rest ih =>
    obtain ⟨first, others⟩ := List.forall_mem_cons.mp accepted
    rw [EventBus.deliver_accepted first, ih others]
    rfl

/-- Nobody behind a subscriber that refuses is called. -/
private theorem deliver_until {event : Event} {front behind : List (Nat × Subscriber Event Effect)}
    {entry : Nat × Subscriber Event Effect} {reason : String}
    (accepted : ∀ other ∈ front, (answerTo event other).failure = none)
    (refused : (answerTo event entry).failure = some reason) :
    Bus.deliver event (front ++ entry :: behind) =
      (⟨(front ++ [entry]).flatMap fun entry => (answerTo event entry).records, some reason⟩,
        (front ++ [entry]).map (remembering event) ++ behind) := by
  induction front with
  | nil =>
    have response : answerTo event entry = ⟨(answerTo event entry).records, some reason⟩ := by
      rw [← refused]
    rw [List.nil_append, EventBus.deliver_refused refused, List.nil_append, List.flatMap_singleton,
      ← response]
    rfl
  | cons other front ih =>
    obtain ⟨first, others⟩ := List.forall_mem_cons.mp accepted
    rw [List.cons_append, EventBus.deliver_accepted first, ih others]
    rfl

private theorem publish_all {event : Event} {session : Session τ}
    (accepted : ∀ entry ∈ (session.buses.get event.topic).active,
      (answerTo event entry).failure = none) :
    publish event session =
      .ok () (notified event (session.buses.get event.topic).size session) := by
  unfold publish notified Bus.publish Bus.size
  simp only [deliver_all accepted, List.take_length, List.drop_length, List.append_nil]

private theorem publish_until {event : Event} {session : Session τ}
    {front behind : List (Nat × Subscriber Event Effect)} {entry : Nat × Subscriber Event Effect}
    {reason : String} (active : (session.buses.get event.topic).active = front ++ entry :: behind)
    (accepted : ∀ other ∈ front, (answerTo event other).failure = none)
    (refused : (answerTo event entry).failure = some reason) :
    publish event session =
      .error (.failed ⟨.subscriber reason, none⟩) (notified event (front.length + 1) session) := by
  have called : (front ++ entry :: behind).take (front.length + 1) = front ++ [entry] :=
    List.take_length_add_append 1
  have uncalled : (front ++ entry :: behind).drop (front.length + 1) = behind :=
    List.drop_length_add_append 1
  unfold publish notified Bus.publish
  simp only [active, deliver_until accepted refused, called, uncalled]

private theorem Frame.event?_eq_some_iff {frame : Frame} {event : Event} :
    frame.event? = some event ↔ frame.general = some (.ok event) := by
  rcases kind : frame.general with _ | _ | found <;> simp [Frame.event?, kind, Except.toOption]

private theorem Frame.unsolicited_event {frame : Frame} :
    frame.Unsolicited ↔ ∃ event, frame.event? = some event := by
  simp only [Frame.unsolicited_iff, Frame.event?_eq_some_iff]

instance (frame : Frame) : Decidable frame.Unsolicited :=
  decidable_of_iff frame.event?.isSome (by rw [Option.isSome_iff_exists, Frame.unsolicited_event])

variable [Transport τ]

/-- The session after it read a message. -/
def taking (frame : Frame) (session : Session τ) : Session τ :=
  let timeout := session.config.timeout
  let header := Transport.read session.channel.link headerSize timeout
  let body := Transport.read header.2 frame.body.length timeout
  let told := remarked (made session (.read headerSize timeout true) header.2) .trace
    (headerText frame.tag (4 + frame.body.length))
  made told (.read frame.body.length timeout true) body.2

/-- The session after it read a message and told its event, if it has one, to all who listen. -/
def passing (session : Session τ) (frame : Frame) : Session τ :=
  let session := taking frame session
  match frame.event? with
  | some event => notified event (session.buses.get event.topic).size (learn event session)
  | none => session

def drained (session : Session τ) (frames : List Frame) : Session τ := frames.foldl passing session

section

variable {served : τ → List UInt8} {live : τ → Prop} {session : Session τ} {frame : Frame}
  {rest : List UInt8}

/-- A session whose transport serves this next. -/
structure Facing (served : τ → List UInt8) (live : τ → Prop) (config : Config)
    (stream : List UInt8) (session : Session τ) : Prop where
  config : session.config = config
  live : live session.channel.link
  served : served session.channel.link = stream

variable {config : Config}

private theorem Facing.take (yields : Yields served live)
    (facing : Facing served live config (frame.bytes ++ rest) session) (within : frame.Within config) :
    Unbuffered.receive session.config.timeout session = .ok frame (taking frame session) ∧
      Facing served live config rest (taking frame session) := by
  have next : served session.channel.link =
      frame.tag :: word (4 + frame.body.length) ++ (frame.body ++ rest) := by
    rw [facing.served, Frame.bytes, List.cons_append, List.cons_append, List.append_assoc]
  obtain ⟨link, heard, alive, left⟩ := yields.reads session.config.timeout facing.live next
  obtain ⟨link', body, alive', left'⟩ := yields.reads session.config.timeout alive left
  have header : Transport.read session.channel.link headerSize session.config.timeout =
      (.ok (frame.tag :: word (4 + frame.body.length)), link) := heard
  have same : taking frame session = made (remarked
      (made session (.read headerSize session.config.timeout true) link) .trace
        (headerText frame.tag (4 + frame.body.length)))
      (.read frame.body.length session.config.timeout true) link' := by
    simp only [taking, header, body]
  rw [same]
  refine ⟨receive_whole heard rfl (facing.config ▸ within) body, facing.config, alive', left'⟩

private theorem passing_event {event : Event} (found : frame.event? = some event) :
    passing session frame = notified event ((taking frame session).buses.get event.topic).size
      (learn event (taking frame session)) := by
  simp only [passing, found]

end

/-- Receives messages until one that does not come at just any time. -/
def Unbuffered.receiveOther : Action τ Frame :=
  repeatUntil (Unbuffered.turn fun frame => pure (some frame))
    (Unbuffered.turn_lowers fun _ => Lowers.pure _).progress

/-- A round is to hear a message, and to keep one that does not come at just any time. -/
private theorem turn_hears : (Unbuffered.turn fun frame => pure (some frame) : Action τ _) =
    get >>= fun session => Medium.direct.hear session.config.timeout := by
  have kept (frame : Frame) (general : Bool) :
      (if general then pure none else pure (some frame) : Action τ (Option Frame)) =
        pure (if general then none else some frame) := (apply_ite pure _ _ _).symm
  simp only [Unbuffered.turn, kept]
  rfl

theorem receiveOther_refines :
    Refines Sound (receiveOther : Action τ UInt8) Unbuffered.receiveOther
      fun tag frame buffer => tag = frame.tag ∧ Holds frame.bytes buffer := by
  refine Refines.rounds _ _ ?_
  rw [turn_hears]
  exact Refines.get fun _ _ => hear_refines _

omit [Transport τ] in
private theorem dispatch_announces {frame : Frame} {event : Event}
    (general : frame.general = some (.ok event))
    (session : Session τ) : Unbuffered.dispatch frame session =
      (publish event >>= fun _ => pure true : Action τ Bool) (learn event session) := by
  rw [Unbuffered.dispatch, general]
  rfl

namespace Facing

variable {served : τ → List UInt8} {live : τ → Prop} {config : Config} {session : Session τ}
  {frame : Frame} {rest : List UInt8} {event : Event}

private theorem round (yields : Yields served live)
    (facing : Facing served live config (frame.bytes ++ rest) session) (within : frame.Within config) :
    Unbuffered.turn (fun frame => pure (some frame)) session =
      (do if ← Unbuffered.dispatch frame then return none else return some frame :
        Action τ (Option Frame)) (taking frame session) := by
  change (Unbuffered.receive session.config.timeout >>= _) session = _
  rw [bind_ok (facing.take yields within).1]

private theorem solicited (yields : Yields served live)
    (facing : Facing served live config (frame.bytes ++ rest) session) (within : frame.Within config)
    (general : frame.general = none) :
    Unbuffered.receiveOther session = .ok frame (taking frame session) := by
  refine repeatUntil_some ((facing.round yields within).trans ?_)
  rw [bind_ok (dispatch_solicited general _)]
  rfl

private theorem faulty (yields : Yields served live)
    (facing : Facing served live config (frame.bytes ++ rest) session) (within : frame.Within config)
    {error : Error} (general : frame.general = some (.error error)) :
    Unbuffered.receiveOther session = .error (.failed error) (taking frame session) := by
  refine repeatUntil_error ((facing.round yields within).trans ?_)
  exact bind_error (dispatch_error general _)

private theorem refused (yields : Yields served live)
    (facing : Facing served live config (frame.bytes ++ rest) session) (within : frame.Within config)
    (general : frame.general = some (.ok event))
    {front behind : List (Nat × Subscriber Event Effect)} {entry : Nat × Subscriber Event Effect}
    {reason : String} (active : (session.buses.get event.topic).active = front ++ entry :: behind)
    (accepted : ∀ other ∈ front, (answerTo event other).failure = none)
    (refused : (answerTo event entry).failure = some reason) :
    Unbuffered.receiveOther session = .error (.failed ⟨.subscriber reason, none⟩)
      (notified event (front.length + 1) (learn event (taking frame session))) := by
  refine repeatUntil_error ((facing.round yields within).trans ?_)
  have same : ((learn event (taking frame session)).buses.get event.topic).active =
      front ++ entry :: behind := by
    rw [learn_buses]
    exact active
  have published := publish_until same accepted refused
  exact bind_error ((dispatch_announces general _).trans (bind_error published))

omit [Transport τ] in
private theorem tell (facing : Facing served live config rest session) (event : Event)
    (count : Nat) :
    Facing served live config rest (notified event count (learn event session)) := by
  have link : (notified event count (learn event session)).channel.link = session.channel.link := by
    change (learn event session).channel.link = _
    rw [learn_channel]
  exact ⟨(learn_config ..).trans facing.config, link ▸ facing.live, link ▸ facing.served⟩

/-- A message whose event is accepted is behind the session, and the wait goes on. -/
theorem onward (yields : Yields served live)
    (facing : Facing served live config (frame.bytes ++ rest) session) (within : frame.Within config)
    (general : frame.general = some (.ok event))
    (accepted : ∀ entry ∈ (session.buses.get event.topic).active,
      (answerTo event entry).failure = none) :
    Unbuffered.receiveOther session = Unbuffered.receiveOther (passing session frame) ∧
      Facing served live config rest (passing session frame) ∧
      (passing session frame).buses = told event session.buses := by
  obtain ⟨-, past⟩ := facing.take yields within
  have heard : (learn event (taking frame session)).buses = session.buses := learn_buses ..
  have published : publish event (learn event (taking frame session)) = _ :=
    publish_all (by rw [heard]; exact accepted)
  have passed : passing session frame = notified event
      ((learn event (taking frame session)).buses.get event.topic).size
      (learn event (taking frame session)) := by
    rw [passing_event (Frame.event?_eq_some_iff.mpr general), learn_buses]
  refine ⟨repeatUntil_none ((facing.round yields within).trans ?_), ?_, ?_⟩
  · rw [passed]
    exact bind_ok ((dispatch_announces general _).trans (bind_ok published))
  · rw [passed]
    exact past.tell event _
  · rw [passed, notified_everyone, heard]

/-- Messages whose events are accepted are taken one by one. -/
theorem drain (yields : Yields served live) {frames : List Frame} {session : Session τ}
    (facing : Facing served live config (frames.flatMap Frame.bytes ++ rest) session)
    (within : ∀ frame ∈ frames, frame.Within config)
    (unsolicited : ∀ frame ∈ frames, frame.Unsolicited)
    (accepted : AllAccept session.buses (frames.filterMap Frame.event?)) :
    Unbuffered.receiveOther session = Unbuffered.receiveOther (drained session frames) ∧
      Facing served live config rest (drained session frames) := by
  induction frames generalizing session with
  | nil => exact ⟨rfl, facing⟩
  | cons frame frames ih =>
    obtain ⟨first, within⟩ := List.forall_mem_cons.mp within
    obtain ⟨one, unsolicited⟩ := List.forall_mem_cons.mp unsolicited
    obtain ⟨event, found⟩ := Frame.unsolicited_event.mp one
    rw [List.filterMap_cons_some found] at accepted
    rw [List.flatMap_cons, List.append_assoc] at facing
    obtain ⟨same, past, buses⟩ :=
      facing.onward yields first (Frame.event?_eq_some_iff.mp found) accepted.1
    obtain ⟨others, last⟩ := ih past within unsolicited (by rw [buses]; exact accepted.2)
    exact ⟨same.trans others, last⟩

end Facing

omit [Transport τ] in
private theorem events_length {frames : List Frame}
    (unsolicited : ∀ frame ∈ frames, frame.Unsolicited) :
    (frames.filterMap Frame.event?).length = frames.length := by
  induction frames with
  | nil => rfl
  | cons frame frames ih =>
    obtain ⟨one, others⟩ := List.forall_mem_cons.mp unsolicited
    obtain ⟨event, found⟩ := Frame.unsolicited_event.mp one
    rw [List.filterMap_cons_some found, List.length_cons, List.length_cons, ih others]

private theorem drained_buses (session : Session τ) (frames : List Frame) :
    (drained session frames).buses = (frames.filterMap Frame.event?).foldl
      (fun buses event => told event buses) session.buses := by
  induction frames generalizing session with
  | nil => rfl
  | cons frame frames ih =>
    rw [drained, List.foldl_cons, ← drained, ih]
    cases found : frame.event? with
    | none =>
      rw [List.filterMap_cons_none found]
      simp only [passing, found]
      rfl
    | some event =>
      rw [List.filterMap_cons_some found, List.foldl_cons]
      have heard : (learn event (taking frame session)).buses = session.buses := learn_buses ..
      rw [passing_event found, ← learn_buses event (taking frame session), notified_everyone, heard]

/-- Messages with any other tag are not looked into. -/
def generalTags : List UInt8 :=
  [Tag.notice, Tag.parameterStatus, Tag.notification, Tag.errorResponse]

omit [Transport τ] in
private theorem general_of_tag {frame : Frame} (other : frame.tag ∉ generalTags) :
    frame.general = none := by
  simp only [generalTags, List.mem_cons, List.not_mem_nil, or_false, not_or] at other
  obtain ⟨notice, parameter, notification, report⟩ := other
  exact Frame.general_none notification report notice parameter

/-- So many subscribers of a topic accept an event, and the next one refuses it. -/
structure FirstRefusal (buses : Buses) (event : Event) (count : Nat) (reason : String) : Prop where
  accept : ∀ entry ∈ (buses.get event.topic).active.take count, (answerTo event entry).failure = none
  refuse : ((buses.get event.topic).active[count]?.bind fun entry => (answerTo event entry).failure) =
    some reason

private theorem FirstRefusal.split {buses : Buses} {event : Event} {count : Nat} {reason : String}
    (refusal : FirstRefusal buses event count reason) : ∃ front entry behind,
    (buses.get event.topic).active = front ++ entry :: behind ∧ front.length = count ∧
      (∀ other ∈ front, (answerTo event other).failure = none) ∧
      (answerTo event entry).failure = some reason := by
  obtain ⟨entry, found, refused⟩ := Option.bind_eq_some_iff.mp refusal.refuse
  obtain ⟨inside, rfl⟩ := List.getElem?_eq_some_iff.mp found
  have whole := List.take_append_drop count (buses.get event.topic).active
  rw [List.drop_eq_getElem_cons inside] at whole
  exact ⟨_, _, _, whole.symm, List.length_take_of_le (Nat.le_of_lt inside), refusal.accept, refused⟩

/-- How a wait ends: with this result, in a session that is like this one but for the buffer, and with
this left to read. -/
structure WaitEnds (served : τ → List UInt8) (result : EStateM.Result (Halt Error) (Session τ) UInt8)
    (reached : Except (Halt Error) UInt8) (session : Session τ) (rest : List UInt8) : Prop where
  comes : outcome result = reached
  leaves : ∃ buffer, final result = { session with buffer }
  left : served (final result).channel.link = rest

section

variable {served : τ → List UInt8} {session after : Session τ} {rest : List UInt8}

private theorem waitEnds_failed (sound : Sound session.buffer) {halt : Halt Error}
    (ran : Unbuffered.receiveOther session = .error halt after)
    (left : served after.channel.link = rest) :
    WaitEnds served (receiveOther session) (.error halt) after rest := by
  have refines := receiveOther_refines session session.buffer sound
  rw [ran] at refines
  obtain ⟨buffer, -, whole⟩ := refines
  have same : receiveOther session = .error halt { after with buffer } := whole
  rw [same]
  exact ⟨rfl, ⟨buffer, rfl⟩, left⟩

private theorem waitEnds_done (sound : Sound session.buffer) {frame : Frame}
    (ran : Unbuffered.receiveOther session = .ok frame after)
    (left : served after.channel.link = rest) :
    WaitEnds served (receiveOther session) (.ok frame.tag) after rest ∧
      Holds frame.bytes (final (receiveOther session)).buffer := by
  have refines := receiveOther_refines session session.buffer sound
  rw [ran] at refines
  obtain ⟨tag, buffer, ⟨found, holds⟩, whole⟩ := refines
  have same : receiveOther session = .ok tag { after with buffer } := whole
  rw [same, found]
  exact ⟨⟨rfl, ⟨buffer, rfl⟩, left⟩, holds⟩

end

/-- A wait before which well formed messages lie that may come at any time. If nobody ever refuses an
event, all of them are told, each to all who listen and in the order in which they came, and the first
message of another kind is left in the buffer. The wait ends sooner with the first message that is an
error or that somebody refuses: nobody behind the one who refuses hears of it, and what comes after is
not read. -/
theorem general_messages_drained {served : τ → List UInt8} {live : τ → Prop}
    (yields : Yields served live) (session : Session τ) (sound : Sound session.buffer)
    (alive : live session.channel.link) (earlier : List Frame) (last : Frame) (rest : List UInt8)
    (stream : served session.channel.link = earlier.flatMap Frame.bytes ++ (last.bytes ++ rest))
    (within : ∀ frame ∈ earlier ++ [last], frame.Within session.config)
    (unsolicited : ∀ frame ∈ earlier, frame.Unsolicited) :
    let events := earlier.filterMap Frame.event?
    let before := drained session earlier
    let result := receiveOther session
    events.length = earlier.length ∧
    before.buses = events.foldl (fun buses event => told event buses) session.buses ∧
    (Willing session.buses → last.tag ∉ generalTags →
      WaitEnds served result (.ok last.tag) (taking last before) rest ∧
      (final result).buffer.position = 0 ∧ (final result).buffer.limit = last.bytes.length ∧
      Buffer.chunk (final result).buffer = .ok last.bytes (final result).buffer) ∧
    (AllAccept session.buses events →
      (∀ error, last.general = some (.error error) →
        WaitEnds served result (.error (.failed error)) (taking last before) rest) ∧
      ∀ event count reason, last.general = some (.ok event) →
        FirstRefusal before.buses event count reason →
        WaitEnds served result (.error (.failed ⟨.subscriber reason, none⟩))
          (notified event (count + 1) (learn event (taking last before))) rest) := by
  intro events before result
  obtain ⟨others, one⟩ := List.forall_mem_append.mp within
  have allowed := one last (List.mem_singleton_self last)
  have facing : Facing served live session.config
      (earlier.flatMap Frame.bytes ++ (last.bytes ++ rest)) session := ⟨rfl, alive, stream⟩
  refine ⟨events_length unsolicited, drained_buses session earlier, ?_, ?_⟩
  · intro willing other
    obtain ⟨same, next⟩ := facing.drain yields others unsolicited (willing.allAccept _)
    obtain ⟨ends, holds⟩ := waitEnds_done sound
      (same.trans (next.solicited yields allowed (general_of_tag other)))
      (next.take yields allowed).2.served
    exact ⟨ends, holds.position, holds.limit, holds.chunk⟩
  · intro accepted
    obtain ⟨same, next⟩ := facing.drain yields others unsolicited accepted
    refine ⟨fun error general => ?_, ?_⟩
    · exact waitEnds_failed sound (same.trans (next.faulty yields allowed general))
        (next.take yields allowed).2.served
    · intro event count reason general refusal
      obtain ⟨front, entry, behind, active, rfl, accept, refused⟩ := refusal.split
      exact waitEnds_failed sound (same.trans (next.refused yields allowed general active accept refused))
        ((next.take yields allowed).2.tell event _).served

private def crowdedConfig : Config := { user := "ada" }

private def welcomed : List Frame :=
  [⟨Tag.notice, 'M'.toUInt8 :: (Text.utf8 "one" ++ [0, 0])⟩,
    ⟨Tag.parameterStatus, Text.utf8 "zone" ++ 0 :: (Text.utf8 "utc" ++ [0])⟩,
    ⟨Tag.notification, int32 7 ++ (Text.utf8 "jobs" ++ [0, 0])⟩]

private def unwelcome : Frame := ⟨Tag.notice, 'M'.toUInt8 :: (Text.utf8 "two" ++ [0, 0])⟩

private def unwelcomeEvent : Event := .notice ⟨⟨[(77, "two")], List.pairwise_singleton _ _⟩⟩

private def critic : Observer :=
  ⟨"critic", fun events => if events.length = 2 then some "no more" else none⟩

private def crowded : Session Script :=
  let served := welcomed.flatMap Frame.bytes ++ (unwelcome.bytes ++ [42])
  let alone := Session.new crowdedConfig { served }
  let criticized := (alone.subscribe .notices critic.response).2
  let heeded := (criticized.subscribe .notices (Observer.response ⟨"calm", fun _ => none⟩)).2
  (heeded.subscribe .notifications (Observer.response ⟨"worker", fun _ => none⟩)).2

/-- Three messages for two topics that somebody listens to, and another notice, which the second of
those who listen to notices refuses. -/
theorem general_messages_drained_refused :
    (∀ frame ∈ welcomed ++ [unwelcome], frame.Within crowded.config ∧ frame.Unsolicited) ∧
    AllAccept crowded.buses (welcomed.filterMap Frame.event?) ∧
    outcome (receiveOther crowded) = .error (.failed ⟨.subscriber "no more", none⟩) ∧
    (final (receiveOther crowded)).channel.link.served = [42] ∧
    (final (receiveOther crowded)).channel.deliveries.map Prod.fst =
      ["critic", "calm", "worker", "critic"] := by
  have allowed : ∀ frame ∈ welcomed ++ [unwelcome], frame.Within crowded.config := by decide +kernel
  have unsolicited : ∀ frame ∈ welcomed ++ [unwelcome], frame.Unsolicited := by decide +kernel
  have accepted : AllAccept crowded.buses (welcomed.filterMap Frame.event?) := by decide +kernel
  have general : unwelcome.general = some (.ok unwelcomeEvent) :=
    Frame.event?_eq_some_iff.mp (by decide +kernel)
  have refusal : FirstRefusal (drained crowded welcomed).buses unwelcomeEvent 1 "no more" :=
    ⟨by decide +kernel, by decide +kernel⟩
  obtain ⟨before, -⟩ := List.forall_mem_append.mp unsolicited
  obtain ⟨-, -, -, sooner⟩ := general_messages_drained script_yields crowded (Sound.new _) trivial
    welcomed unwelcome [42] rfl allowed before
  obtain ⟨comes, ⟨buffer, leaves⟩, left⟩ := (sooner accepted).2 _ _ _ general refusal
  have deliveries : (notified unwelcomeEvent 2 (learn unwelcomeEvent (taking unwelcome
      (drained crowded welcomed)))).channel.deliveries.map Prod.fst =
        ["critic", "calm", "worker", "critic"] := by decide +kernel
  refine ⟨fun frame member => ⟨allowed frame member, unsolicited frame member⟩, accepted, comes, left,
    ?_⟩
  rw [leaves]
  exact deliveries

end PgSession.Proofs
