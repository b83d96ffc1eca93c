import PgSession.Proofs.AcceptedFrames
import PgSession.Proofs.MessageReads

/-!
Two sessions side by side, on streams that differ by one message. As long as the message is ahead,
the sessions are the same but for the stream; once one of them has heard it, they differ in what it
leaves behind and in nothing else. An action that does not read keeps them in step wherever they
are.
-/

namespace PgSession.Proofs
open Wire Session

/-- What a subscriber that only watches makes of an event. -/
inductive Mention (event : Event) : Effect → Prop
  | delivered (subscriber : String) : Mention event (.delivered subscriber event)
  | logged (notice : Notice) (target : String) (same : event = .notice notice) :
    Mention event (.logged (notice.record target))

/-- A subscriber that refuses nothing, and makes of an event what it would make of it alone. -/
structure Watches (respond : List Event → Response Effect) : Prop where
  steady : ∀ event earlier, respond (event :: earlier) = ⟨(respond [event]).records, none⟩
  mentions : ∀ event, ∀ effect ∈ (respond [event]).records, Mention event effect

/-- The subscribers of a topic, whatever they have seen so far. -/
def respondents (buses : Buses) (topic : Topic) : List (Nat × (List Event → Response Effect)) :=
  (buses.get topic).active.map fun entry => (entry.1, entry.2.respond)

def Watched (buses : Buses) : Prop :=
  ∀ topic, ∀ entry ∈ respondents buses topic, Watches entry.2

def mentions (event : Event) (buses : Buses) : List Effect :=
  (respondents buses event.topic).flatMap fun entry => (entry.2 [event]).records

/-- The subscribers after an event. -/
def told (event : Event) (buses : Buses) : Buses :=
  buses.set event.topic { buses.get event.topic with
    active := (buses.get event.topic).active.map fun entry =>
      (entry.1, { entry.2 with seen := event :: entry.2.seen }) }

theorem respondents_told (event : Event) (buses : Buses) (topic : Topic) :
    respondents (told event buses) topic = respondents buses topic := by
  unfold respondents told
  rw [get_set]
  split
  · next same =>
    subst same
    rw [List.map_map]
    rfl
  · rfl

theorem mentions_mention {event : Event} {buses : Buses} (watched : Watched buses) {effect : Effect}
    (member : effect ∈ mentions event buses) : Mention event effect := by
  obtain ⟨entry, present, record⟩ := List.mem_flatMap.mp member
  exact (watched event.topic entry present).mentions event effect record

private theorem deliver_watches {ε ρ : Type} (event : ε) (active : List (Nat × Subscriber ε ρ))
    (steady : ∀ entry ∈ active, ∀ earlier,
      entry.2.respond (event :: earlier) = ⟨(entry.2.respond [event]).records, none⟩) :
    Bus.deliver event active =
      (⟨active.flatMap fun entry => (entry.2.respond [event]).records, none⟩,
        active.map fun entry => (entry.1, { entry.2 with seen := event :: entry.2.seen })) := by
  induction active with
  | nil => rfl
  | cons entry rest ih =>
    obtain ⟨id, subscriber⟩ := entry
    have first : subscriber.respond (event :: subscriber.seen) =
        ⟨(subscriber.respond [event]).records, none⟩ :=
      steady (id, subscriber) List.mem_cons_self subscriber.seen
    have others := ih fun entry member => steady entry (List.mem_cons_of_mem _ member)
    simp only [Bus.deliver, first, others]
    rfl

theorem publish_watched {τ : Type} {session : Session τ} (watched : Watched session.buses)
    (event : Event) : publish event session = .ok () { session with
      buses := told event session.buses
      channel := session.channel.note (mentions event session.buses) } := by
  have delivered := deliver_watches event (session.buses.get event.topic).active fun entry member =>
      (watched event.topic (entry.1, entry.2.respond) (List.mem_map_of_mem member)).steady event
  have same : mentions event session.buses = (session.buses.get event.topic).active.flatMap
      fun entry => (entry.2.respond [event]).records := List.flatMap_map ..
  simp only [publish, Bus.publish, delivered, same]
  rfl

/-- The same session on another stream. -/
def serving (stream : List UInt8) (session : Session Script) : Session Script :=
  { session with channel :=
    { session.channel with link := { session.channel.link with served := stream } } }

/-- What hearing a frame may leave in the journal: the calls that read it, the record of its header,
and what subscribers make of its event. -/
inductive Incidental (frame : Frame) : Effect → Prop
  | read (count timeout : Nat) : Incidental frame (.call (.read count timeout true))
  | header (speaker : String) : Incidental frame (.logged
      ⟨.trace, s!"{speaker} {headerText frame.tag (4 + frame.body.length)}"⟩)
  | mention {event : Event} (general : frame.general = some (.ok event)) {effect : Effect}
      (mention : Mention event effect) : Incidental frame effect

/-- The second session has heard a frame that the first has not, and differs from it in nothing but
what the frame leaves behind. -/
structure Overheard (frame : Frame) (session session' : Session Script) : Prop where
  config : session'.config = session.config
  link : session'.channel.link = session.channel.link
  encrypted : session'.channel.encrypted = session.channel.encrypted
  status : session'.status = session.status
  key : session'.key = session.key
  parameters : ∀ name, (∀ status, frame.parameter? = some status → status.name ≠ name) →
    session'.parameters.find? name = session.parameters.find? name
  journal : ∃ before block after, session.channel.journal = before ++ after ∧
    session'.channel.journal = before ++ block ++ after ∧ ∀ effect ∈ block, Incidental frame effect
  watched : Watched session.buses
  respondents : ∀ topic, respondents session'.buses topic = respondents session.buses topic

/-- A frame that is put into a stream. -/
structure Insertion where
  config : Config
  front : List UInt8
  frame : Frame
  rest : List UInt8

/-- The frame is ahead of the second session by so many bytes, which both are yet to read, and they
have read everything before that without a failure. -/
structure Ahead (insertion : Insertion) (left : List UInt8) (session session' : Session Script) :
    Prop where
  config : session.config = insertion.config
  served : session.channel.link.served = left ++ insertion.rest
  same : session' = serving (left ++ insertion.frame.bytes ++ insertion.rest) session
  position : taken session.channel.calls + left.length = insertion.front.length
  heard : ∀ count timeout, .read count timeout false ∉ session.channel.calls
  watched : Watched session.buses

/-- Where the frame is. -/
inductive Place where
  | ahead (left : List UInt8)
  | behind

def Aligned (insertion : Insertion) : Place → Session Script → Session Script → Prop
  | .ahead left => Ahead insertion left
  | .behind => Overheard insertion.frame

variable {insertion : Insertion} {place : Place} {session session' : Session Script}

/-- The session after effects that only the journal knows of. -/
def noted (session : Session Script) (effects : List Effect) : Session Script :=
  { session with channel := session.channel.note effects }

/-- No call among the effects reads. -/
def Mute (effects : List Effect) : Prop :=
  ∀ count timeout succeeded, .call (.read count timeout succeeded) ∉ effects

private theorem taken_unread {calls : List Call}
    (absent : ∀ count timeout succeeded, .read count timeout succeeded ∉ calls) :
    taken calls = 0 := by
  induction calls with
  | nil => rfl
  | cons call calls ih =>
    have others := ih fun count timeout succeeded member =>
      absent count timeout succeeded (List.mem_cons_of_mem _ member)
    have first : takenBy call = 0 := by
      cases call with
      | read count timeout succeeded =>
        exact absurd List.mem_cons_self (absent count timeout succeeded)
      | write | close | upgrade => rfl
    rw [taken, first, others]

private theorem Mute.calls {effects : List Effect} (mute : Mute effects) (count timeout : Nat)
    (succeeded : Bool) : .read count timeout succeeded ∉ effects.filterMap Effect.call? := by
  intro member
  obtain ⟨effect, present, called⟩ := List.mem_filterMap.mp member
  cases effect with
  | call made =>
    cases called
    exact mute count timeout succeeded present
  | logged | delivered => cases called

theorem Overheard.noted {frame : Frame} (heard : Overheard frame session session')
    (effects : List Effect) : Overheard frame (noted session effects) (noted session' effects) := by
  obtain ⟨before, block, after, journal, journal', incidental⟩ := heard.journal
  refine { heard with journal := ⟨before, block, after ++ effects, ?_, ?_, incidental⟩ }
  · exact (congrArg (· ++ effects) journal).trans (List.append_assoc ..)
  · exact (congrArg (· ++ effects) journal').trans (List.append_assoc ..)

private theorem Aligned.noted (aligned : Aligned insertion place session session')
    {effects : List Effect} (mute : Mute effects) :
    Aligned insertion place (noted session effects) (noted session' effects) := by
  cases place with
  | ahead left =>
    obtain ⟨config, served, rfl, position, heard, watched⟩ := aligned
    have absent := mute.calls
    have calls : (Proofs.noted session effects).channel.calls =
        session.channel.calls ++ effects.filterMap Effect.call? := List.filterMap_append ..
    refine ⟨config, served, rfl, ?_, ?_, watched⟩
    · rw [calls, taken_append, taken_unread absent]
      exact position
    · intro count timeout member
      rw [calls] at member
      exact (List.mem_append.mp member).elim (heard count timeout) (absent count timeout false)
  | behind => exact Overheard.noted aligned effects

/-- A change of the link that has nothing to do with what is served. -/
theorem Aligned.relinked (aligned : Aligned insertion place session session')
    (change : Script → Script) (encrypted : Bool → Bool)
    (served : ∀ link, (change link).served = link.served)
    (apart : ∀ link stream, change { link with served := stream } =
      { change link with served := stream }) :
    let changed (session : Session Script) : Session Script := { session with channel :=
      { session.channel with
        link := change session.channel.link
        encrypted := encrypted session.channel.encrypted } }
    Aligned insertion place (changed session) (changed session') := by
  intro changed
  cases place with
  | ahead left =>
    obtain ⟨config, stream, rfl, position, heard, watched⟩ := aligned
    refine ⟨config, (served _).trans stream, ?_, position, heard, watched⟩
    exact congrArg (fun link => { session with channel :=
      { session.channel with link, encrypted := encrypted session.channel.encrypted } }) (apart _ _)
  | behind =>
    exact { aligned with
      link := congrArg change aligned.link
      encrypted := congrArg encrypted aligned.encrypted }

/-- A change of what the session knows that the frame has no part in. -/
theorem Aligned.changed (aligned : Aligned insertion place session session')
    (change : Session Script → Session Script)
    (apart : ∀ stream session, change (serving stream session) = serving stream (change session))
    (channel : ∀ session, (change session).channel = session.channel)
    (config : ∀ session, (change session).config = session.config)
    (buses : ∀ session, (change session).buses = session.buses)
    (behind : ∀ {frame session session'}, Overheard frame session session' →
      (change session').status = (change session).status ∧
      (change session').key = (change session).key ∧
      ∀ name, (∀ status, frame.parameter? = some status → status.name ≠ name) →
        (change session').parameters.find? name = (change session).parameters.find? name) :
    Aligned insertion place (change session) (change session') := by
  cases place with
  | ahead left =>
    obtain ⟨same, stream, rfl, position, heard, watched⟩ := aligned
    refine ⟨(config _).trans same, ?_, apart _ _, ?_, ?_, ?_⟩
    · rw [channel]
      exact stream
    · rw [channel]
      exact position
    · rw [channel]
      exact heard
    · rw [buses]
      exact watched
  | behind =>
    obtain ⟨status, key, parameters⟩ := behind aligned
    have heard : Overheard insertion.frame session session' := aligned
    refine ⟨?_, ?_, ?_, status, key, parameters, ?_, ?_, ?_⟩
    · rw [config, config, heard.config]
    · rw [channel, channel, heard.link]
    · rw [channel, channel, heard.encrypted]
    · rw [channel, channel]
      exact heard.journal
    · rw [buses]
      exact heard.watched
    · rw [buses, buses]
      exact heard.respondents

theorem Aligned.config (aligned : Aligned insertion place session session') :
    session'.config = session.config := by
  cases place with
  | ahead left => rw [aligned.same]; rfl
  | behind => exact Overheard.config aligned

private theorem Aligned.link (aligned : Aligned insertion place session session') :
    ∃ stream, session'.channel.link = { session.channel.link with served := stream } := by
  cases place with
  | ahead left =>
    rw [aligned.same]
    exact ⟨_, rfl⟩
  | behind => exact ⟨_, Overheard.link aligned⟩

private theorem Aligned.encrypted (aligned : Aligned insertion place session session') :
    session'.channel.encrypted = session.channel.encrypted := by
  cases place with
  | ahead left => rw [aligned.same]; rfl
  | behind => exact Overheard.encrypted aligned

private theorem Aligned.identity (aligned : Aligned insertion place session session') :
    session'.identity = session.identity := by
  cases place with
  | ahead left => rw [aligned.same]; rfl
  | behind =>
    have heard : Overheard insertion.frame session session' := aligned
    unfold Session.identity
    rw [heard.config, heard.link]

private theorem Aligned.watched (aligned : Aligned insertion place session session') :
    Watched session.buses := by
  cases place with
  | ahead left => exact Ahead.watched aligned
  | behind => exact Overheard.watched aligned

private theorem Aligned.respondents (aligned : Aligned insertion place session session')
    (topic : Topic) : respondents session'.buses topic = respondents session.buses topic := by
  cases place with
  | ahead left => rw [aligned.same]; rfl
  | behind => exact Overheard.respondents aligned topic

private theorem Aligned.watched' (aligned : Aligned insertion place session session') :
    Watched session'.buses :=
  fun topic entry member => aligned.watched topic entry (aligned.respondents topic ▸ member)

private theorem Aligned.mentions (aligned : Aligned insertion place session session')
    (event : Event) : mentions event session'.buses = mentions event session.buses := by
  rw [Proofs.mentions, aligned.respondents]
  rfl

private theorem Watched.told {buses : Buses} (watched : Watched buses) (event : Event) :
    Watched (told event buses) :=
  fun topic entry member => watched topic entry (respondents_told event buses topic ▸ member)

private theorem Aligned.told (aligned : Aligned insertion place session session') (event : Event) :
    Aligned insertion place { session with buses := told event session.buses }
      { session' with buses := told event session'.buses } := by
  cases place with
  | ahead left =>
    obtain ⟨config, served, rfl, position, heard, watched⟩ := aligned
    exact ⟨config, served, rfl, position, heard, watched.told event⟩
  | behind =>
    have heard : Overheard insertion.frame session session' := aligned
    refine { heard with watched := heard.watched.told event, respondents := fun topic => ?_ }
    rw [respondents_told, respondents_told, heard.respondents]

private theorem Aligned.learn (aligned : Aligned insertion place session session') (event : Event) :
    Aligned insertion place (learn event session) (learn event session') := by
  cases event with
  | notice | notification => exact aligned
  | parameterStatus status =>
    refine aligned.changed (Proofs.learn (.parameterStatus status)) (fun _ _ => rfl)
      (fun _ => rfl) (fun _ => rfl) (fun _ => rfl) fun heard => ⟨heard.status, heard.key, ?_⟩
    intro name other
    simp only [Proofs.learn, Parameters.find?_set, heard.parameters name other]

theorem Aligned.remarked (aligned : Aligned insertion place session session') (level : Log.Level)
    (text : String) : Aligned insertion place (remarked session level text)
      (remarked session' level text) := by
  unfold Proofs.remarked
  rw [aligned.identity]
  exact aligned.noted (by simp [Mute])

/-- Both runs came to the same, and the frame is still in its place. -/
abbrev InStep {α : Type} (insertion : Insertion) (place : Place) :
    EStateM.Result (Halt Error) (Session Script) α →
      EStateM.Result (Halt Error) (Session Script) α → Prop :=
  Abreast (Aligned insertion place) fun _ => Aligned insertion place

/-- An action that comes to the same in both sessions, and leaves the frame where it is. -/
abbrev Keeps {α : Type} (insertion : Insertion) (place : Place) (action : Action Script α) : Prop :=
  Lockstep (Aligned insertion place) (fun _ => Aligned insertion place) action action

namespace Keeps

variable {α : Type}

theorem say (level : Log.Level) (text : String) : Keeps insertion place (say level text) := by
  refine ⟨fun {session session'} aligned => ?_⟩
  rw [say_eq, say_eq]
  exact .ok (aligned.remarked level text)

/-- A call whose outcome does not depend on what is served, and which takes nothing from it. -/
theorem perform (call : Bool → Call) (run : Script → Except IoError α × Script)
    (mute : ∀ succeeded, Mute [.call (call succeeded)])
    (apart : ∀ link stream, run { link with served := stream } =
      ((run link).1, { (run link).2 with served := stream })) :
    Keeps insertion place (onChannel (Channel.perform call run)) := by
  refine ⟨fun {session session'} aligned => ?_⟩
  obtain ⟨stream, link⟩ := aligned.link
  have same : (run session'.channel.link).1 = (run session.channel.link).1 := by rw [link, apart]
  have changed := aligned.relinked (fun link => (run link).2) id
    (fun link => congrArg (Script.served ∘ Prod.snd) (apart link link.served))
    (fun link stream => congrArg Prod.snd (apart link stream))
  cases came : (run session.channel.link).1 with
  | ok value =>
    rw [perform_ok (Prod.ext came rfl), perform_ok (Prod.ext (same.trans came) rfl)]
    exact .ok (changed.noted (mute true))
  | error error =>
    rw [perform_failed (Prod.ext came rfl), perform_failed (Prod.ext (same.trans came) rfl)]
    exact .failed (changed.noted (mute false))

theorem write (bytes : List UInt8) (timeout : Nat) :
    Keeps insertion place (onChannel (Channel.write bytes timeout)) := by
  refine ⟨fun {session session'} aligned => ?_⟩
  have keeps : Keeps insertion place (onChannel (Channel.perform
      (.write session.channel.encrypted bytes timeout) (Transport.write · bytes timeout))) :=
    perform _ _ (by simp [Mute]) fun _ _ => rfl
  change InStep insertion place _ (onChannel (Channel.perform
    (.write session'.channel.encrypted bytes timeout) (Transport.write · bytes timeout)) session')
  rw [aligned.encrypted]
  exact keeps.run aligned

theorem close : Keeps insertion place (onChannel Channel.close) :=
  perform .close Transport.close (by simp [Mute]) fun _ _ => rfl

theorem upgrade : Keeps insertion place (onChannel Channel.upgrade) := by
  refine ⟨fun {session session'} aligned => ?_⟩
  obtain ⟨stream, link⟩ := aligned.link
  have apart : (Transport.upgrade session'.channel.link).1 =
      (Transport.upgrade session.channel.link).1 := by
    rw [link]
    rfl
  cases came : (Transport.upgrade session.channel.link).1 with
  | ok nothing =>
    rw [upgrade_ok (Prod.ext came rfl), upgrade_ok (Prod.ext (apart.trans came) rfl)]
    refine .ok (Aligned.relinked (aligned.noted ?_) id (fun _ => true) (fun _ => rfl) fun _ _ => rfl)
    simp [Mute]
  | error error =>
    rw [upgrade_failed (Prod.ext came rfl), upgrade_failed (Prod.ext (apart.trans came) rfl)]
    exact .failed (aligned.noted (by simp [Mute]))

theorem publish (event : Event) : Keeps insertion place (publish event) := by
  refine ⟨fun {session session'} aligned => ?_⟩
  rw [publish_watched aligned.watched, publish_watched aligned.watched', aligned.mentions]
  refine .ok (aligned.told event |>.noted ?_)
  intro count timeout succeeded member
  cases mentions_mention aligned.watched member

theorem dispatch (frame : Frame) : Keeps insertion place (Unbuffered.dispatch frame) := by
  unfold Unbuffered.dispatch
  split
  · exact .pure false
  · next event general =>
    refine .bind (.ensure event) fun event => ?_
    exact .bind (.modify fun aligned => aligned.learn event) fun _ =>
      .bind (publish event) fun _ => .pure true

theorem send (message : FrontendMessage) : Keeps insertion place (Unbuffered.send message) := by
  refine .ite (.bind (say _ _) fun _ => .get fun session session' aligned => ?_)
    ⟨fun aligned => .crashed aligned⟩
  rw [aligned.config]
  exact write _ _

/-- Talk does not read, unless it asks for an answer that is no message. -/
theorem talks : TalkRelates False (Aligned insertion place) (fun _ => Aligned insertion place)
    .direct .direct where
  ssl aligned := by rw [aligned.config]
  timeout aligned := by rw [aligned.config]
  say _ := say _ _
  speak _ := .speak Aligned.config fun aligned _ => (send _).run aligned
  answer := False.elim
  upgrade := False.elim
  close := False.elim

theorem messages : MessagesRelate (Aligned insertion place) (fun _ => Aligned insertion place)
    .direct .direct fun frame frame' session session' =>
      frame' = frame ∧ Aligned insertion place session session' where
  tag held := by rw [held.1]
  decode reader _ _ _ _ := fun ⟨same, aligned⟩ => same ▸ (Lockstep.ensure _).run aligned
  note fact _ _ aligned := by
    cases fact with
    | nothing => exact aligned
    | key key =>
      exact aligned.changed (Fact.key key).note (fun _ _ => rfl) (fun _ => rfl) (fun _ => rfl)
        (fun _ => rfl) fun heard => ⟨heard.status, rfl, heard.parameters⟩
    | status status =>
      exact aligned.changed (Fact.status status).note (fun _ _ => rfl) (fun _ => rfl) (fun _ => rfl)
        (fun _ => rfl) fun heard => ⟨rfl, heard.key, heard.parameters⟩
  released held := held.2

theorem rules (rules : Rules α) (name : String) (frame : Frame) :
    Keeps insertion place (rules.act .direct name frame) :=
  ⟨fun aligned => messages.rules talks name rules ⟨rfl, aligned⟩⟩

theorem guarded (stage : Stage) {action : Action Script α} (keeps : Keeps insertion place action) :
    Keeps insertion place (guarded stage action) :=
  Lockstep.guarded stage (fun _ => say _ _) close keeps

end Keeps

theorem Aligned.shut (aligned : Aligned insertion place session session') (stage : Stage)
    (error : Error) : Aligned insertion place (shut stage error session)
      (shut stage error session') := by
  have failed (session : Session Script) :
      (throw (.failed error) : Action Script Unit) session = .error (.failed error) session := rfl
  have fails : Keeps insertion place (throw (.failed error) : Action Script Unit) := .fail error
  have kept := (Keeps.guarded stage fails).run aligned
  rw [guarded_failed stage (failed _), guarded_failed stage (failed _)] at kept
  cases kept with
  | failed aligned => exact aligned

end PgSession.Proofs
