import PgSession.Proofs.Insertion
import PgSession.Proofs.TextRoundTrip

/-!
A message that may come at any time makes no difference to a handshake. Wherever a session begins to
receive a message, one more may be put into the stream: the handshake ends as it would have, having
said the same, and leaves the same bytes unread.
-/

namespace PgSession.Proofs
open Wire Session

variable {α β : Type} {insertion : Insertion} {place : Place} {session session' : Session Script}

/-- Whole messages come before the frame, or it has been heard. -/
inductive Between : Place → Prop
  | ahead (whole : List Frame) (fit : ∀ frame ∈ whole, frame.Fits) :
    Between (.ahead (whole.flatMap Frame.bytes))
  | behind : Between .behind

/-- Both runs came to the same, and if it is a success, they are between messages. -/
inductive Coupled (insertion : Insertion) : EStateM.Result (Halt Error) (Session Script) α →
    EStateM.Result (Halt Error) (Session Script) α → Prop
  | ok {value : α} {place : Place} {session session' : Session Script} (between : Between place)
    (aligned : Aligned insertion place session session') :
    Coupled insertion (.ok value session) (.ok value session')
  | error {halt : Halt Error} {place : Place} {session session' : Session Script}
    (aligned : Aligned insertion place session session') :
    Coupled insertion (.error halt session) (.error halt session')

/-- Begun between messages, the action comes to the same in both sessions. -/
structure Couples (insertion : Insertion) (action : Action Script α) : Prop where
  run : ∀ {place session session'}, Between place → Aligned insertion place session session' →
    Coupled insertion (action session) (action session')

theorem Coupled.ofInStep {result result' : EStateM.Result (Halt Error) (Session Script) α}
    (between : Between place) (inStep : InStep insertion place result result') :
    Coupled insertion result result' := by
  cases inStep with
  | ok aligned => exact .ok between aligned
  | failed aligned | crashed aligned => exact .error aligned

theorem Keeps.couples {action : Action Script α} (keeps : ∀ place, Keeps insertion place action) :
    Couples insertion action := ⟨fun between aligned => .ofInStep between ((keeps _).run aligned)⟩

theorem Coupled.bind {action : Action Script α} {next : α → Action Script β}
    (first : Coupled insertion (action session) (action session'))
    (rest : ∀ value, Couples insertion (next value)) :
    Coupled insertion ((action >>= next) session) ((action >>= next) session') := by
  simp only [Bind.bind, EStateM.bind]
  generalize action session = result, action session' = result' at first
  cases first with
  | ok between aligned => exact (rest _).run between aligned
  | error aligned => exact .error aligned

/-- What follows may look at the settings. -/
theorem Coupled.get {next : Session Script → Action Script α} (same : next session' = next session)
    (coupled : Coupled insertion (next session session) (next session session')) :
    Coupled insertion ((get >>= next) session) ((get >>= next) session') := by
  change Coupled insertion (next session session) (next session' session')
  rw [same]
  exact coupled

theorem Couples.bind {action : Action Script α} {next : α → Action Script β}
    (couples : Couples insertion action) (rest : ∀ value, Couples insertion (next value)) :
    Couples insertion (action >>= next) :=
  ⟨fun between aligned => (couples.run between aligned).bind rest⟩

/-- What comes before a read may happen in the middle of things. -/
theorem InStep.bind {action : Action Script α} {next : α → Action Script β}
    (first : InStep insertion place (action session) (action session'))
    (rest : ∀ value session session', Aligned insertion place session session' →
      Coupled insertion (next value session) (next value session')) :
    Coupled insertion ((action >>= next) session) ((action >>= next) session') := by
  simp only [Bind.bind, EStateM.bind]
  generalize action session = result, action session' = result' at first
  cases first with
  | ok aligned => exact rest _ _ _ aligned
  | failed aligned | crashed aligned => exact .error aligned

theorem script_reads {script : Script} {bytes more : List UInt8}
    (served : script.served = bytes ++ more) (timeout : Nat) :
    Transport.read script bytes.length timeout = (.ok bytes, { script with served := more }) := by
  change script.read bytes.length = _
  rw [Script.read, served, if_pos (by simp), List.take_left, List.drop_left]

/-- What was read and what is left are all that was served. -/
theorem heard_served (script : Script) (calls : List Call) :
    heard script calls ++ (replay script calls).served = script.served := by
  induction calls generalizing script with
  | nil => rfl
  | cons call calls ih =>
    have first : heardBy script call ++ (afterCall script call).served = script.served := by
      cases call with
      | read count timeout succeeded =>
        by_cases enough : count ≤ script.served.length
        · have ran : Transport.read script count timeout = (.ok _, _) := if_pos enough
          simp only [heardBy, afterCall, ran]
          exact List.take_append_drop count script.served
        · have ran : Transport.read script count timeout = (.error _, _) := if_neg enough
          simp only [heardBy, afterCall, ran]
          rfl
      | write | close | upgrade => rfl
    rw [← first, ← ih (afterCall script call), ← List.append_assoc]
    rfl

/-- As long as the frame is ahead, both read what is left before it. -/
theorem Ahead.read {bytes more : List UInt8}
    (ahead : Ahead insertion (bytes ++ more) session session') (timeout : Nat) : ∃ link link',
      Transport.read session.channel.link bytes.length timeout = (.ok bytes, link) ∧
      Transport.read session'.channel.link bytes.length timeout = (.ok bytes, link') ∧
      Ahead insertion more (made session (.read bytes.length timeout true) link)
        (made session' (.read bytes.length timeout true) link') := by
  obtain ⟨config, served, rfl, position, heard, watched⟩ := ahead
  rw [List.append_assoc] at served
  have calls (link : Script) : (made session (.read bytes.length timeout true) link).channel.calls =
      session.channel.calls ++ [.read bytes.length timeout true] := List.filterMap_append ..
  refine ⟨_, _, script_reads served timeout, script_reads ?_ timeout, config, rfl, rfl, ?_, ?_,
    watched⟩
  · simp only [serving, List.append_assoc]
  · rw [calls, taken_append, ← position, List.length_append]
    exact Nat.add_assoc ..
  · intro count timeout member
    rw [calls] at member
    rcases List.mem_append.mp member with earlier | last
    · exact heard count timeout earlier
    · cases List.mem_singleton.mp last

theorem read_coupled {count : Nat} {bytes : List UInt8} (size : bytes.length = count)
    {whole : List Frame} (fit : ∀ frame ∈ whole, frame.Fits)
    (ahead : Ahead insertion (bytes ++ whole.flatMap Frame.bytes) session session') (timeout : Nat) :
    Coupled insertion (onChannel (Channel.read count timeout) session)
      (onChannel (Channel.read count timeout) session') := by
  subst size
  obtain ⟨link, link', heard, heard', later⟩ := ahead.read timeout
  rw [read_ok heard, read_ok heard']
  exact .ok (.ahead whole fit) later

/-- Once the frame is behind, both read the same. -/
theorem Keeps.read (count timeout : Nat) :
    Keeps insertion .behind (onChannel (Channel.read count timeout)) := by
  refine ⟨fun {session session'} aligned => ?_⟩
  have heard : Overheard insertion.frame session session' := aligned
  have same : Transport.read session'.channel.link count timeout =
      Transport.read session.channel.link count timeout := by rw [heard.link]
  have after (call : Call) (link : Script) :
      Overheard insertion.frame (made session call link) (made session' call link) := by
    have linked : Overheard insertion.frame { session with channel := { session.channel with link } }
      { session' with channel := { session'.channel with link } } := { heard with link := rfl }
    exact linked.noted [.call call]
  cases came : Transport.read session.channel.link count timeout with
  | mk result link =>
    cases result with
    | ok bytes =>
      rw [read_ok came, read_ok (same.trans came)]
      exact .ok (after _ _)
    | error error =>
      rw [read_failed came, read_failed (same.trans came)]
      exact .failed (after _ _)

theorem Keeps.receive (timeout : Nat) : Keeps insertion .behind (Unbuffered.receive timeout) := by
  refine .bind (.bind (read _ _) fun header => .get fun session session' aligned => ?_) fun _ =>
    .bind (say _ _) fun _ => .bind (read _ _) fun _ => .pure _
  rw [aligned.config]
  exact .ite (.fail _) (.ite (.fail _) (.pure _))

/-- The length field of a frame says how long its body is. -/
private theorem lengthIn_header {frame : Frame} (fits : frame.Fits) :
    lengthIn (frame.tag :: word (4 + frame.body.length)) = (4 + frame.body.length : Nat) :=
  lengthIn_bytes frame fits []

/-- A message before the frame is received by both, or is too large for both. -/
theorem receive_coupled {first : Frame} {others : List Frame}
    (fit : ∀ frame ∈ first :: others, frame.Fits)
    (ahead : Ahead insertion ((first :: others).flatMap Frame.bytes) session session')
    (timeout : Nat) :
    Coupled insertion (Unbuffered.receive timeout session) (Unbuffered.receive timeout session') := by
  have fits := fit first List.mem_cons_self
  have config : session'.config = session.config := by rw [ahead.same]; rfl
  have split : Ahead insertion (first.tag :: word (4 + first.body.length) ++
      (first.body ++ others.flatMap Frame.bytes)) session session' := by
    simpa [Frame.bytes] using ahead
  obtain ⟨link, link', heard, heard', middle⟩ := split.read timeout
  have aligned : Aligned insertion (.ahead _) _ _ := middle
  rcases Nat.lt_or_ge session.config.maxMessageSize (1 + (4 + first.body.length)) with large | within
  · have header := receiveHeader_heard heard
    have header' := receiveHeader_heard heard'
    rw [lengthIn_header fits, if_neg (by omega), Int.toNat_natCast] at header header'
    rw [if_pos large] at header
    rw [config, if_pos large] at header'
    rw [Unbuffered.receive, bind_error header, bind_error header']
    exact .error aligned
  · have remarked : Ahead insertion _ _ _ :=
      aligned.remarked .trace (headerText first.tag (4 + first.body.length))
    obtain ⟨link, link', rest, rest', later⟩ := remarked.read timeout
    rw [receive_whole heard rfl ⟨fits, within⟩ rest,
      receive_whole heard' rfl ⟨fits, config ▸ within⟩ rest']
    exact .ok (.ahead others fun frame member => fit frame (List.mem_cons_of_mem _ member)) later

private theorem learn_parameters {event : Event}
    (general : insertion.frame.general = some (.ok event)) (name : String)
    (other : ∀ status, insertion.frame.parameter? = some status → status.name ≠ name) :
    (learn event session).parameters.find? name = session.parameters.find? name := by
  rcases Frame.general_event general with ⟨value, -, -, rfl⟩ | ⟨value, -, -, rfl⟩ |
    ⟨status, same, read, rfl⟩
  · rfl
  · rfl
  · have another : name ≠ status.name := Ne.symm (other status (Frame.reads?_some same read))
    exact (Parameters.find?_set ..).trans (if_neg another)

/-- A message that may come at any time is told to the subscribers, and nothing else comes of it. -/
theorem dispatch_event {frame : Frame} {event : Event} (general : frame.general = some (.ok event))
    (watched : Watched session.buses) : Unbuffered.dispatch frame session = .ok true
      (noted { learn event session with buses := told event session.buses }
        (mentions event session.buses)) := by
  have watched' : Watched (learn event session).buses := (learn_buses event session).symm ▸ watched
  have published := publish_watched watched' event
  rw [learn_buses] at published
  have learnt : (modify (learn event) : Action Script Unit) session = .ok () (learn event session) := rfl
  rw [Unbuffered.dispatch, general]
  change (modify (learn event) >>= fun _ => publish event >>= fun _ => pure true) session = _
  rw [bind_ok learnt, bind_ok published]
  rfl

/-- The frame is received where it was put, and the other session is yet to read what follows. -/
theorem receive_extra (ahead : Ahead insertion [] session session')
    (within : insertion.frame.Within session.config) (timeout : Nat) : ∃ effects,
      Unbuffered.receive timeout session' = .ok insertion.frame (noted session effects) ∧
      ∀ effect ∈ effects, Incidental insertion.frame effect := by
  obtain ⟨-, served, rfl, -, -, -⟩ := ahead
  generalize insertion.frame = frame, insertion.rest = rest at *
  obtain rfl : session.channel.link.served = rest := served
  let ahead := serving ([] ++ frame.bytes ++ session.channel.link.served) session
  have first : ahead.channel.link.served =
      frame.tag :: word (4 + frame.body.length) ++ (frame.body ++ session.channel.link.served) := by
    simp [ahead, serving, Frame.bytes]
  have received := receive_whole (script_reads first timeout) rfl within (script_reads rfl timeout)
  refine ⟨[.call (.read headerSize timeout true), .logged ⟨.trace,
    s!"{session.identity} {headerText frame.tag (4 + frame.body.length)}"⟩,
    .call (.read frame.body.length timeout true)], ?_, ?_⟩
  · rw [received]
    simp only [noted, made, remarked, Channel.note, List.append_assoc]
    rfl
  · simp only [List.forall_mem_cons]
    exact ⟨.read _ _, .header _, .read _ _, fun _ absent => absurd absent List.not_mem_nil⟩

/-- The session that comes to the frame hears it, and goes on from where the other one is. -/
theorem turn_extra (act : Frame → Action Script (Option α))
    (ahead : Ahead insertion [] session session') (unsolicited : insertion.frame.Unsolicited)
    (within : insertion.frame.Within insertion.config) :
    ∃ after, Unbuffered.turn act session' = .ok none after ∧
      Overheard insertion.frame session after := by
  obtain ⟨event, general⟩ := Frame.unsolicited_iff.mp unsolicited
  obtain ⟨effects, received, incidental⟩ :=
    receive_extra ahead (ahead.config ▸ within) session'.config.timeout
  have watched : Watched (noted session effects).buses := ahead.watched
  refine ⟨_, (bind_ok received).trans (bind_ok (dispatch_event general watched)), ?_⟩
  refine ⟨by simp [noted], by simp [noted, Channel.note], by simp [noted, Channel.note],
    by simp [noted], by simp [noted], learn_parameters general, ?_, watched, respondents_told _ _⟩
  refine ⟨session.channel.journal, effects ++ mentions event session.buses, [],
    (List.append_nil _).symm, by simp [noted, Channel.note], ?_⟩
  intro effect member
  rcases List.mem_append.mp member with read | mentioned
  · exact incidental effect read
  · exact .mention general (mentions_mention ahead.watched mentioned)

/-- A loop whose second run may take a round more, as long as they then go on together. -/
theorem repeatUntil_couples {step : Action Script (Option α)} {progress : Progresses step}
    (meets : ∀ {place session session'}, Between place → Aligned insertion place session session' →
      ∃ next, repeatUntil step progress session' = repeatUntil step progress next ∧
        Coupled insertion (step session) (step next)) :
    Couples insertion (repeatUntil step progress) := by
  have follows : ∀ {session result place session'}, step session = result → Between place →
      Aligned insertion place session session' → ∃ next result', step next = result' ∧
        repeatUntil step progress session' = repeatUntil step progress next ∧
        Coupled insertion result result' := by
    rintro session _ place session' rfl between aligned
    obtain ⟨next, skipped, coupled⟩ := meets between aligned
    exact ⟨next, _, rfl, skipped, coupled⟩
  -- The rounds are those of the first run; the second may be a round behind at any of them.
  refine ⟨fun {place session session'} between aligned => ?_⟩
  refine repeatUntil_induction step progress (motive := fun session result =>
    ∀ {place session'}, Between place → Aligned insertion place session session' →
      Coupled insertion result (repeatUntil step progress session')) ?_ ?_ ?_ session between aligned
  · intro session value _ ran place session' between aligned
    obtain ⟨next, _, stepped, skipped, coupled⟩ := follows ran between aligned
    cases coupled with
    | ok between aligned =>
      rw [skipped, repeatUntil_some stepped]
      exact .ok between aligned
  · intro session halt _ ran place session' between aligned
    obtain ⟨next, _, stepped, skipped, coupled⟩ := follows ran between aligned
    cases coupled with
    | error aligned =>
      rw [skipped, repeatUntil_error stepped]
      exact .error aligned
  · intro session _ result ran ih place session' between aligned
    obtain ⟨next, _, stepped, skipped, coupled⟩ := follows ran between aligned
    cases coupled with
    | ok between aligned =>
      rw [skipped, repeatUntil_none stepped]
      exact ih between aligned

section

variable {act : Frame → Action Script (Option α)}
  (keeps : ∀ frame place, Keeps insertion place (act frame))
include keeps

/-- Once both have received a message, they do the same with it. -/
theorem turn_coupled (config : session'.config = session.config)
    (received : ∀ timeout, Coupled insertion (Unbuffered.receive timeout session)
      (Unbuffered.receive timeout session')) :
    Coupled insertion (Unbuffered.turn act session) (Unbuffered.turn act session') := by
  have after : ∀ frame, Couples insertion (do
      if ← Unbuffered.dispatch frame then return none else act frame) := by
    intro frame
    exact Keeps.couples fun place =>
      .bind (Keeps.dispatch frame) fun _ => .ite (.pure _) (keeps frame place)
  exact .get (by rw [config]) ((received session.config.timeout).bind after)

/-- The frame may be the next message for one of them; otherwise both receive the same. -/
theorem awaiting_couples (unsolicited : insertion.frame.Unsolicited)
    (within : insertion.frame.Within insertion.config) (progress : Progresses (Unbuffered.turn act)) :
    Couples insertion (repeatUntil (Unbuffered.turn act) progress) := by
  refine repeatUntil_couples fun {place session session'} between aligned => ?_
  cases between with
  | behind =>
    have received (timeout : Nat) := Coupled.ofInStep .behind ((Keeps.receive timeout).run aligned)
    exact ⟨session', rfl, turn_coupled keeps aligned.config received⟩
  | ahead whole fit =>
    cases whole with
    | nil =>
      -- The frame is next: the second session takes a round for it, and then both are at the same
      -- message.
      obtain ⟨next, heard, behind⟩ := turn_extra act aligned unsolicited within
      have behind : Aligned insertion .behind session next := behind
      have received (timeout : Nat) := Coupled.ofInStep .behind ((Keeps.receive timeout).run behind)
      exact ⟨next, repeatUntil_none heard, turn_coupled keeps behind.config received⟩
    | cons first others =>
      have received (timeout : Nat) := receive_coupled fit aligned timeout
      exact ⟨session', rfl, turn_coupled keeps aligned.config received⟩

end

theorem Coupled.guarded {action : Action Script α} (stage : Stage)
    (coupled : Coupled insertion (action session) (action session')) :
    Coupled insertion (guarded stage action session) (guarded stage action session') := by
  generalize ran : action session = result, ran' : action session' = result' at coupled
  cases coupled with
  | ok between aligned =>
    rw [guarded_done stage ran, guarded_done stage ran']
    exact .ok between aligned
  | @error halt _ _ _ aligned =>
    cases halt with
    | crashed crash =>
      rw [guarded_crashed stage ran, guarded_crashed stage ran']
      exact .error aligned
    | failed error =>
      rw [guarded_failed stage ran, guarded_failed stage ran']
      exact .error (aligned.shut stage error)

theorem Couples.guarded {action : Action Script α} (stage : Stage)
    (couples : Couples insertion action) : Couples insertion (guarded stage action) :=
  ⟨fun between aligned => (couples.run between aligned).guarded stage⟩

/-- The answer about encryption is not a message, but whole messages follow it. -/
theorem requestSsl_coupled (required : Bool) {answer : List UInt8} (size : answer.length = 1)
    {whole : List Frame} (fit : ∀ frame ∈ whole, frame.Fits)
    (ahead : Ahead insertion (answer ++ whole.flatMap Frame.bytes) session session') :
    Coupled insertion (Unbuffered.requestSsl required session)
      (Unbuffered.requestSsl required session') := by
  have aligned : Aligned insertion (.ahead (answer ++ whole.flatMap Frame.bytes)) session session' :=
    ahead
  unfold Unbuffered.requestSsl
  refine InStep.bind ((Keeps.say _ _).run aligned) fun _ session session' aligned => ?_
  refine InStep.bind ((Keeps.send _).run aligned) fun _ session session' aligned => ?_
  refine .get (by rw [aligned.config]) ((read_coupled size fit aligned _).bind fun bytes => ?_)
  refine Keeps.couples fun place => .ite (.pure _) (.ite (.ite (.fail _) ?_) (.fail _))
  exact .bind (Keeps.say _ _) fun _ => .pure _

theorem secure_coupled {answer : List UInt8} {whole : List Frame}
    (size : answer.length = answerSize session.config) (fit : ∀ frame ∈ whole, frame.Fits)
    (ahead : Ahead insertion (answer ++ whole.flatMap Frame.bytes) session session') :
    Coupled insertion (Unbuffered.secure session) (Unbuffered.secure session') := by
  have config : session'.config = session.config := by rw [ahead.same]; rfl
  have negotiates (required : Bool) (wanted : session.config.ssl ≠ .disable) :
      Coupled insertion (Unbuffered.negotiate required session)
        (Unbuffered.negotiate required session') := by
    have asked := requestSsl_coupled required (size.trans (if_neg wanted)) fit ahead
    refine (asked.guarded .ssl).bind fun agreed => Keeps.couples fun place => .ite ?_ (.pure _)
    refine .bind (Keeps.say _ _) fun _ => .bind Keeps.upgrade.attempt fun upgraded => ?_
    cases upgraded with
    | ok nothing => exact .pure _
    | error error => exact .fail _
  refine Coupled.get (by rw [config]) ?_
  cases mode : session.config.ssl with
  | disable =>
    obtain rfl := List.eq_nil_of_length_eq_zero (size.trans (if_pos mode))
    exact .ok (.ahead whole fit) ahead
  | prefer => exact negotiates false (by simp [mode])
  | require => exact negotiates true (by simp [mode])

theorem handshake_coupled {answer : List UInt8} {whole : List Frame}
    (size : answer.length = answerSize session.config) (fit : ∀ frame ∈ whole, frame.Fits)
    (unsolicited : insertion.frame.Unsolicited) (within : insertion.frame.Within insertion.config)
    (ahead : Ahead insertion (answer ++ whole.flatMap Frame.bytes) session session') :
    Coupled insertion (Unbuffered.handshake session) (Unbuffered.handshake session') := by
  refine (secure_coupled size fit ahead).bind fun _ => ?_
  refine Couples.bind ?startup fun _ => Couples.bind ?authentication fun _ =>
    Couples.bind ?ready fun _ => Keeps.couples fun _ => Keeps.say _ _
  case startup =>
    refine Keeps.couples fun place => Keeps.guarded .startup (.bind (Keeps.say _ _) fun _ => ?_)
    refine .get fun session session' aligned => ?_
    rw [aligned.config]
    exact Keeps.send _
  case authentication =>
    refine (awaiting_couples (fun frame place => ?_) unsolicited within _).guarded .authentication
    rw [← challenge_direct]
    exact Keeps.rules ..
  case ready =>
    refine (awaiting_couples (fun frame place => ?_) unsolicited within _).guarded .postAuthentication
    rw [← ready_direct]
    exact Keeps.rules ..

/-- What may be done with a session before the handshake. Subscribers refuse nothing. -/
def Prepares : Operation → Prop
  | .subscribe _ observer => ∀ events, observer.respond events = none
  | .unsubscribe .. | .settings => True
  | _ => False

private theorem observer_watches {observer : Observer}
    (agrees : ∀ events, observer.respond events = none) : Watches observer.response where
  steady event earlier := by simp only [Observer.response, agrees]
  mentions event effect member := by
    obtain rfl := List.mem_singleton.mp member
    exact .delivered observer.name

private theorem noticeLogger_watches (target : String) : Watches (noticeLogger target) where
  steady event earlier := by cases event <;> rfl
  mentions event effect member := by
    cases event with
    | notice notice =>
      obtain rfl := List.mem_singleton.mp member
      exact .logged notice target rfl
    | notification | parameterStatus => cases member

theorem Watched.subscribe {buses : Buses} (watched : Watched buses) (topic : Topic)
    {respond : List Event → Response Effect} (watches : Watches respond) :
    Watched (buses.set topic ((buses.get topic).subscribe respond).2) := by
  intro other entry member
  unfold respondents at member
  rw [get_set] at member
  split at member
  · simp only [Bus.subscribe, List.map_append, List.mem_append] at member
    rcases member with earlier | last
    · exact watched topic entry earlier
    · obtain rfl := List.mem_singleton.mp last
      exact watches
  · exact watched other entry member

theorem Watched.unsubscribe {buses : Buses} (watched : Watched buses) (topic : Topic) (id : Nat) :
    Watched (buses.set topic ((buses.get topic).unsubscribe id).2) := by
  intro other entry member
  unfold respondents at member
  rw [get_set] at member
  split at member
  · obtain ⟨active, remains, rfl⟩ := List.mem_map.mp member
    exact watched topic _ (List.mem_map_of_mem (List.mem_filter.mp remains).1)
  · exact watched other entry member

private theorem new_ahead (insertion : Insertion) (script : Script) {stream : List UInt8}
    (served : script.served = insertion.front ++ insertion.rest)
    (same : stream = insertion.front ++ insertion.frame.bytes ++ insertion.rest) :
    Ahead insertion insertion.front (Session.new insertion.config script)
      (Session.new insertion.config { script with served := stream }) := by
  subst same
  unfold Session.new
  split
  · refine ⟨rfl, served, rfl, Nat.zero_add _, nofun, ?_⟩
    exact Watched.subscribe (by intro topic entry; cases topic <;> nofun) _ (noticeLogger_watches _)
  · exact ⟨rfl, served, rfl, Nat.zero_add _, nofun, by intro topic entry; cases topic <;> nofun⟩

/-- Two clients before their handshakes. -/
structure Poised (insertion : Insertion) (script : Script) (client client' : Client Script) :
    Prop where
  phase : client.phase = .startup
  phase' : client'.phase = .startup
  sturdy : Sturdy client.session
  channel : client.session.channel = .ofLink script
  ahead : Ahead insertion insertion.front client.session client'.session

namespace Poised

variable {script : Script} {client client' : Client Script}

theorem perform (poised : Poised insertion script client client') {operation : Operation}
    (prepares : Prepares operation) :
    Poised insertion script (client.perform operation).2 (client'.perform operation).2 := by
  obtain ⟨phase, session⟩ := client
  obtain ⟨phase', session'⟩ := client'
  obtain ⟨rfl, rfl, sturdy, channel, config, served, rfl, position, heard, watched⟩ := poised
  cases operation with
  | subscribe topic observer =>
    exact ⟨rfl, rfl, subscribe_sturdy sturdy topic observer, channel, config, served, rfl, position,
      heard, watched.subscribe topic (observer_watches prepares)⟩
  | unsubscribe topic id =>
    exact ⟨rfl, rfl, unsubscribe_sturdy sturdy topic id, channel, config, served, rfl, position, heard,
      watched.unsubscribe topic id⟩
  | settings => exact ⟨rfl, rfl, sturdy, channel, config, served, rfl, position, heard, watched⟩
  | _ => cases prepares

theorem performAll (poised : Poised insertion script client client') {operations : List Operation}
    (prepares : ∀ operation ∈ operations, Prepares operation) :
    Poised insertion script (performAll client operations) (performAll client' operations) := by
  induction operations generalizing client client' with
  | nil => exact poised
  | cons operation operations ih =>
    exact ih (poised.perform (prepares operation List.mem_cons_self)) fun other member =>
      prepares other (List.mem_cons_of_mem _ member)

end Poised

private theorem new_poised (insertion : Insertion) (script : Script) {stream : List UInt8}
    (served : script.served = insertion.front ++ insertion.rest)
    (same : stream = insertion.front ++ insertion.frame.bytes ++ insertion.rest) :
    Poised insertion script (Client.new insertion.config script)
      (Client.new insertion.config { script with served := stream }) := by
  refine ⟨rfl, rfl, new_sturdy _ _, ?_, new_ahead insertion script served same⟩
  obtain ⟨buses, fresh, -⟩ := new_eq insertion.config script
  rw [Client.new, fresh]

private theorem Overheard.buffers {frame : Frame} (heard : Overheard frame session session')
    (buffer buffer' : Buffer) :
    Overheard frame { session with buffer } { session' with buffer := buffer' } := { heard with }

/-- What hearing the frame adds to the calls is reads. -/
theorem Overheard.calls {frame : Frame} (heard : Overheard frame session session') :
    session'.channel.calls.filter (!isRead ·) = session.channel.calls.filter (!isRead ·) := by
  obtain ⟨before, block, after, journal, journal', incidental⟩ := heard.journal
  have reads : (block.filterMap Effect.call?).filter (!isRead ·) = [] := by
    rw [List.filter_eq_nil_iff]
    intro call member
    obtain ⟨effect, present, called⟩ := List.mem_filterMap.mp member
    cases incidental effect present with
    | read count timeout =>
      cases called
      exact Bool.false_ne_true
    | header speaker => cases called
    | mention general mention => cases mention <;> cases called
  simp only [Channel.calls, journal, journal', List.filterMap_append, List.filter_append, reads,
    List.append_nil]

/-- A session that has come to the frame is not ahead of it any more. -/
theorem Ahead.not_begins {left : List UInt8} (ahead : Ahead insertion left session session')
    {config : Config} : ¬ Begins config session.channel.calls insertion.front.length := by
  rintro ⟨before, timeout, succeeded, after, split, -, position⟩
  have all := ahead.position
  rw [split, taken_append, position] at all
  cases succeeded with
  | false => exact ahead.heard headerSize timeout (split_mem split)
  | true =>
    rw [taken, takenBy, headerSize] at all
    omega

private theorem Aligned.overheard {config : Config}
    (aligned : Aligned insertion place session session')
    (begins : Begins config session.channel.calls insertion.front.length) :
    Overheard insertion.frame session session' := by
  cases place with
  | ahead left => exact absurd begins (Ahead.not_begins aligned)
  | behind => exact aligned

/-- Where a message begins, the answer about encryption and whole messages come before it. -/
theorem Begins.boundary {script : Script} {front rest : List UInt8}
    (served : script.served = front ++ rest) (sturdy : Sturdy session)
    (channel : session.channel = .ofLink script)
    (begins : Begins session.config (final (Session.handshake session)).channel.calls front.length) :
    ∃ (answer : List UInt8) (whole : List Frame), answer.length = answerSize session.config ∧
      (∀ frame ∈ whole, frame.Fits) ∧ front = answer ++ whole.flatMap Frame.bytes := by
  obtain ⟨before, timeout, succeeded, after, split, ⟨messages, count⟩, position⟩ := begins
  obtain ⟨calls, advances, -, does⟩ := Means.handshake.refines.does sturdy handshake_does
  have made : calls = before ++ .read headerSize timeout succeeded :: after := by
    rw [← split, advances.calls, channel]
    rfl
  obtain ⟨answer, whole, size, fit, same, length⟩ := does.boundaries made count
  refine ⟨answer, whole, size, fit, ?_⟩
  have link : (outlook session).link = script := congrArg Channel.link channel
  rw [link] at same length
  have all := (heard_served script before).trans served
  rw [← same]
  exact (List.append_inj_left all (length.symm.trans position)).symm

theorem handshake_overheard {script : Script} {client client' : Client Script}
    (poised : Poised insertion script client client') (unsolicited : insertion.frame.Unsolicited)
    (within : insertion.frame.Within insertion.config)
    (begins : Begins insertion.config (final (Session.handshake client.session)).channel.calls
      insertion.front.length) :
    outcome (Session.handshake client'.session) = outcome (Session.handshake client.session) ∧
      Overheard insertion.frame (final (Session.handshake client.session))
        (final (Session.handshake client'.session)) := by
  obtain ⟨-, -, sturdy, channel, ahead⟩ := poised
  generalize client.session = session, client'.session = session' at *
  have served : script.served = insertion.front ++ insertion.rest := by
    rw [← ahead.served, channel]
    rfl
  rw [← ahead.config] at begins
  obtain ⟨answer, whole, size, fit, front⟩ := begins.boundary served sturdy channel
  have sound : Sound session'.buffer := by
    rw [ahead.same]
    exact sturdy.sound
  have coupled := handshake_coupled size fit unsolicited within (front ▸ ahead)
  obtain ⟨buffer, -, ran⟩ := Means.handshake.refines.run sturdy.sound
  obtain ⟨buffer', -, ran'⟩ := Means.handshake.refines.run sound
  rw [ran] at begins ⊢
  rw [ran']
  generalize Unbuffered.handshake session = result,
    Unbuffered.handshake session' = result' at begins coupled ⊢
  cases coupled with
  | ok between aligned => exact ⟨rfl, (aligned.overheard begins).buffers buffer buffer'⟩
  | error aligned => exact ⟨rfl, (aligned.overheard begins).buffers buffer buffer'⟩

/-- Wherever a handshake begins to receive a message, one more message that may come at any time
makes no difference: the handshake comes to the same, with the same writes and the same bytes left
unread, and what it knows differs only by what the message reports. -/
theorem handshake_transparent {config : Config} {script : Script} {front rest : List UInt8}
    (served : script.served = front ++ rest) {operations : List Operation}
    (prepares : ∀ operation ∈ operations, Prepares operation) {frame : Frame}
    (unsolicited : frame.Unsolicited) (within : frame.Within config) {answer answer' : Answer}
    {client client' : Client Script}
    (ran : (performAll (Client.new config script) operations).perform .handshake = (answer, client))
    (ran' : (performAll (Client.new config { script with served := front ++ frame.bytes ++ rest })
      operations).perform .handshake = (answer', client'))
    (begins : Begins config client.session.channel.calls front.length) :
    answer' = answer ∧ client'.phase = client.phase ∧
      client'.session.channel.calls.filter (!isRead ·) =
        client.session.channel.calls.filter (!isRead ·) ∧
      Overheard frame client.session client'.session := by
  have poised := (new_poised ⟨config, front, frame, rest⟩ script served rfl).performAll prepares
  have runs (client : Client Script) (phase : client.phase = .startup) : client.perform .handshake =
      Client.advance client.session Session.handshake .connection .done :=
    perform_allowed (by rw [phase]; rfl)
  rw [runs _ poised.phase, advance_eq] at ran
  rw [runs _ poised.phase', advance_eq] at ran'
  obtain ⟨rfl, rfl⟩ := Prod.mk.inj ran
  obtain ⟨rfl, rfl⟩ := Prod.mk.inj ran'
  obtain ⟨same, overheard⟩ := handshake_overheard poised unsolicited within begins
  rw [same]
  exact ⟨rfl, rfl, overheard.calls, overheard⟩

private def calledConfig : Config := { user := "ada", password := some "secret", ssl := .prefer }
private def question : List UInt8 := [sslRefused] ++ Frame.bytes ⟨Tag.authentication, int32 3⟩

private def verdict : List UInt8 :=
  Frame.bytes ⟨Tag.authentication, int32 0⟩ ++ Frame.bytes ⟨Tag.readyForQuery, [73]⟩ ++ [42]

private def questioning : Script where served := question ++ verdict
private def zone : Frame := ⟨Tag.parameterStatus, Text.utf8 "zone" ++ 0 :: (Text.utf8 "utc" ++ [0])⟩
private def watching : List Operation := [.subscribe .parameterStatuses ⟨"watcher", fun _ => none⟩]

private def ranAlone : Answer × Client Script :=
  (performAll (Client.new calledConfig questioning) watching).perform .handshake

private def ranWithZone : Answer × Client Script :=
  (performAll (Client.new calledConfig { questioning with
    served := question ++ zone.bytes ++ verdict }) watching).perform .handshake

/-- A server that refuses encryption and asks for the password, without and with a parameter before
what it says to the answer. -/
theorem handshake_transparent_question :
    Begins calledConfig ranAlone.2.session.channel.calls question.length ∧
      ranWithZone.1 = ranAlone.1 ∧ Overheard zone ranAlone.2.session ranWithZone.2.session := by
  have prepares : ∀ operation ∈ watching, Prepares operation :=
    List.forall_mem_singleton.mpr fun _ => rfl
  have unsolicited : zone.Unsolicited := by
    refine .inr (.inl ⟨rfl, ⟨"zone", "utc"⟩, [], ?_⟩)
    exact (bind_ok (text_utf8 (by decide) _)).trans (bind_ok (text_utf8 (by decide) _))
  have begins : Begins calledConfig ranAlone.2.session.channel.calls question.length := by
    refine ⟨ranAlone.2.session.channel.calls.take 6, calledConfig.timeout, true,
      ranAlone.2.session.channel.calls.drop 7, ?_, ⟨1, ?_⟩, ?_⟩
    all_goals decide +kernel
  have served : questioning.served = question ++ verdict := rfl
  have within : zone.Within calledConfig := by decide +kernel
  obtain ⟨answer, -, -, overheard⟩ := handshake_transparent served prepares unsolicited within
    (Prod.eta ranAlone).symm (Prod.eta ranWithZone).symm begins
  exact ⟨begins, answer, overheard⟩

end PgSession.Proofs
