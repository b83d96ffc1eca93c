import PgSession.Proofs.Trace

/-!
Which messages a session received, told from its calls: a header that it accepted, and right behind it
as many bytes as the header announces. Receiving a message makes one call or two, and what is done
about a message that may come at any time needs none.
-/

namespace PgSession.Proofs
open Wire Session

variable {τ α β : Type} [Transport τ]

/-- The size of the message that a header announces, if the session accepts it. -/
def announced (config : Config) (header : List UInt8) : Option Nat :=
  if 4 ≤ lengthIn header ∧ 1 + (lengthIn header).toNat ≤ config.maxMessageSize then
    some (1 + (lengthIn header).toNat)
  else none

/-- The size of the message that is announced by what would be read next as a header. -/
def upcoming (config : Config) (link : τ) (timeout : Nat) : Option Nat :=
  announced config (heardBy link (.read headerSize timeout true))

section

omit [Transport τ]

variable {config : Config} {header : List UInt8}

theorem announced_short (short : lengthIn header < 4) : announced config header = none := by
  apply if_neg
  omega

theorem announced_large {size : Nat} (length : lengthIn header = (4 + size : Nat))
    (refused : config.maxMessageSize < 1 + (4 + size)) : announced config header = none := by
  apply if_neg
  omega

theorem announced_allowed {size : Nat} (length : lengthIn header = (4 + size : Nat))
    (allowed : 1 + (4 + size) ≤ config.maxMessageSize) :
    announced config header = some (1 + (4 + size)) := by
  unfold announced
  rw [length, Int.toNat_natCast, if_pos ⟨by omega, allowed⟩]

theorem announced_le {size : Nat} (accepts : announced config header = some size) :
    size ≤ config.maxMessageSize := by
  unfold announced at accepts
  split at accepts
  · cases accepts
    exact And.right ‹_›
  · cases accepts

end

theorem Frame.bytes_length (frame : Frame) : frame.bytes.length = 1 + (4 + frame.body.length) := by
  simp only [Frame.bytes, List.length_cons, List.length_append, word_length]
  omega

/-- The message two calls received: the first a header that the session accepts, the second as many
bytes as are announced. -/
def messageIn (config : Config) (link : τ) : Call → Call → Option Frame
  | .read count timeout true, .read size timeout' true =>
    let header := heardBy link (.read count timeout true)
    let behind := afterCall link (.read count timeout true)
    if count = headerSize ∧ lengthIn header = (4 + size : Nat) ∧
        1 + (4 + size) ≤ config.maxMessageSize then
      some ⟨header.headD 0, heardBy behind (.read size timeout' true)⟩
    else none
  | _, _ => none

def received (config : Config) (link : τ) : List Call → List Frame
  | first :: second :: calls =>
    match messageIn config link first second with
    | some frame => frame :: received config (afterCall (afterCall link first) second) calls
    | none => received config (afterCall link first) (second :: calls)
  | _ => []

/-- These calls received these messages, whichever calls come after them. -/
def Hears (config : Config) (link : τ) (calls : List Call) (frames : List Frame) : Prop :=
  ∀ more, received config link (calls ++ more) = frames ++ received config (replay link calls) more

/-- The call does not read a header, or fails to. -/
def Headless : Call → Prop
  | .read count _ succeeded => count = headerSize → succeeded = false
  | _ => True

omit [Transport τ] in
theorem Makes.headless {call : Bool → Call} {calls : List Call} {result : Except (Halt Error) Unit}
    (makes : Makes call calls result) (headless : ∀ succeeded, Headless (call succeeded)) :
    ∀ call ∈ calls, Headless call := by
  cases makes with
  | done | failed => exact List.forall_mem_singleton.mpr (headless _)

/-- A read that is shorter than a header begins no message. -/
theorem Reads.headless {link : τ} {count timeout : Nat} {calls : List Call}
    {result : Except (Halt Error) (List UInt8)} (reads : Reads link count timeout calls result)
    (other : count ≠ headerSize) : ∀ call ∈ calls, Headless call := by
  cases reads with
  | heard | failed => exact List.forall_mem_singleton.mpr fun same => absurd same other

namespace Hears

variable {config : Config} {link : τ} {calls more : List Call} {frames others : List Frame}

theorem nil : Hears config link [] [] := fun _ => rfl

theorem append (hears : Hears config link calls frames)
    (behind : Hears config (replay link calls) more others) :
    Hears config link (calls ++ more) (frames ++ others) := by
  intro rest
  rw [List.append_assoc, hears, behind, replay_append, List.append_assoc]

theorem received_eq (hears : Hears config link calls frames) :
    received config link calls = frames := by
  have whole := hears []
  rw [List.append_nil] at whole
  exact whole.trans (List.append_nil frames)

/-- A call that begins no message makes no difference. -/
private theorem one {call : Call} (none : ∀ next, messageIn config link call next = .none) :
    Hears config link [call] [] := by
  intro more
  cases more with
  | nil => rfl
  | cons next more =>
    change received config link (call :: next :: more) = _
    rw [received, none next]
    rfl

theorem headless (without : ∀ call ∈ calls, Headless call) : Hears config link calls [] := by
  induction calls generalizing link with
  | nil => exact nil
  | cons call calls ih =>
    obtain ⟨first, rest⟩ := List.forall_mem_cons.mp without
    have none : ∀ next, messageIn config link call next = .none := by
      intro next
      cases call with
      | read count timeout succeeded =>
        cases succeeded with
        | false => rfl
        | true =>
          cases next with
          | read size timeout' succeeded' =>
            cases succeeded' with
            | false => rfl
            | true => exact if_neg fun header => Bool.noConfusion (first header.1)
          | write | close | upgrade => rfl
      | write | close | upgrade => rfl
    exact (one none).append (ih rest)

/-- A header that the session refuses begins no message. -/
theorem refused {timeout : Nat} (refused : upcoming config link timeout = none) :
    Hears config link [.read headerSize timeout true] [] := by
  refine one fun next => ?_
  cases next with
  | read size timeout' succeeded =>
    cases succeeded with
    | false => rfl
    | true =>
      refine if_neg fun ⟨_, length, allowed⟩ => ?_
      rw [upcoming, announced_allowed length allowed] at refused
      cases refused
  | write | close | upgrade => rfl

private theorem cut {timeout size timeout' : Nat} :
    Hears config link [.read headerSize timeout true, .read size timeout' false] [] := by
  intro more
  change received config link (_ :: _ :: more) = _
  rw [received]
  exact (one (fun _ => rfl) : Hears config _ [.read size timeout' false] []) more

private theorem whole {timeout : Nat} {frame : Frame} {field : List UInt8}
    (heard : heardBy link (.read headerSize timeout true) = frame.tag :: field)
    (length : lengthIn (frame.tag :: field) = (4 + frame.body.length : Nat))
    (within : frame.Within config) (body : heardBy (afterCall link (.read headerSize timeout true))
      (.read frame.body.length timeout true) = frame.body) :
    Hears config link
      [.read headerSize timeout true, .read frame.body.length timeout true] [frame] := by
  have message : messageIn config link (.read headerSize timeout true)
      (.read frame.body.length timeout true) = some frame := by
    rw [messageIn, heard, body, if_pos ⟨rfl, length, within.2⟩]
    rfl
  intro more
  change received config link (_ :: _ :: more) = _
  rw [received, message]
  rfl

end Hears

section

omit [Transport τ]

/-- A parameter that can be read is one of the events. -/
theorem Frame.parameter_event {frame : Frame} {status : ParameterStatus}
    (found : frame.parameter? = some status) :
    frame.general = some (.ok (.parameterStatus status)) := by
  obtain ⟨same, read⟩ := Frame.reads?_iff_decode.mp found
  rw [Frame.general, same, read]
  rfl

namespace Report

/-- The report after a frame of which only a parameter counts. -/
def overhear (report : Report) (frame : Frame) : Report :=
  { report with parameters := (report.hear frame).parameters }

variable {frame : Frame} (report : Report)

private theorem overhear_event {event : Event} (general : frame.general = some (.ok event)) :
    report.overhear frame = report.learn event := by
  rw [overhear, hear_event general]
  cases event <;> rfl

theorem overhear_other (other : ∀ event, frame.general ≠ some (.ok event)) :
    report.overhear frame = report := by
  have none : frame.parameter? = none :=
    Option.eq_none_iff_forall_ne_some.mpr fun status found =>
      other _ (Frame.parameter_event found)
  rw [overhear, hear, none]
  rfl

/-- Neither the status nor the key comes at just any time. -/
theorem hear_general (general : frame.general ≠ none) : report.hear frame = report.overhear frame := by
  have noStatus : frame.tag ≠ Tag.readyForQuery := by
    intro same
    exact general (by apply Frame.general_none <;> rw [same] <;> decide)
  have noKey : frame.tag ≠ Tag.keyData := by
    intro same
    exact general (by apply Frame.general_none <;> rw [same] <;> decide)
  rw [overhear, hear, Frame.status?, Frame.key?, Frame.reads?_other noStatus, Frame.reads?_other noKey]
  rfl

theorem overhear_parameters (frames : List Frame) :
    (frames.foldl overhear report).parameters = (frames.filterMap Frame.parameter?).foldl
      (fun parameters status => parameters.set status.name status.value) report.parameters :=
  noted_parameters overhear (fun _ _ => rfl) frames report

theorem overhear_rest (frames : List Frame) : (frames.foldl overhear report).status = report.status ∧
    (frames.foldl overhear report).key = report.key := by
  induction frames generalizing report with
  | nil => exact ⟨rfl, rfl⟩
  | cons frame frames ih => exact ih (report.overhear frame)

end Report

namespace Frame

variable {frame : Frame} {error : Error}

theorem decode_plain {reader : Reader α} (read : frame.decode reader = .error error) :
    error.stage = none := by
  unfold Frame.decode at read
  split at read
  · cases read
  · cases read
    rfl

private theorem map_plain {reader : Reader α} {wrap : α → β}
    (read : (frame.decode reader).map wrap = .error error) : error.stage = none := by
  cases found : frame.decode reader with
  | ok value =>
    rw [found] at read
    cases read
  | error other =>
    rw [found] at read
    cases read
    exact decode_plain found

theorem general_plain (general : frame.general = some (.error error)) : error.stage = none := by
  unfold Frame.general at general
  repeat' split at general
  · exact map_plain (Option.some.inj general)
  · cases found : frame.decode Reader.errorReport with
    | ok report =>
      rw [found] at general
      cases general
      rfl
    | error other =>
      rw [found] at general
      cases general
      exact decode_plain found
  · exact map_plain (Option.some.inj general)
  · exact map_plain (Option.some.inj general)
  · cases general

end Frame

end

/-- The outcomes of receiving a frame. -/
inductive Receives (before : Outlook τ) (timeout : Nat) :
    List Call → Except (Halt Error) Frame → Prop
  | unheard (silent : upcoming before.config before.link timeout = none) (kind : ErrorKind) :
    Receives before timeout [.read headerSize timeout false] (.error (.failed ⟨kind, none⟩))
  | refused (refuses : upcoming before.config before.link timeout = none) (kind : ErrorKind) :
    Receives before timeout [.read headerSize timeout true] (.error (.failed ⟨kind, none⟩))
  | cut (header : (heard before.link [.read headerSize timeout true]).length = headerSize)
    {size : Nat} (announces : upcoming before.config before.link timeout = some (1 + (4 + size)))
    (kind : ErrorKind) :
    Receives before timeout [.read headerSize timeout true, .read size timeout false]
      (.error (.failed ⟨kind, none⟩))
  | whole (header : (heard before.link [.read headerSize timeout true]).length = headerSize)
    {frame : Frame} (fits : frame.Fits)
    (announces : upcoming before.config before.link timeout = some frame.bytes.length)
    (heard : heard before.link
      [.read headerSize timeout true, .read frame.body.length timeout true] = frame.bytes) :
    Receives before timeout [.read headerSize timeout true, .read frame.body.length timeout true]
      (.ok frame)

variable {session : Session τ}

private theorem heard_one {link link' : τ} {count timeout : Nat} {bytes : List UInt8}
    (ran : Transport.read link count timeout = (.ok bytes, link')) (succeeded : Bool) :
    heard link [.read count timeout succeeded] = bytes ∧
      replay link [.read count timeout succeeded] = link' := by
  constructor
  · simp only [heard, heardBy, ran, List.append_nil]
  · exact congrArg Prod.snd ran

theorem receive_does (timeout : Nat) : Does session (Unbuffered.receive timeout)
    fun calls report result => report = reported session ∧
      Receives (outlook session) timeout calls result := by
  intro discreet
  have reception := receive_reception session timeout
  generalize Unbuffered.receive timeout session = result at reception ⊢
  cases reception with
  | unheard failed =>
    have silent : upcoming (outlook session).config (outlook session).link timeout = none :=
      congrArg _ (heardBy_failed failed true)
    exact ⟨_, advances_made discreet (congrArg Prod.snd failed) rfl, rfl, .unheard silent _⟩
  | short first length =>
    have refuses : upcoming (outlook session).config (outlook session).link timeout = none :=
      (congrArg _ (heardBy_ok first true)).trans (announced_short length)
    exact ⟨_, advances_made discreet (congrArg Prod.snd first) rfl, rfl, .refused refuses _⟩
  | large first length refused =>
    have refuses : upcoming (outlook session).config (outlook session).link timeout = none :=
      (congrArg _ (heardBy_ok first true)).trans (announced_large length refused)
    exact ⟨_, advances_made discreet (congrArg Prod.snd first) rfl, rfl, .refused refuses _⟩
  | cut first length allowed failed =>
    have header : Advances session [.read headerSize timeout true] _ :=
      advances_made discreet (congrArg Prod.snd first) rfl
    refine ⟨_, (header.remarked _ _).made (congrArg Prod.snd failed) rfl, rfl, .cut ?_ ?_ _⟩
    · exact (congrArg List.length (heard_one first true).1).trans (Transport.read_length first)
    · exact (congrArg _ (heardBy_ok first true)).trans (announced_allowed length allowed)
  | @whole field frame link link' first bytes within rest =>
    have header : Advances session [.read headerSize timeout true] _ :=
      advances_made discreet (congrArg Prod.snd first) rfl
    have length := lengthIn_field within.1 bytes (Transport.read_length first)
    refine ⟨_, (header.remarked _ _).made (congrArg Prod.snd rest) rfl, rfl,
      .whole ?_ within.1 ?_ ?_⟩
    · exact (congrArg List.length (heard_one first true).1).trans (Transport.read_length first)
    · rw [Frame.bytes_length]
      exact (congrArg _ (heardBy_ok first true)).trans (announced_allowed length within.2)
    · obtain ⟨front, behind⟩ := heard_one first true
      change heard session.channel.link ([_] ++ [_]) = _
      rw [heard_append, front, behind, (heard_one rest true).1, bytes]

namespace Receives

variable {before : Outlook τ} {timeout : Nat} {calls : List Call} {frame : Frame}

theorem within (receives : Receives before timeout calls (.ok frame)) :
    frame.Within before.config := by
  cases receives with
  | whole _ fits announces =>
    have bound := announced_le announces
    rw [Frame.bytes_length] at bound
    exact ⟨fits, bound⟩

/-- A message that was received is the one that its calls tell of. -/
theorem hears (receives : Receives before timeout calls (.ok frame)) :
    Hears before.config before.link calls [frame] := by
  have within := receives.within
  cases receives with
  | whole header fits announces same =>
    have halves : heardBy before.link (.read headerSize timeout true) ++
        heardBy (afterCall before.link (.read headerSize timeout true))
          (.read frame.body.length timeout true) =
        (frame.tag :: word (4 + frame.body.length)) ++ frame.body := by
      rw [heard, heard, heard, List.append_nil] at same
      exact same
    rw [heard, heard, List.append_nil] at header
    obtain ⟨first, second⟩ := List.append_inj halves (header.trans (by simp [word, headerSize]))
    refine .whole first ?_ within second
    exact lengthIn_field fits rfl (by simp [word, headerSize])

theorem hears_nothing {halt : Halt Error} (receives : Receives before timeout calls (.error halt)) :
    Hears before.config before.link calls [] := by
  cases receives with
  | unheard => exact .headless (List.forall_mem_singleton.mpr fun _ => rfl)
  | refused refuses => exact .refused refuses
  | cut => exact .cut

/-- What failed was the transport or the message. -/
theorem unnamed {halt : Halt Error} (receives : Receives before timeout calls (.error halt)) :
    ∃ kind, halt = .failed ⟨kind, none⟩ := by
  cases receives with
  | unheard _ kind | refused _ kind | cut _ _ kind => exact ⟨kind, rfl⟩

end Receives

section

omit [Transport τ]

/-- The reasons subscribers have for refusing an event, in the order in which they subscribed. -/
def refusals (buses : Buses) (event : Event) : List String :=
  (buses.get event.topic).active.filterMap fun entry =>
    (entry.2.respond (event :: entry.2.seen)).failure

theorem deliver_failure {ε ρ : Type} (event : ε) (active : List (Nat × Subscriber ε ρ)) :
    (Bus.deliver event active).1.failure = (active.filterMap fun entry =>
      (entry.2.respond (event :: entry.2.seen)).failure).head? := by
  induction active with
  | nil => rfl
  | cons entry rest ih =>
    obtain ⟨id, subscriber⟩ := entry
    rw [Bus.deliver, List.filterMap_cons]
    cases refused : (subscriber.respond (event :: subscriber.seen)).failure with
    | none => exact ih
    | some reason => exact refused

/-- Publishing leaves all but the journal and the buses as they are, even if a subscriber refuses. -/
theorem publish_refusals (session : Session τ) (event : Event) : ∃ session',
    session'.config = session.config ∧ session'.channel.link = session.channel.link ∧
    reported session' = reported session ∧
    publish event session = match refusals session.buses event with
      | [] => .ok () session'
      | reason :: _ => .error (.failed ⟨.subscriber reason, none⟩) session' := by
  have failure : ((session.buses.get event.topic).publish event).1.failure =
      (refusals session.buses event).head? := deliver_failure event _
  refine ⟨{ session with
    buses := session.buses.set event.topic ((session.buses.get event.topic).publish event).2
    channel := session.channel.note ((session.buses.get event.topic).publish event).1.records },
    rfl, rfl, rfl, ?_⟩
  simp only [publish, failure]
  cases refusals session.buses event <;> rfl

theorem dispatch_solicited {frame : Frame} (general : frame.general = none) (session : Session τ) :
    Unbuffered.dispatch frame session = .ok false session := by
  rw [Unbuffered.dispatch, general]
  rfl

theorem dispatch_error {frame : Frame} {error : Error} (general : frame.general = some (.error error))
    (session : Session τ) : Unbuffered.dispatch frame session = .error (.failed error) session := by
  rw [Unbuffered.dispatch, general]
  rfl

/-- An event is learnt before it is published, and the subscribers decide whether that succeeds. -/
theorem dispatch_refusals {frame : Frame} {event : Event}
    (general : frame.general = some (.ok event)) (session : Session τ) : ∃ session',
    session'.config = session.config ∧ session'.channel.link = session.channel.link ∧
    reported session' = (reported session).learn event ∧
    Unbuffered.dispatch frame session = match refusals session.buses event with
      | [] => .ok true session'
      | reason :: _ => .error (.failed ⟨.subscriber reason, none⟩) session' := by
  obtain ⟨session', config, link, same, published⟩ := publish_refusals (learn event session) event
  rw [learn_config] at config
  rw [learn_channel] at link
  rw [reported_learn] at same
  rw [learn_buses] at published
  have dispatches : Unbuffered.dispatch frame session =
      (publish event >>= fun _ => pure true : Action τ Bool) (learn event session) := by
    rw [Unbuffered.dispatch, general]
    rfl
  refine ⟨session', config, link, same, dispatches.trans ?_⟩
  cases refused : refusals session.buses event with
  | nil =>
    rw [refused] at published
    exact bind_ok published
  | cons reason others =>
    rw [refused] at published
    exact bind_error published

end

private theorem deliver_discreet {ε : Type} (event : ε) (active : List (Nat × Subscriber ε Effect))
    (discreet : ∀ entry ∈ active, ∀ seen,
      (entry.2.respond seen).records.filterMap Effect.call? = []) :
    (Bus.deliver event active).1.records.filterMap Effect.call? = [] ∧
      ∀ entry ∈ (Bus.deliver event active).2, ∀ seen,
        (entry.2.respond seen).records.filterMap Effect.call? = [] := by
  induction active with
  | nil => exact ⟨rfl, nofun⟩
  | cons entry rest ih =>
    obtain ⟨id, subscriber⟩ := entry
    have first := discreet (id, subscriber) (by simp)
    have others := fun entry member => discreet entry (List.mem_cons_of_mem _ member)
    obtain ⟨later, left⟩ := ih others
    simp only [Bus.deliver]
    split
    · exact ⟨first _, List.forall_mem_cons.mpr ⟨first, others⟩⟩
    · refine ⟨?_, List.forall_mem_cons.mpr ⟨first, left⟩⟩
      rw [List.filterMap_append, first, later]
      rfl

/-- Telling the subscribers of an event needs no call, and reports nothing. -/
theorem publish_does (event : Event) : Does session (publish event)
    fun calls report result => calls = [] ∧ report = reported session ∧ Plain result := by
  intro discreet
  obtain ⟨none, others⟩ := deliver_discreet event (session.buses.get event.topic).active
    (discreet event.topic)
  have kept : Discreet (session.buses.set event.topic
      ((session.buses.get event.topic).publish event).2) := by
    intro topic entry member
    rw [get_set] at member
    split at member
    · exact others entry member
    · exact discreet topic entry member
  let told : Session τ :=
    { session with
      buses := session.buses.set event.topic ((session.buses.get event.topic).publish event).2
      channel := session.channel.note ((session.buses.get event.topic).publish event).1.records }
  have advances : Advances session [] told :=
    ⟨(Outlook.after_nil _).symm, (List.filterMap_append ..).trans (congrArg _ none), kept⟩
  cases failure : ((session.buses.get event.topic).publish event).1.failure with
  | none =>
    have ran : publish event session = .ok () told := by simp only [publish, failure, told]
    rw [ran]
    exact ⟨[], advances, rfl, rfl, trivial⟩
  | some message =>
    have ran : publish event session = .error (.failed ⟨.subscriber message, .none⟩) told := by
      simp only [publish, failure, told]
    rw [ran]
    exact ⟨[], advances, rfl, rfl, rfl⟩

/-- What a frame is known to be once it has been sorted: one that is left to the stage, one whose event
was told, or one of which something failed. -/
inductive Sorts (frame : Frame) : Except (Halt Error) Bool → Prop
  | left (solicited : frame.general = none) : Sorts frame (.ok false)
  | told (unsolicited : frame.Unsolicited) (general : frame.general.isSome) : Sorts frame (.ok true)
  | failed (general : frame.general.isSome) (kind : ErrorKind) :
    Sorts frame (.error (.failed ⟨kind, none⟩))

/-- Whatever a message is, only a parameter in it is reported before it is acted upon. -/
theorem dispatch_does (frame : Frame) : Does session (Unbuffered.dispatch frame)
    fun calls report result => calls = [] ∧ report = (reported session).overhear frame ∧
      Sorts frame result := by
  unfold Unbuffered.dispatch
  cases kind : frame.general with
  | none =>
    exact Does.pure ⟨rfl, (Report.overhear_other _ (by rw [kind]; nofun)).symm, .left kind⟩
  | some general =>
    have known : frame.general.isSome := by rw [kind]; rfl
    cases general with
    | error error =>
      have plain : error = ⟨error.kind, none⟩ := by rw [← Frame.general_plain kind]
      rw [plain]
      exact Does.throw ⟨rfl, (Report.overhear_other _ (by rw [kind]; nofun)).symm, .failed known _⟩
    | ok event =>
      have learns : Does session (modify (learn event)) fun calls report result =>
          calls = [] ∧ report = (reported session).overhear frame ∧ result = .ok () := by
        intro discreet
        have same := Advances.refl discreet
        refine ⟨[], ?_, rfl, ?_, rfl⟩
        · cases event <;> exact ⟨same.outlook, same.calls, same.discreet⟩
        · exact (reported_learn event session).trans (Report.overhear_event _ kind).symm
      change Does session (modify (learn event) >>= fun _ => publish event >>= fun _ => pure true) _
      refine learns.bind (fun _ between calls _ learnt => ?_) ?_
      · obtain ⟨rfl, heard, -⟩ := learnt
        refine (publish_does event).bind (fun _ last calls _ told => ?_) ?_
        · obtain ⟨rfl, same, -⟩ := told
          exact Does.pure ⟨rfl, same.trans heard, .told (Frame.unsolicited_iff.mpr ⟨event, kind⟩) known⟩
        · rintro calls report halt ⟨rfl, same, plain⟩
          cases halt with
          | failed error =>
            obtain ⟨kind, _⟩ := error
            cases plain
            exact ⟨rfl, same.trans heard, .failed known kind⟩
          | crashed => exact plain.elim
      · rintro calls report halt ⟨-, -, ⟨⟩⟩

namespace Exchange

variable {config : Config} {onward last : Frame → Prop} {frame : Frame} {frames : List Frame}

theorem one (within : frame.Within config) (ends : last frame) :
    Exchange config onward last [frame] :=
  ⟨[], frame, rfl, List.forall_mem_singleton.mpr within, nofun, ends⟩

theorem cons (exchange : Exchange config onward last frames) (within : frame.Within config)
    (goes : frame.Unsolicited ∨ onward frame) : Exchange config onward last (frame :: frames) := by
  obtain ⟨before, final, rfl, all, going, ends⟩ := exchange
  exact ⟨frame :: before, final, rfl, List.forall_mem_cons.mpr ⟨within, all⟩,
    List.forall_mem_cons.mpr ⟨goes, going⟩, ends⟩

end Exchange

end PgSession.Proofs
