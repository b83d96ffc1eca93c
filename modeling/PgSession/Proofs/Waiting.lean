import PgSession.Proofs.Conduct
import PgSession.Proofs.Receptions

/-!
What a session does while it waits. A stage that waits takes turns: each receives a message, and all
but the last come to nothing. So the calls of a stage, what it reports and what it comes to are those
of its turns, and a handshake is four stages one after another.
-/

namespace PgSession.Proofs
open Wire Session

variable {τ α : Type} [Transport τ] {session : Session τ}

/-- What is done about a message: the calls, what is reported then, and the outcome. -/
abbrev Acting (τ α : Type) :=
  Outlook τ → Report → Frame → List Call → Report → Except (Halt Error) (Option α) → Prop

section

variable (acts : Acting τ α)

/-- A turn ends without a message, with one that may come at any time, or with one that was acted
upon. -/
inductive Turns (before : Outlook τ) (report : Report) :
    List Call → Report → Except (Halt Error) (Option α) → Prop
  | unheard {timeout : Nat} {calls : List Call} {halt : Halt Error}
    (receives : Receives before timeout calls (.error halt)) :
    Turns before report calls report (.error halt)
  | general {timeout : Nat} {calls : List Call} {frame : Frame}
    (receives : Receives before timeout calls (.ok frame)) (general : frame.general.isSome)
    {result : Except (Halt Error) (Option α)}
    (known : result = .ok none ∧ frame.Unsolicited ∨ ∃ halt, result = .error halt) :
    Turns before report calls (report.overhear frame) result
  | acted {timeout : Nat} {calls more : List Call} {frame : Frame} {report' : Report}
    (receives : Receives before timeout calls (.ok frame)) {result : Except (Halt Error) (Option α)}
    (solicited : frame.general = none)
    (acted : acts (before.after calls) report frame more report' result) :
    Turns before report (calls ++ more) report' result

/-- Turns that come to nothing, and one that does not. -/
inductive Attends : Outlook τ → Report → List Call → Report → Except (Halt Error) α → Prop
  | last {before : Outlook τ} {report report' : Report} {calls : List Call} {value : α}
    (turns : Turns acts before report calls report' (.ok (some value))) :
    Attends before report calls report' (.ok value)
  | halted {before : Outlook τ} {report report' : Report} {calls : List Call} {halt : Halt Error}
    (turns : Turns acts before report calls report' (.error halt)) :
    Attends before report calls report' (.error halt)
  | onward {before : Outlook τ} {report between report' : Report} {calls more : List Call}
    {result : Except (Halt Error) α} (turns : Turns acts before report calls between (.ok none))
    (others : Attends (before.after calls) between more report' result) :
    Attends before report (calls ++ more) report' result

end

section

variable {acts : Acting τ α} {act : Frame → Action τ (Option α)}

theorem turn_does (does : ∀ (session : Session τ) frame, frame.general = none →
      Does session (act frame) (acts (outlook session) (reported session) frame)) :
    Does session (Unbuffered.turn act) (Turns acts (outlook session) (reported session)) := by
  unfold Unbuffered.turn
  apply Does.get
  refine (receive_does _).bind (fun frame between calls advances received => ?_) ?_
  · obtain ⟨same, receives⟩ := received
    refine (dispatch_does frame).bind (fun general last more onward dispatched => ?_) ?_
    · obtain ⟨rfl, told, sorted⟩ := dispatched
      rw [same] at told
      cases sorted with
      | told unsolicited known =>
        apply Does.pure
        rw [told, List.append_nil, List.append_nil]
        exact .general receives known (.inl ⟨rfl, unsolicited⟩)
      | left solicited =>
        rw [Report.overhear_other _ (by rw [solicited]; nofun)] at told
        refine (does last frame solicited).mono fun more report' result acted => ?_
        rw [told, onward.outlook, advances.outlook, Outlook.after_nil] at acted
        exact .acted receives solicited acted
    · rintro more report' halt ⟨rfl, told, sorted⟩
      cases sorted with
      | failed known kind =>
        rw [told, same, List.append_nil]
        exact .general receives known (.inr ⟨_, rfl⟩)
  · rintro calls report' halt ⟨rfl, receives⟩
    exact .unheard receives

theorem waiting_does {progress : Progresses (Unbuffered.turn act)}
    (does : ∀ (session : Session τ) frame, frame.general = none →
      Does session (act frame) (acts (outlook session) (reported session) frame)) :
    Does session (repeatUntil (Unbuffered.turn act) progress)
      (Attends acts (outlook session) (reported session)) :=
  Does.repeatUntil (Turns acts) (Attends acts) (fun _ => turn_does does) (fun _ _ _ _ _ => .last)
    (fun _ _ _ _ _ => .halted) fun _ _ _ _ _ _ _ => .onward

end

/-- What a frame asks the client for. -/
def Frame.challenge? (frame : Frame) : Option Authentication :=
  match frame.reads? Tag.authentication Reader.authentication with
  | some .ok => none
  | challenge => challenge

theorem Frame.challenge_read {frame : Frame} {challenge : Authentication}
    (asked : frame.challenge? = some challenge) :
    frame.reads? Tag.authentication Reader.authentication = some challenge := by
  unfold Frame.challenge? at asked
  split at asked
  · cases asked
  · exact asked

/-- The outcomes of a frame that may be a challenge. -/
inductive Answers (before : Outlook τ) (frame : Frame) :
    List Call → Except (Halt Error) (Option Unit) → Prop
  | unasked (value : Option Unit) (asked : frame.challenge? = none) :
    Answers before frame [] (.ok value)
  | refused (halt : Halt Error) : Answers before frame [] (.error halt)
  | answered {challenge : Authentication} (asked : frame.challenge? = some challenge)
    {answer : String} (replied : reply before.config challenge = .ok (some answer)) :
    Answers before frame [before.writes (.password answer) true] (.ok none)
  | unsent {challenge : Authentication} (asked : frame.challenge? = some challenge)
    {answer : String} (replied : reply before.config challenge = .ok (some answer)) (error : Error) :
    Answers before frame [before.writes (.password answer) false] (.error (.failed error))

private theorem reply_none {config : Config} {challenge : Authentication}
    (nothing : reply config challenge = .ok none) : challenge = .ok := by
  unfold reply at nothing
  split at nothing
  · rfl
  all_goals cases nothing

namespace Frame

/-- What the server demands, or its word that it is satisfied. -/
def Demands (frame : Frame) : Prop := frame.Reads Tag.authentication Reader.authentication

def TellsKey (frame : Frame) : Prop := frame.Reads Tag.keyData Reader.keyData

def TellsReady (frame : Frame) : Prop := frame.Reads Tag.readyForQuery Reader.transactionStatus

variable {frame : Frame}

theorem TellsReady.status (ready : frame.TellsReady) : frame.status?.isSome := by
  obtain ⟨status, read⟩ := ready.decode
  rw [status?, reads?_some ready.1 read]
  rfl

theorem TellsReady.key (ready : frame.TellsReady) : frame.key? = none :=
  reads?_other (by rw [ready.1]; decide) _

theorem Demands.key (demands : frame.Demands) : frame.key? = none :=
  reads?_other (by rw [demands.1]; decide) _

private theorem parameter_solicited (general : frame.general = none) : frame.parameter? = none := by
  refine Option.eq_none_iff_forall_ne_some.mpr fun status found => ?_
  rw [parameter_event found] at general
  cases general

private theorem reads?_failed {α : Type} {tag : UInt8} {reader : Reader α} {error : Error}
    (failed : frame.decode reader = .error error) : frame.reads? tag reader = none := by
  rw [reads?, failed]
  split <;> rfl

end Frame

private theorem Report.hear_nothing {frame : Frame} (parameter : frame.parameter? = none)
    (status : frame.status? = none) (key : frame.key? = none) (report : Report) :
    report.hear frame = report := by
  rw [hear, parameter, status, key]
  rfl

/-- What is done about a demand: it is answered, if it can be, and nothing is reported. -/
structure Demanding (before : Outlook τ) (report : Report) (frame : Frame) (calls : List Call)
    (report' : Report) (result : Except (Halt Error) (Option Unit)) : Prop where
  answers : Answers before frame calls result
  still : report' = report
  demands : ∀ value, result = .ok value → frame.Demands

private theorem onAuthentication_asks (frame : Frame) :
    Asks session (Unbuffered.onAuthentication frame) fun calls result =>
      Answers (outlook session) frame calls result ∧ ∀ value, result = .ok value → frame.Demands := by
  unfold Unbuffered.onAuthentication
  by_cases tag : frame.tag = Tag.authentication
  · rw [if_pos tag]
    cases read : frame.decode Reader.authentication with
    | error error => exact Does.throw ⟨.refused _, nofun⟩
    | ok challenge =>
      have found := Frame.reads?_some tag read
      have demands : frame.Demands := Frame.reads_of_decode tag read
      suffices answers : Asks session _ (Answers (outlook session) frame) from
        Does.ensured (answers.mono fun _ _ _ answers => ⟨answers, fun _ _ => demands⟩)
      refine Does.saying fun session' same => Does.get ?_
      rw [← same]
      cases replied : reply session'.config challenge with
      | error error => exact Does.throw (.refused _)
      | ok asked =>
        cases asked with
        | none =>
          apply Does.pure
          apply Answers.unasked
          rw [Frame.challenge?, found, reply_none replied]
        | some answer =>
          have asked : frame.challenge? = some challenge := by
            rw [Frame.challenge?, found]
            cases challenge with
            | ok => cases replied
            | cleartextPassword | md5Password salt => rfl
          refine (send_asks _).bind (fun _ last calls _ wrote => ?_) ?_
          · cases wrote
            exact Does.pure (.answered asked replied)
          · intro calls _ halt failed
            cases failed with
            | failed kind => exact .unsent asked replied _
            | long crash long => exact .refused _
  · rw [if_neg tag]
    exact Does.throw ⟨.refused _, nofun⟩

theorem onAuthentication_does (frame : Frame) : Does session (Unbuffered.onAuthentication frame)
    (Demanding (outlook session) (reported session) frame) := by
  have still : reported (final (Unbuffered.onAuthentication frame session)) = reported session := by
    rw [onAuthentication_eq]
    split
    · cases frame.decode Reader.authentication with
      | error error => rfl
      | ok challenge => exact (Talk.takeUp challenge).reported session
    · rfl
  exact ((onAuthentication_asks frame).still still).mono fun _ _ _ holds =>
    ⟨holds.2.1, holds.1, holds.2.2⟩

/-- What is done about a message of a server that is about to be ready: it is taken note of, without a
word. -/
structure Concluding (_before : Outlook τ) (report : Report) (frame : Frame) (calls : List Call)
    (report' : Report) (result : Except (Halt Error) (Option Unit)) : Prop where
  silent : calls = []
  heard : report' = report.hear frame
  onward : result = .ok none → frame.TellsKey
  last : ∀ value, result = .ok (some value) → frame.TellsReady

/-- A note in the report, made without a call. -/
theorem Does.noted {change : Session τ → Session τ} {value : α}
    {described : List Call → Report → Except (Halt Error) α → Prop}
    (keeps : (change session).config = session.config ∧ (change session).channel = session.channel ∧
      (change session).buses = session.buses)
    (holds : described [] (reported (change session)) (.ok value)) :
    Does session (do
      modify change
      return value) described := by
  intro discreet
  obtain ⟨config, channel, buses⟩ := keeps
  have same := Advances.refl discreet
  refine ⟨[], ⟨?_, ?_, ?_⟩, holds⟩
  · change outlook (change session) = _
    rw [outlook, config, channel]
    exact same.outlook
  · change (change session).channel.calls = _
    rw [channel]
    exact same.calls
  · change Discreet (change session).buses
    rw [buses]
    exact discreet

theorem onReady_does (frame : Frame) (general : frame.general = none) :
    Does session (Unbuffered.onReady frame)
      (Concluding (outlook session) (reported session) frame) := by
  have parameter := Frame.parameter_solicited general
  unfold Unbuffered.onReady
  split
  · next tag =>
    have status : frame.status? = none := Frame.reads?_other (by rw [tag]; decide) _
    cases decoded : frame.decode Reader.keyData with
    | error error =>
      have nothing := Report.hear_nothing parameter status (Frame.reads?_failed decoded)
      exact Does.throw ⟨rfl, (nothing _).symm, nofun, nofun⟩
    | ok key =>
      have heard := (Report.hear_key tag decoded (reported session)).symm
      exact Does.ensured (Does.noted ⟨rfl, rfl, rfl⟩
        ⟨rfl, heard, fun _ => Frame.reads_of_decode tag decoded, nofun⟩)
  · next notKey =>
    have key : frame.key? = none := Frame.reads?_other notKey _
    split
    · next tag =>
      cases decoded : frame.decode Reader.transactionStatus with
      | error error =>
        have nothing := Report.hear_nothing parameter (Frame.reads?_failed decoded) key
        exact Does.throw ⟨rfl, (nothing _).symm, nofun, nofun⟩
      | ok status =>
        have heard := (Report.hear_status tag decoded (reported session)).symm
        exact Does.ensured (Does.noted ⟨rfl, rfl, rfl⟩
          ⟨rfl, heard, nofun, fun _ _ => Frame.reads_of_decode tag decoded⟩)
    · next notReady =>
      have status : frame.status? = none := Frame.reads?_other notReady _
      exact Does.throw ⟨rfl, (Report.hear_nothing parameter status key _).symm, nofun, nofun⟩

omit [Transport τ] in
/-- Nothing is said to a server that is about to be ready, since it asks for nothing. -/
theorem Concluding.answers {before : Outlook τ} {report report' : Report} {frame : Frame}
    {calls : List Call} {result : Except (Halt Error) (Option Unit)}
    (concluding : Concluding before report frame calls report' result) :
    Answers before frame calls result := by
  obtain ⟨rfl, -, onward, last⟩ := concluding
  cases result with
  | error halt => exact .refused halt
  | ok value =>
    have other : frame.tag ≠ Tag.authentication := by
      cases value with
      | none =>
        rw [(onward rfl).1]
        decide
      | some value =>
        rw [(last value rfl).1]
        decide
    exact .unasked value (by rw [Frame.challenge?, Frame.reads?_other other])

/-- What a stage does, told from where it starts and what has been reported until then. -/
abbrev Doing (τ : Type) :=
  Outlook τ → Report → List Call → Report → Except (Halt Error) Unit → Prop

def Securing : Doing τ := fun before report calls report' result =>
  report' = report ∧ Secures before calls result

def Introducing : Doing τ := fun before report calls report' result =>
  report' = report ∧ Introduces before calls result

def Authenticating : Doing τ := fun before report calls report' result =>
  Guarded (fun made => Attends Demanding before report made report') calls result

def Readying : Doing τ := fun before report calls report' result =>
  Guarded (fun made => Attends Concluding before report made report') calls result

/-- Two stages: one that does not succeed is the last. -/
inductive Then (first second : Doing τ) (before : Outlook τ) (report : Report) :
    List Call → Report → Except (Halt Error) Unit → Prop
  | halted {calls : List Call} {report' : Report} {halt : Halt Error}
    (ended : first before report calls report' (.error halt)) :
    Then first second before report calls report' (.error halt)
  | onward {calls more : List Call} {between report' : Report} {result : Except (Halt Error) Unit}
    (done : first before report calls between (.ok ()))
    (others : second (before.after calls) between more report' result) :
    Then first second before report (calls ++ more) report' result

private theorem Does.andThen {first second : Doing τ} {action rest : Action τ Unit}
    (does : Does session action (first (outlook session) (reported session)))
    (others : ∀ session : Session τ, Does session rest (second (outlook session) (reported session))) :
    Does session (action >>= fun _ => rest)
      (Then first second (outlook session) (reported session)) := by
  refine does.bind (fun _ between calls advances done => ?_) fun _ _ _ => .halted
  refine (others between).mono fun more report result holds => ?_
  rw [advances.outlook] at holds
  exact .onward done holds

theorem secure_does : Does session Unbuffered.secure
    (Securing (outlook session) (reported session)) :=
  secure_asks.still (Means.secure.still session)

theorem sendStartup_does : Does session Unbuffered.sendStartup
    (Introducing (outlook session) (reported session)) :=
  sendStartup_asks.still (Means.sendStartup.still session)

theorem authenticate_does : Does session Unbuffered.authenticate
    (Authenticating (outlook session) (reported session)) :=
  Does.guarded (waiting_does fun _ frame _ => onAuthentication_does frame)

theorem becomeReady_does : Does session Unbuffered.becomeReady
    (Readying (outlook session) (reported session)) := by
  have waits : Does session (guarded .postAuthentication Unbuffered.awaitReady)
      (Readying (outlook session) (reported session)) :=
    Does.guarded (waiting_does fun _ => onReady_does)
  refine waits.bind (fun _ between calls _ ready => ?_) fun _ _ _ => id
  exact Does.say (by rw [List.append_nil]; exact ready)

/-- The four stages of a handshake. -/
def Shaking : Doing τ := Then Securing (Then Introducing (Then Authenticating Readying))

theorem handshake_does : Does session Unbuffered.handshake
    (Shaking (outlook session) (reported session)) :=
  secure_does.andThen fun _ => sendStartup_does.andThen fun _ =>
    authenticate_does.andThen fun _ => becomeReady_does

/-- One message is received outside a handshake, and only one that may come at any time is welcome. -/
inductive Ticking (before : Outlook τ) (report : Report) (timeout : Nat) :
    List Call → Report → Except (Halt Error) Unit → Prop
  | unheard {calls : List Call} {halt : Halt Error}
    (receives : Receives before timeout calls (.error halt)) :
    Ticking before report timeout calls report (.error halt)
  | heard {calls : List Call} {frame : Frame} (receives : Receives before timeout calls (.ok frame))
    {result : Except (Halt Error) Unit} (plain : Plain result) :
    Ticking before report timeout calls (report.overhear frame) result

theorem tick_does (timeout : Nat) : Does session (Unbuffered.tick timeout)
    (Ticking (outlook session) (reported session) timeout) := by
  refine (receive_does timeout).bind (fun frame between calls _ received => ?_) ?_
  · obtain ⟨same, receives⟩ := received
    refine (dispatch_does frame).bind (fun general last more _ dispatched => ?_) ?_
    · obtain ⟨rfl, told, -⟩ := dispatched
      rw [same] at told
      have heard : ∀ result : Except (Halt Error) Unit, Plain result →
          Ticking (outlook session) (reported session) timeout (calls ++ ([] ++ [])) (reported last)
            result := by
        intro result plain
        rw [told, List.append_nil, List.append_nil]
        exact .heard receives plain
      cases general with
      | true => exact Does.pure (heard _ trivial)
      | false => exact Does.throw (heard _ rfl)
    · rintro more report' halt ⟨rfl, told, sorted⟩
      cases sorted with
      | failed _ kind =>
        rw [told, same, List.append_nil]
        exact .heard receives rfl
  · rintro calls report' halt ⟨rfl, receives⟩
    exact .unheard receives

theorem Ticking.plain {before : Outlook τ} {report report' : Report} {timeout : Nat} {calls : List Call}
    {result : Except (Halt Error) Unit} (ticks : Ticking before report timeout calls report' result) :
    Plain result := by
  cases ticks with
  | unheard receives =>
    obtain ⟨kind, rfl⟩ := receives.unnamed
    rfl
  | heard _ plain => exact plain

private theorem heardBy_read (link : τ) (count timeout : Nat) (succeeded : Bool) :
    (heardBy link (.read count timeout succeeded)).length = count ∨
      heardBy link (.read count timeout succeeded) = [] := by
  cases ran : Transport.read link count timeout with
  | mk result link' =>
    simp only [heardBy, ran]
    cases result with
    | ok bytes => exact .inl (Transport.read_length ran)
    | error error => exact .inr rfl

/-- Nothing is said while receiving. -/
theorem Receives.talks {before : Outlook τ} {timeout : Nat} {calls : List Call}
    {result : Except (Halt Error) Frame} (receives : Receives before timeout calls result)
    (spoken : FrontendMessage → Prop) : Talks spoken before calls := by
  have header : ∀ succeeded, Talks spoken before [.read headerSize timeout succeeded] := by
    refine fun succeeded => ⟨fun call member => ?_, fun front rest split => ?_⟩
    · exact .inl ⟨_, _, _, List.mem_singleton.mp member⟩
    · rcases List.append_eq_singleton_iff.mp split.symm with ⟨rfl, -⟩ | ⟨rfl, -⟩
      · exact Nat.zero_ne_one
      · change (heardBy before.link _ ++ []).length ≠ 1
        rw [List.append_nil]
        rcases heardBy_read before.link headerSize timeout succeeded with five | none
        · rw [five]
          decide
        · rw [none]
          exact Nat.zero_ne_one
  have behind : ∀ count succeeded,
      (heard before.link [.read headerSize timeout true]).length = headerSize →
      Talks spoken before [.read headerSize timeout true, .read count timeout succeeded] := by
    refine fun count succeeded five => ⟨fun call member => ?_, fun front rest split => ?_⟩
    · rcases List.mem_cons.mp member with rfl | other
      · exact .inl ⟨_, _, _, rfl⟩
      · exact .inl ⟨_, _, _, List.mem_singleton.mp other⟩
    · cases front with
      | nil => exact Nat.zero_ne_one
      | cons first front =>
        obtain ⟨rfl, -⟩ := List.cons.inj split
        change (heard before.link ([_] ++ front)).length ≠ 1
        rw [heard_append, List.length_append, five, headerSize]
        omega
  cases receives with
  | unheard | refused => exact header _
  | cut five | whole five => exact behind _ _ five

section

variable {before : Outlook τ} {report report' : Report} {calls : List Call}

/-- A stage that waits says what it says in answer to a message. -/
theorem Attends.talks {acts : Acting τ α} {spoken : FrontendMessage → Prop}
    (acted : ∀ {before report frame calls report' result},
      acts before report frame calls report' result → Talks spoken before calls)
    {result : Except (Halt Error) α} (attends : Attends acts before report calls report' result) :
    Talks spoken before calls := by
  have turned : ∀ {before : Outlook τ} {report report' calls result},
      Turns acts before report calls report' result → Talks spoken before calls := by
    intro before report report' calls result turns
    cases turns with
    | unheard receives | general receives => exact receives.talks spoken
    | acted receives _ acts => exact (receives.talks spoken).append (acted acts)
  induction attends with
  | last turns | halted turns => exact turned turns
  | onward turns _ ih => exact (turned turns).append ih

/-- The messages that answer a challenge. -/
def Credential (message : FrontendMessage) : Prop := ∃ answer, message = .password answer

theorem Authenticating.talks {result : Except (Halt Error) Unit}
    (does : Authenticating before report calls report' result) :
    Guarded (fun made _ => Talks Credential before made) calls result := by
  refine Guarded.mono does fun calls result attends => attends.talks fun demanding => ?_
  obtain ⟨answers, -, -⟩ := demanding
  cases answers with
  | unasked | refused => exact .nil
  | answered | unsent => exact .one ⟨_, rfl⟩ _ _

/-- Nothing is said while waiting for the server to be ready. -/
theorem Readying.talks {result : Except (Halt Error) Unit}
    (does : Readying before report calls report' result) :
    Guarded (fun made _ => Talks (fun _ => False) before made) calls result := by
  refine Guarded.mono does fun calls result attends => attends.talks fun concluding => ?_
  obtain ⟨rfl, -, -, -⟩ := concluding
  exact .nil

theorem Ticking.talks {timeout : Nat} {result : Except (Halt Error) Unit}
    (ticks : Ticking before report timeout calls report' result) :
    Talks (fun _ => False) before calls := by
  cases ticks with
  | unheard receives | heard receives => exact receives.talks _

end

end PgSession.Proofs
