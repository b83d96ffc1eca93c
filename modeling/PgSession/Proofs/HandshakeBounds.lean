import PgSession.Proofs.Courses
import PgSession.Proofs.Dealings
import PgSession.Proofs.SessionSafety
import PgSession.Proofs.Transparency

/-!
What a handshake can cost. Every message that is received uses up a header, and every answer a
challenge, which is a header with a number behind it; so the bytes a server sends bound how often the
client listens and how often it speaks, however the server goes on.
-/

namespace PgSession.Proofs
open Wire Session

variable {τ α : Type} [Transport τ]

/-- A loop comes to a result in so many rounds. -/
inductive Rounds (step : Action τ (Option α)) :
    Nat → Session τ → EStateM.Result (Halt Error) (Session τ) α → Prop
  | last {session session' : Session τ} {value : α} (ran : step session = .ok (some value) session') :
    Rounds step 1 session (.ok value session')
  | halted {session session' : Session τ} {halt : Halt Error}
    (ran : step session = .error halt session') : Rounds step 1 session (.error halt session')
  | onward {count : Nat} {session between : Session τ}
    {result : EStateM.Result (Halt Error) (Session τ) α} (ran : step session = .ok none between)
    (others : Rounds step count between result) : Rounds step (count + 1) session result

/-- A loop comes to a result after so many rounds at most. -/
def EndsWithin (limit : Nat) (step : Action τ (Option α)) (session : Session τ)
    (result : EStateM.Result (Halt Error) (Session τ) α) : Prop :=
  ∃ count ≤ limit, Rounds step count session result

omit [Transport τ] in
theorem EndsWithin.mono {limit more : Nat} {step : Action τ (Option α)} {session : Session τ}
    {result : EStateM.Result (Halt Error) (Session τ) α} (ends : EndsWithin limit step session result)
    (enough : limit ≤ more) : EndsWithin more step session result := by
  obtain ⟨count, bound, rounds⟩ := ends
  exact ⟨count, Nat.le_trans bound enough, rounds⟩

/-- Every round but the last uses up a header. -/
theorem repeatUntil_ends {step : Action τ (Option α)} (lowers : Lowers headerSize step)
    (session : Session τ) : EndsWithin (session.unread / headerSize + 1) step session
      (repeatUntil step lowers.progress session) := by
  refine repeatUntil_induction step lowers.progress (motive := fun session result =>
    EndsWithin (session.unread / headerSize + 1) step session result) ?_ ?_ ?_ session
  · intro session value session' ran
    exact ⟨1, Nat.le_add_left 1 _, .last ran⟩
  · intro session halt session' ran
    exact ⟨1, Nat.le_add_left 1 _, .halted ran⟩
  · intro session between result ran ih
    obtain ⟨count, bound, rounds⟩ := ih
    have used := lowers _ _ _ ran
    refine ⟨count + 1, ?_, .onward ran rounds⟩
    simp only [headerSize] at bound used ⊢
    omega

/-- How often it was tried to receive a message. -/
def receptions (deals : List Dealing) : Nat :=
  deals.countP fun
    | .sent _ => false
    | .taken _ | .refused => true

private theorem receptions_append (deals others : List Dealing) :
    receptions (deals ++ others) = receptions deals + receptions others := List.countP_append

/-- Calls that are paid for by what they heard: a header for every message received, and nine bytes
for every write, but for so many of each. -/
structure Spends (before : Outlook τ) (calls : List Call) (late unasked : Nat) : Prop where
  receives : ∃ deals, Amounts before.config before.link calls deals ∧
    5 * receptions deals ≤ (heard before.link calls).length + 5 * late
  writes : 9 * (writesIn calls).length ≤ (heard before.link calls).length + 9 * unasked

namespace Spends

variable {before : Outlook τ} {calls more : List Call} {late late' unasked unasked' : Nat}

theorem nil : Spends before [] 0 0 := ⟨⟨[], .nil, Nat.le_refl _⟩, Nat.le_refl _⟩

theorem append (spends : Spends before calls late unasked)
    (others : Spends (before.after calls) more late' unasked') :
    Spends before (calls ++ more) (late + late') (unasked + unasked') := by
  obtain ⟨deals, amounts, receives⟩ := spends.receives
  obtain ⟨deals', amounts', receives'⟩ := others.receives
  have length : (heard before.link (calls ++ more)).length =
      (heard before.link calls).length + (heard (before.after calls).link more).length := by
    rw [heard_append, List.length_append]
    rfl
  have writes := spends.writes
  have writes' := others.writes
  refine ⟨⟨deals ++ deals', amounts.append amounts', ?_⟩, ?_⟩
  · rw [receptions_append, length]
    omega
  · rw [writesIn_append, List.length_append, length]
    omega

theorem mono (spends : Spends before calls late unasked) (later : late ≤ late')
    (more : unasked ≤ unasked') : Spends before calls late' unasked' := by
  obtain ⟨deals, amounts, receives⟩ := spends.receives
  have writes := spends.writes
  exact ⟨⟨deals, amounts, by omega⟩, by omega⟩

theorem write (message : FrontendMessage) (succeeded : Bool) :
    Spends before [before.writes message succeeded] 0 1 := by
  have amounts : Amounts before.config before.link [before.writes message succeeded] [.sent _] :=
    Amounts.sent _ _ _ _
  exact ⟨⟨_, amounts, Nat.zero_le _⟩, Nat.le_add_left ..⟩

/-- A call that neither writes nor begins a message. -/
theorem idle {call : Call} (nothing : Dealing.begun before.config before.link call = none) :
    Spends before [call] 0 0 := by
  refine ⟨⟨[], .idle nothing, Nat.zero_le _⟩, ?_⟩
  cases call with
  | write => cases nothing
  | read | close | upgrade => exact Nat.zero_le _

theorem close (spends : Spends before calls late unasked) (closed : Bool) :
    Spends before (calls ++ [.close closed]) late unasked :=
  spends.append (idle rfl)

end Spends

/-- Only what fails can have received one message too many. -/
def overdue : Except (Halt Error) α → Nat
  | .ok _ => 0
  | .error _ => 1

/-- A challenge has a number behind its header. -/
theorem Frame.challenge_long {frame : Frame} {challenge : Authentication}
    (asked : frame.challenge? = some challenge) : 9 ≤ frame.bytes.length := by
  obtain ⟨-, rest, read⟩ := Frame.reads?_eq_some_iff.mp (Frame.challenge_read asked)
  have number : 4 ≤ (Authentication.bytes challenge).length := by
    cases challenge <;> simp [Authentication.bytes]
  rw [Frame.bytes_length, (authentication_ok_iff.mp read).1, List.length_append]
  omega

private theorem overdue_le (result : Except (Halt Error) α) : overdue result ≤ 1 := by
  cases result with
  | ok value => exact Nat.zero_le _
  | error halt => exact Nat.le_refl _

section

variable {before : Outlook τ} {calls more : List Call}

/-- A message costs its header. -/
theorem Receives.spends {timeout : Nat} {result : Except (Halt Error) Frame}
    (receives : Receives before timeout calls result) : Spends before calls (overdue result) 0 := by
  have one : receptions [.ofHeader (upcoming before.config before.link timeout)] = 1 := by
    cases upcoming before.config before.link timeout <;> rfl
  have silent : (writesIn calls).length = 0 := congrArg List.length receives.silent
  refine ⟨⟨_, receives.amounts, ?_⟩, by omega⟩
  rw [one]
  cases receives with
  | unheard | refused | cut => exact Nat.le_add_left ..
  | whole _ _ _ same =>
    rw [same, Frame.bytes_length]
    omega

/-- A message is received, and nothing is done about it, or it is long enough to be answered. -/
theorem Receives.affords {timeout : Nat} {frame : Frame}
    (receives : Receives before timeout calls (.ok frame)) {result : Except (Halt Error) (Option Unit)}
    (answers : Answers (before.after calls) frame more result) : Spends before (calls ++ more) 0 0 := by
  have answered : ∀ {challenge} message succeeded, frame.challenge? = some challenge →
      Spends before (calls ++ [(before.after calls).writes message succeeded]) 0 0 := by
    intro challenge message succeeded asked
    have both := receives.spends.append (.write message succeeded)
    have wrote : (writesIn (calls ++ [(before.after calls).writes message succeeded])).length = 1 := by
      rw [writesIn_append, receives.silent]
      rfl
    have long := Frame.challenge_long asked
    refine ⟨both.receives, ?_⟩
    rw [wrote]
    cases receives with
    | whole _ _ _ same =>
      rw [heard_append, List.length_append, same]
      omega
  cases answers with
  | unasked | refused =>
    rw [List.append_nil]
    exact receives.spends
  | answered asked => exact answered _ true asked
  | unsent asked => exact answered _ false asked

/-- In a stage that waits nothing is said unasked, and only the last message may bring nothing. -/
theorem Attends.spends {acts : Acting τ Unit} (acted : ∀ {before report frame calls report' result},
      acts before report frame calls report' result → Answers before frame calls result)
    {report report' : Report} {result : Except (Halt Error) Unit}
    (attends : Attends acts before report calls report' result) :
    Spends before calls (overdue result) 0 := by
  have turned : ∀ {before : Outlook τ} {report report' calls result},
      Turns acts before report calls report' result → Spends before calls (overdue result) 0 := by
    intro before report report' calls result turns
    cases turns with
    | unheard receives => exact receives.spends
    | general receives => exact receives.spends.mono (Nat.zero_le _) (Nat.le_refl _)
    | acted receives _ acts => exact (receives.affords (acted acts)).mono (Nat.zero_le _) (Nat.le_refl _)
  induction attends with
  | last turns | halted turns => exact turned turns
  | onward turns _ ih =>
    have whole := (turned turns).append ih
    rw [overdue, Nat.zero_add] at whole
    exact whole

theorem Guarded.spends {unasked : Nat} {result : Except (Halt Error) Unit}
    (guarded : Guarded (fun made result => Spends before made (overdue result) unasked) calls result) :
    Spends before calls (overdue result) unasked := by
  cases guarded with
  | going spends => exact spends
  | closed spends closed => exact spends.close closed

theorem Then.spends {first second : Doing τ} {unasked more : Nat}
    (spends : ∀ {before report calls report' result}, first before report calls report' result →
      Spends before calls (overdue result) unasked)
    (others : ∀ {before report calls report' result}, second before report calls report' result →
      Spends before calls (overdue result) more)
    {report report' : Report} {result : Except (Halt Error) Unit}
    (stages : Then first second before report calls report' result) :
    Spends before calls (overdue result) (unasked + more) := by
  cases stages with
  | halted ended => exact (spends ended).mono (Nat.le_refl _) (Nat.le_add_right ..)
  | onward done rest =>
    have whole := (spends done).append (others rest)
    rw [overdue, Nat.zero_add] at whole
    exact whole

/-- The answer to the request is a single byte, and no message. -/
theorem Spends.asked (sent heard : Bool) : Spends before
    [before.writes .sslRequest sent, .read 1 before.config.timeout heard] 0 1 :=
  (Spends.write .sslRequest sent).append (.idle rfl)

theorem Secures.spends {result : Except (Halt Error) Unit} (secures : Secures before calls result) :
    Spends before calls 0 1 := by
  cases secures with
  | skipped => exact Spends.nil.mono (Nat.le_refl _) (Nat.zero_le _)
  | broken wanted requests closed =>
    obtain ⟨sent, rfl | ⟨heard, rfl⟩⟩ := requests.asks
    · exact (Spends.write .sslRequest sent).close closed
    · exact (Spends.asked sent heard).close closed
  | refused => exact .asked true true
  | accepted | stuck => exact (Spends.asked true true).append (.idle rfl)

theorem Sends.spends {message : FrontendMessage} {result : Except (Halt Error) Unit}
    (sends : Sends before message calls result) : Spends before calls 0 1 := by
  cases sends with
  | sent | failed => exact .write message _
  | long => exact Spends.nil.mono (Nat.le_refl _) (Nat.zero_le _)

variable {report report' : Report} {result : Except (Halt Error) Unit}

theorem Securing.spends (does : Securing before report calls report' result) :
    Spends before calls (overdue result) 1 :=
  does.2.spends.mono (Nat.zero_le _) (Nat.le_refl _)

theorem Introducing.spends (does : Introducing before report calls report' result) :
    Spends before calls (overdue result) 1 :=
  Guarded.spends (does.2.mono fun _ _ sends => sends.spends.mono (Nat.zero_le _) (Nat.le_refl _))

theorem Authenticating.spends (does : Authenticating before report calls report' result) :
    Spends before calls (overdue result) 0 :=
  Guarded.spends (Guarded.mono does fun _ _ attends => attends.spends Demanding.answers)

theorem Readying.spends (does : Readying before report calls report' result) :
    Spends before calls (overdue result) 0 :=
  Guarded.spends (Guarded.mono does fun _ _ attends => attends.spends Concluding.answers)

/-- Two messages are sent unasked, and only the last that is received may bring nothing. -/
theorem Shaking.spends (does : Shaking before report calls report' result) :
    Spends before calls (overdue result) 2 :=
  Then.spends Securing.spends (Then.spends Introducing.spends
    (Then.spends Authenticating.spends Readying.spends)) does

end

/-- A client that has not begun has made no call. -/
theorem startup_silent (config : Config) (link : τ) {operations : List Operation}
    (fresh : (performAll (Client.new config link) operations).phase = .startup) :
    let client := performAll (Client.new config link) operations
    Sturdy client.session ∧ client.session.channel.calls = [] ∧
      outlook client.session = beginning config link := by
  intro client
  have underway : Underway (beginning config link) (Course (beginning config link) True) client :=
    performAll_course config link fun _ _ => trivial
  have course := underway.known
  rw [show client.phase = .startup from fresh] at course
  have same := underway.outlook
  rw [course.of_startup, Outlook.after_nil] at same
  exact ⟨underway.sturdy, course.of_startup, same⟩

/-- What was heard is at most all that was served. -/
theorem Spends.bounded {config : Config} {script : Script} {calls : List Call} {late unasked : Nat}
    (spends : Spends (beginning config script) calls late unasked) :
    receptions (dealings config script calls) ≤ script.served.length / 5 + late ∧
      (writesIn calls).length ≤ unasked + script.served.length / 9 := by
  have heard : (heard (beginning config script).link calls).length ≤ script.served.length := by
    rw [← heard_served script calls, List.length_append]
    exact Nat.le_add_right ..
  obtain ⟨deals, amounts, receives⟩ := spends.receives
  have writes := spends.writes
  have same : dealings config script calls = deals := amounts.dealings_eq
  rw [same]
  omega

/-- Whatever a server sends and however it goes on, a handshake tries to receive at most once for
every five bytes that were served and once more, and writes at most once for every nine bytes and
twice more. Each of its loops ends, within so many rounds, and so does the handshake. -/
theorem handshake_bounded (config : Config) (script : Script) (operations : List Operation)
    (allowed : (performAll (Client.new config script) operations).phase.allows .handshake) :
    let ran := (performAll (Client.new config script) operations).perform .handshake
    let calls := ran.2.session.channel.calls
    let limit := script.served.length / 5 + 1
    receptions (dealings config script calls) ≤ limit ∧
      (writesIn calls).length ≤ 2 + script.served.length / 9 ∧
      (Expressible config → ∃ result, ran.1 = .finished result) ∧
      ∀ session : Session Script, session.unread ≤ script.served.length →
        EndsWithin limit receiveOnce session (receiveOther session) ∧
        EndsWithin limit answerChallenge session
          (repeatUntil answerChallenge answerChallenge_lowers.progress session) ∧
        EndsWithin limit awaitReady session
          (repeatUntil awaitReady awaitReady_lowers.progress session) := by
  intro ran calls limit
  obtain ⟨sturdy, silent, same⟩ := startup_silent config script (startup_of_handshake allowed)
  have runs : ran = Client.advance _ Session.handshake .connection .done := perform_allowed allowed
  obtain ⟨made, advances, -, does⟩ := Means.handshake.refines.does sturdy handshake_does
  have spends := Shaking.spends does
  rw [same] at spends
  have all : calls = made := by
    have whole := advances.calls
    rw [silent, List.nil_append] at whole
    rw [← whole]
    simp only [calls, runs, advance_eq]
  obtain ⟨receives, writes⟩ := (spends.mono (overdue_le _) (Nat.le_refl _)).bounded
  rw [all]
  refine ⟨receives, writes, fun expressible => ?_, fun session few => ?_⟩
  · have start : Fit config _ (Client.new config script).session := new_fit config script
    have fit := performAll_fit expressible start operations
    rw [show ran = _ from perform_allowed allowed]
    exact (run_finished expressible fit .handshake).result rfl
  · have enough : session.unread / headerSize + 1 ≤ limit :=
      Nat.add_le_add_right (Nat.div_le_div_right few) 1
    exact ⟨(repeatUntil_ends receiveOnce_lowers session).mono enough,
      (repeatUntil_ends answerChallenge_lowers session).mono enough,
      (repeatUntil_ends awaitReady_lowers session).mono enough⟩

private def frugalConfig : Config := { user := "ada", password := some "secret" }

private def insisting : Script where
  served := [⟨Tag.authentication, int32 3⟩, ⟨Tag.authentication, int32 3⟩].flatMap Frame.bytes ++ [82]

/-- A server that asks for the password twice, and whose last bytes are the beginning of a header.
-/
theorem handshake_bounded_insisting :
    let ran := (performAll (Client.new frugalConfig insisting) []).perform .handshake
    let calls := ran.2.session.channel.calls
    insisting.served.length = 19 ∧ receptions (dealings frugalConfig insisting calls) = 3 ∧
      (writesIn calls).length = 3 ∧
      receptions (dealings frugalConfig insisting calls) ≤ insisting.served.length / 5 + 1 ∧
      (writesIn calls).length ≤ 2 + insisting.served.length / 9 := by
  have bounded := handshake_bounded frugalConfig insisting [] rfl
  exact ⟨by decide +kernel, by decide +kernel, by decide +kernel, bounded.1, bounded.2.1⟩

end PgSession.Proofs
