import PgSession.Proofs.AcceptedFrames
import PgSession.Proofs.RoutineInvariants

/-!
What an action does: the calls it makes, in order, the report it leaves, and what it comes to. The
outcome of a call is what the transport made of it, so the calls alone say which bytes were read and
in which state they leave the transport. The rules follow the way programs are composed.
-/

namespace PgSession.Proofs
open Wire Session

variable {τ α β : Type} [Transport τ]

/-- The transport after a call. -/
def afterCall (link : τ) : Call → τ
  | .read count timeout _ => (Transport.read link count timeout).2
  | .write _ bytes timeout _ => (Transport.write link bytes timeout).2
  | .close _ => (Transport.close link).2
  | .upgrade _ => (Transport.upgrade link).2

def replay (link : τ) (calls : List Call) : τ := calls.foldl afterCall link

/-- What a call read, if it was a read and succeeded. -/
def heardBy (link : τ) : Call → List UInt8
  | .read count timeout _ =>
    match (Transport.read link count timeout).1 with
    | .ok bytes => bytes
    | .error _ => []
  | _ => []

/-- All that was read, in order. -/
def heard (link : τ) : List Call → List UInt8
  | [] => []
  | call :: calls => heardBy link call ++ heard (afterCall link call) calls

theorem heardBy_ok {link link' : τ} {count timeout : Nat} {bytes : List UInt8}
    (ran : Transport.read link count timeout = (.ok bytes, link')) (succeeded : Bool) :
    heardBy link (.read count timeout succeeded) = bytes := by
  simp only [heardBy, ran]

theorem heardBy_failed {link link' : τ} {count timeout : Nat} {error : IoError}
    (ran : Transport.read link count timeout = (.error error, link')) (succeeded : Bool) :
    heardBy link (.read count timeout succeeded) = [] := by
  simp only [heardBy, ran]

def upgrades : Call → Bool
  | .upgrade succeeded => succeeded
  | _ => false

theorem replay_append (link : τ) (calls more : List Call) :
    replay link (calls ++ more) = replay (replay link calls) more := List.foldl_append

theorem heard_append (link : τ) (calls more : List Call) :
    heard link (calls ++ more) = heard link calls ++ heard (replay link calls) more := by
  induction calls generalizing link with
  | nil => rfl
  | cons call calls ih =>
    simp only [List.cons_append, heard, ih, List.append_assoc]
    rfl

theorem split_nil {before after : List Call} {call : Call} (same : [] = before ++ call :: after) :
    False := by
  cases before <;> cases same

theorem split_mem {calls before after : List Call} {call : Call}
    (same : calls = before ++ call :: after) : call ∈ calls := by
  rw [same]
  exact List.mem_append_cons_self

/-- A list that is split in two ways is split inside one of its halves. -/
theorem split_append {first more before after : List Call} {call : Call}
    (same : first ++ more = before ++ call :: after) :
    (∃ middle, first = before ++ call :: middle ∧ after = middle ++ more) ∨
      ∃ middle, before = first ++ middle ∧ more = middle ++ call :: after := by
  rcases List.append_eq_append_iff.mp same with ⟨middle, front, back⟩ | ⟨middle, front, back⟩
  · exact .inr ⟨middle, front, back⟩
  · cases middle with
    | nil =>
      refine .inr ⟨[], ?_, back.symm⟩
      rw [front, List.append_nil, List.append_nil]
    | cons other middle =>
      cases back
      exact .inl ⟨middle, front, rfl⟩

theorem split_one {only call : Call} {before after : List Call}
    (same : [only] = before ++ call :: after) : before = [] ∧ only = call ∧ after = [] := by
  cases before with
  | nil =>
    cases same
    exact ⟨rfl, rfl, rfl⟩
  | cons first rest =>
    have short := congrArg List.length same
    simp at short

theorem split_two {first second call : Call} {before after : List Call}
    (same : [first, second] = before ++ call :: after) :
    before = [] ∧ first = call ∧ after = [second] ∨ before = [first] ∧ second = call ∧ after = [] := by
  have halves : [first] ++ [second] = before ++ call :: after := same
  rcases split_append halves with ⟨middle, front, rfl⟩ | ⟨middle, rfl, back⟩
  · obtain ⟨rfl, rfl, rfl⟩ := split_one front
    exact .inl ⟨rfl, rfl, rfl⟩
  · obtain ⟨rfl, rfl, rfl⟩ := split_one back
    exact .inr ⟨rfl, rfl, rfl⟩

/-- A call that is not in the first half stands in the second. -/
theorem split_behind {first more before after : List Call} {call : Call}
    (same : first ++ more = before ++ call :: after) (absent : call ∉ first) :
    ∃ middle, before = first ++ middle ∧ more = middle ++ call :: after := by
  rcases split_append same with ⟨middle, front, -⟩ | back
  · exact absurd (split_mem front) absent
  · exact back

/-- A call that is not in the second half stands in the first. -/
theorem split_ahead {first more before after : List Call} {call : Call}
    (same : first ++ more = before ++ call :: after) (absent : call ∉ more) :
    ∃ middle, first = before ++ call :: middle ∧ after = middle ++ more := by
  rcases split_append same with front | ⟨middle, -, back⟩
  · exact front
  · exact absurd (split_mem back) absent

/-- The part of a session that its calls depend on. -/
structure Outlook (τ : Type) where
  config : Config
  link : τ
  encrypted : Bool

def outlook (session : Session τ) : Outlook τ :=
  ⟨session.config, session.channel.link, session.channel.encrypted⟩

def Outlook.after (before : Outlook τ) (calls : List Call) : Outlook τ :=
  ⟨before.config, replay before.link calls, before.encrypted || calls.any upgrades⟩

theorem Outlook.after_append (before : Outlook τ) (calls more : List Call) :
    before.after (calls ++ more) = (before.after calls).after more := by
  simp only [Outlook.after, replay_append, List.any_append, Bool.or_assoc]

/-- No subscriber touches the transport. -/
def Discreet (buses : Buses) : Prop :=
  ∀ topic, ∀ entry ∈ (buses.get topic).active, ∀ seen,
    (entry.2.respond seen).records.filterMap Effect.call? = []

/-- These calls lead from one session to the other, and its subscribers leave the transport alone. -/
structure Advances (session : Session τ) (calls : List Call) (session' : Session τ) : Prop where
  outlook : outlook session' = (outlook session).after calls
  calls : session'.channel.calls = session.channel.calls ++ calls
  discreet : Discreet session'.buses

theorem Outlook.after_nil (before : Outlook τ) : before.after [] = before := by
  simp only [Outlook.after, List.any_nil, Bool.or_false]
  rfl

theorem Advances.refl {session : Session τ} (discreet : Discreet session.buses) :
    Advances session [] session :=
  ⟨(Outlook.after_nil _).symm, (List.append_nil _).symm, discreet⟩

theorem Advances.trans {first middle last : Session τ} {calls more : List Call}
    (one : Advances first calls middle) (two : Advances middle more last) :
    Advances first (calls ++ more) last := by
  refine ⟨?_, ?_, two.discreet⟩
  · rw [two.outlook, one.outlook, Outlook.after_append]
  · rw [two.calls, one.calls, List.append_assoc]

section

variable {session session' : Session τ} {calls : List Call}

theorem Advances.config (advances : Advances session calls session') :
    session'.config = session.config := congrArg Outlook.config advances.outlook

theorem Advances.link (advances : Advances session calls session') :
    session'.channel.link = replay session.channel.link calls :=
  congrArg Outlook.link advances.outlook

end

/-- Where an action leaves the session, whatever it came to. -/
def final : EStateM.Result (Halt Error) (Session τ) α → Session τ
  | .ok _ session => session
  | .error _ session => session

def outcome : EStateM.Result (Halt Error) (Session τ) α → Except (Halt Error) α
  | .ok value _ => .ok value
  | .error halt _ => .error halt

section

omit [Transport τ]

variable (buffer : Buffer) (result : EStateM.Result (Halt Error) (Session τ) α)

theorem outcome_withBuffer : outcome (withBuffer buffer result) = outcome result := by
  cases result <;> rfl

theorem final_withBuffer : final (withBuffer buffer result) = { final result with buffer } := by
  cases result <;> rfl

end

omit [Transport τ] in
/-- Where a crash makes no difference, only the session that is left counts. -/
theorem abides_final {holds : Session τ → Prop} {action : Action τ α} :
    Abides holds (fun _ => holds) action ↔ ∀ session, holds session → holds (final (action session)) := by
  refine forall_congr' fun session => imp_congr_right fun _ => ?_
  rcases action session with _ | ⟨_ | _⟩ <;> exact Iff.rfl

omit [Transport τ] in
private theorem reported_onChannel (action : Channel.Action τ α) (session : Session τ) :
    reported (final (onChannel action session)) = reported session := by
  simp only [onChannel]
  cases action session.channel <;> rfl

private theorem reported_shut (stage : Stage) (error : Error) (session : Session τ) :
    reported (shut stage error session) = reported session := by
  unfold shut
  dsimp only
  split <;> rfl

/-- In talk nothing is reported. -/
theorem Talk.reported {commands : Prop} (talk : Talk commands α) (session : Session τ) :
    reported (final (talk.run .direct session)) = reported session := by
  have calls {β : Type} (action : Channel.Action τ β) :
      Abides (fun after => Proofs.reported after = Proofs.reported session)
        (fun _ after => Proofs.reported after = Proofs.reported session) (onChannel action) :=
    abides_final.mpr fun after same => (reported_onChannel action after).trans same
  have keeps : TalkKeeps (fun after => Proofs.reported after = Proofs.reported session)
      (fun _ after => Proofs.reported after = Proofs.reported session) (Medium.direct (τ := τ)) :=
    .direct (fun _ => abides_final.mpr fun _ => id) (fun _ => id) (fun _ _ => calls _) (fun _ => calls _)
      (calls _) (calls _)
  exact abides_final.mp (keeps.talk talk) session rfl

theorem Means.still {talk : Talk True α} {action direct : Action τ α}
    (means : Means (.talk talk) action direct) (session : Session τ) :
    reported (final (direct session)) = reported session := by
  rw [← means.direct]
  exact talk.reported session

/-- Started on the session, the action makes calls, leaves a report and comes to an outcome as
described. -/
def Does (session : Session τ) (action : Action τ α)
    (described : List Call → Report → Except (Halt Error) α → Prop) : Prop :=
  Discreet session.buses → ∃ calls, Advances session calls (final (action session)) ∧
    described calls (reported (final (action session))) (outcome (action session))

/-- What an action asks of its transport, whatever it reports. -/
abbrev Asks (session : Session τ) (action : Action τ α)
    (described : List Call → Except (Halt Error) α → Prop) : Prop :=
  Does session action fun calls _ result => described calls result

theorem Asks.still {session : Session τ} {action : Action τ α}
    {described : List Call → Except (Halt Error) α → Prop} (asks : Asks session action described)
    (same : reported (final (action session)) = reported session) :
    Does session action fun calls report result =>
      report = reported session ∧ described calls result := by
  intro discreet
  obtain ⟨calls, advances, holds⟩ := asks discreet
  exact ⟨calls, advances, same, holds⟩

namespace Does

variable {session : Session τ} {action : Action τ α}
  {described : List Call → Report → Except (Halt Error) α → Prop}

theorem mono {other : List Call → Report → Except (Halt Error) α → Prop}
    (does : Does session action described)
    (weaker : ∀ calls report result, described calls report result → other calls report result) :
    Does session action other := by
  intro discreet
  obtain ⟨calls, advances, holds⟩ := does discreet
  exact ⟨calls, advances, weaker _ _ _ holds⟩

theorem pure {value : α} (holds : described [] (reported session) (.ok value)) :
    Does session (pure value) described := fun discreet => ⟨[], .refl discreet, holds⟩

theorem throw {halt : Halt Error} (holds : described [] (reported session) (.error halt)) :
    Does session (throw halt) described := fun discreet => ⟨[], .refl discreet, holds⟩

theorem bind {next : α → Action τ β}
    {described' : List Call → Report → Except (Halt Error) β → Prop}
    (first : Does session action described)
    (rest : ∀ value session' calls, Advances session calls session' →
      described calls (reported session') (.ok value) →
      Does session' (next value) fun more report result => described' (calls ++ more) report result)
    (halts : ∀ calls report halt, described calls report (.error halt) →
      described' calls report (.error halt)) :
    Does session (action >>= next) described' := by
  intro discreet
  obtain ⟨calls, advances, holds⟩ := first discreet
  cases ran : action session with
  | error halt session' =>
    rw [ran] at advances holds
    rw [bind_error ran]
    exact ⟨calls, advances, halts _ _ _ holds⟩
  | ok value session' =>
    rw [ran] at advances holds
    obtain ⟨more, onward, holds'⟩ := rest value session' calls advances holds advances.discreet
    rw [bind_ok ran]
    exact ⟨calls ++ more, advances.trans onward, holds'⟩

theorem ensured {value : α} {next : α → Action τ β}
    {described : List Call → Report → Except (Halt Error) β → Prop}
    (does : Does session (next value) described) :
    Does session (ensure (.ok value) >>= next) described := does

theorem get {next : Session τ → Action τ α} (does : Does session (next session) described) :
    Does session (get >>= next) described := does

end Does

private theorem advances_remarked {session : Session τ} (discreet : Discreet session.buses)
    (level : Log.Level) (text : String) : Advances session [] (remarked session level text) :=
  ⟨(Advances.refl discreet).outlook, List.filterMap_append .., discreet⟩

theorem advances_made {session : Session τ} (discreet : Discreet session.buses) {call : Call}
    {link : τ} (follows : afterCall session.channel.link call = link) (plain : upgrades call = false) :
    Advances session [call] (made session call link) := by
  refine ⟨?_, List.filterMap_append .., discreet⟩
  simp only [Outlook.after, List.any_cons, plain, List.any_nil, Bool.or_false, replay,
    List.foldl_cons, List.foldl_nil, outlook, follows]
  rfl

private theorem advances_upgraded {session : Session τ} (discreet : Discreet session.buses)
    {link : τ} (follows : (Transport.upgrade session.channel.link).2 = link) :
    Advances session [.upgrade true] (upgraded session link) := by
  refine ⟨?_, List.filterMap_append .., discreet⟩
  simp only [Outlook.after, List.any_cons, upgrades, List.any_nil, Bool.or_false, Bool.or_true,
    replay, List.foldl_cons, List.foldl_nil, outlook, afterCall, follows]
  rfl

namespace Advances

variable {first session : Session τ} {calls : List Call}

theorem remarked (advances : Advances first calls session) (level : Log.Level) (text : String) :
    Advances first calls (remarked session level text) := by
  have told := advances.trans (advances_remarked advances.discreet level text)
  rw [List.append_nil] at told
  exact told

theorem made (advances : Advances first calls session) {call : Call} {link : τ}
    (follows : afterCall session.channel.link call = link) (plain : upgrades call = false) :
    Advances first (calls ++ [call]) (made session call link) :=
  advances.trans (advances_made advances.discreet follows plain)

end Advances

/-- A stage that failed closes the transport, and does nothing else to it. -/
theorem advances_shut (stage : Stage) (error : Error) {session : Session τ}
    (discreet : Discreet session.buses) :
    ∃ closed, Advances session [.close closed] (shut stage error session) := by
  have told := advances_remarked discreet .debug s!"Failed in {stage.name}: {error.message}"
  unfold shut
  dsimp only
  split
  · next link ran => exact ⟨true, told.made (congrArg Prod.snd ran) rfl⟩
  · next closing link ran =>
    have closed : Advances session ([] ++ [.close false]) _ := told.made (congrArg Prod.snd ran) rfl
    exact ⟨false, closed.remarked _ _⟩

/-- A read yields the bytes that were heard, as many as were asked for. -/
inductive Reads (link : τ) (count timeout : Nat) :
    List Call → Except (Halt Error) (List UInt8) → Prop
  | heard (bytes : List UInt8) (length : bytes.length = count)
    (same : heard link [.read count timeout true] = bytes) :
    Reads link count timeout [.read count timeout true] (.ok bytes)
  | failed (kind : ErrorKind) :
    Reads link count timeout [.read count timeout false] (.error (.failed ⟨kind, none⟩))

/-- A call that yields nothing, with its outcome. -/
inductive Makes (call : Bool → Call) : List Call → Except (Halt Error) Unit → Prop
  | done : Makes call [call true] (.ok ())
  | failed (kind : ErrorKind) : Makes call [call false] (.error (.failed ⟨kind, none⟩))

/-- A stage makes the calls of what it guards, and one more if that failed. -/
inductive Guarded (described : List Call → Except (Halt Error) α → Prop) :
    List Call → Except (Halt Error) α → Prop
  | going {calls : List Call} {result : Except (Halt Error) α} (holds : described calls result)
    (unfailed : ∀ error, result ≠ .error (.failed error)) : Guarded described calls result
  | closed {calls : List Call} {cause : Error} (holds : described calls (.error (.failed cause)))
    (closed : Bool) (error : Error) :
    Guarded described (calls ++ [.close closed]) (.error (.failed error))

theorem Guarded.mono {described other : List Call → Except (Halt Error) α → Prop} {calls : List Call}
    {result : Except (Halt Error) α} (guarded : Guarded described calls result)
    (weaker : ∀ calls result, described calls result → other calls result) :
    Guarded other calls result := by
  cases guarded with
  | going holds unfailed => exact .going (weaker _ _ holds) unfailed
  | closed holds closed error => exact .closed (weaker _ _ holds) closed error

namespace Does

variable {session : Session τ}

theorem say {level : Log.Level} {text : String}
    {described : List Call → Report → Except (Halt Error) Unit → Prop}
    (holds : described [] (reported session) (.ok ())) : Does session (say level text) described :=
  fun discreet => ⟨[], advances_remarked discreet level text, holds⟩

/-- What is said in the log makes no difference to what follows. -/
theorem saying {level : Log.Level} {text : String} {next : Unit → Action τ α}
    {described : List Call → Report → Except (Halt Error) α → Prop}
    (rest : ∀ session', outlook session' = outlook session → Does session' (next ()) described) :
    Does session (Session.say level text >>= next) described := by
  intro discreet
  have told := advances_remarked discreet level text
  obtain ⟨calls, advances, holds⟩ := rest (remarked session level text) rfl discreet
  exact ⟨calls, told.trans advances, holds⟩

theorem read (count timeout : Nat) : Asks session (onChannel (Channel.read count timeout))
    (Reads session.channel.link count timeout) := by
  intro discreet
  cases ran : Transport.read session.channel.link count timeout with
  | mk result link =>
    have follows : ∀ succeeded, afterCall session.channel.link (.read count timeout succeeded) = link :=
      fun _ => congrArg Prod.snd ran
    cases result with
    | ok bytes =>
      rw [read_ok ran]
      refine ⟨_, advances_made discreet (follows true) rfl, .heard bytes (Transport.read_length ran) ?_⟩
      simp only [heard, heardBy, ran, List.append_nil]
    | error error =>
      rw [read_failed ran]
      exact ⟨_, advances_made discreet (follows false) rfl, .failed _⟩

/-- A call that is told by its success alone, and leaves encryption as it is. -/
private theorem perform (call : Bool → Call) (run : τ → Except IoError Unit × τ)
    (follows : ∀ succeeded,
      afterCall session.channel.link (call succeeded) = (run session.channel.link).2)
    (plain : ∀ succeeded, upgrades (call succeeded) = false) :
    Asks session (onChannel (Channel.perform call run)) (Makes call) := by
  intro discreet
  cases ran : run session.channel.link with
  | mk result link =>
    have left : (run session.channel.link).2 = link := congrArg Prod.snd ran
    cases result with
    | ok nothing =>
      rw [perform_ok ran]
      exact ⟨_, advances_made discreet ((follows true).trans left) (plain true), .done⟩
    | error error =>
      rw [perform_failed ran]
      exact ⟨_, advances_made discreet ((follows false).trans left) (plain false), .failed _⟩

theorem write (bytes : List UInt8) (timeout : Nat) :
    Asks session (onChannel (Channel.write bytes timeout))
      (Makes (.write session.channel.encrypted bytes timeout)) :=
  perform _ (Transport.write · bytes timeout) (fun _ => rfl) fun _ => rfl

theorem close : Asks session (onChannel Channel.close) (Makes .close) :=
  perform .close Transport.close (fun _ => rfl) fun _ => rfl

theorem upgrade : Asks session (onChannel Channel.upgrade) (Makes .upgrade) := by
  intro discreet
  cases ran : Transport.upgrade session.channel.link with
  | mk result link =>
    have follows : (Transport.upgrade session.channel.link).2 = link := congrArg Prod.snd ran
    cases result with
    | ok nothing =>
      rw [upgrade_ok ran]
      exact ⟨_, advances_upgraded discreet follows, .done⟩
    | error error =>
      rw [upgrade_failed ran]
      exact ⟨_, advances_made discreet follows rfl, .failed _⟩

theorem attempt {action : Action τ α}
    {described : List Call → Report → Except (Halt Error) α → Prop}
    {described' : List Call → Report → Except (Halt Error) (Except Error α) → Prop}
    (does : Does session action described)
    (done : ∀ calls report value, described calls report (.ok value) →
      described' calls report (.ok (.ok value)))
    (failed : ∀ calls report error, described calls report (.error (.failed error)) →
      described' calls report (.ok (.error error)))
    (crashed : ∀ calls report crash, described calls report (.error (.crashed crash)) →
      described' calls report (.error (.crashed crash))) :
    Does session (attempt action) described' := by
  intro discreet
  obtain ⟨calls, advances, holds⟩ := does discreet
  refine ⟨calls, ?_⟩
  cases ran : action session with
  | ok value session' =>
    rw [ran] at advances holds
    rw [attempt_done ran]
    exact ⟨advances, done _ _ _ holds⟩
  | error halt session' =>
    rw [ran] at advances holds
    cases halt with
    | failed error =>
      rw [attempt_failed ran]
      exact ⟨advances, failed _ _ _ holds⟩
    | crashed crash =>
      rw [attempt_crashed ran]
      exact ⟨advances, crashed _ _ _ holds⟩

/-- A call that is tried comes to something, and an error of it names no stage. -/
theorem attemptCall {call : Bool → Call} {action : Action τ Unit}
    (asks : Asks session action (Makes call)) :
    Asks session (Session.attempt action) fun calls result =>
      ∃ made : Except Error Unit, calls = [call (succeeded made)] ∧ result = .ok made ∧
        ∀ error, made = .error error → error.stage = none := by
  apply Does.attempt asks
  · intro calls _ value made
    cases made
    exact ⟨.ok (), rfl, rfl, nofun⟩
  · intro calls _ error made
    cases made with
    | failed kind =>
      refine ⟨.error ⟨kind, none⟩, rfl, rfl, ?_⟩
      rintro _ ⟨⟩
      rfl
  · intro calls _ crash made
    cases made

theorem guarded {stage : Stage} {action : Action τ α}
    {described : List Call → Report → Except (Halt Error) α → Prop}
    (does : Does session action described) :
    Does session (guarded stage action) fun calls report result =>
      Guarded (fun made => described made report) calls result := by
  intro discreet
  obtain ⟨calls, advances, holds⟩ := does discreet
  cases ran : action session with
  | ok value session' =>
    rw [ran] at advances holds
    rw [guarded_done stage ran]
    exact ⟨calls, advances, .going holds nofun⟩
  | error halt session' =>
    rw [ran] at advances holds
    cases halt with
    | failed error =>
      rw [guarded_failed stage ran]
      obtain ⟨closed, last⟩ := advances_shut stage error advances.discreet
      have whole : Advances session (calls ++ [.close closed]) (shut stage error session') :=
        Advances.trans advances last
      rw [← reported_shut stage error] at holds
      exact ⟨_, whole, .closed holds closed _⟩
    | crashed crash =>
      rw [guarded_crashed stage ran]
      exact ⟨calls, advances, .going holds nofun⟩

/-- What every round keeps to, the whole loop keeps to. -/
theorem repeatUntil {step : Action τ (Option α)} {progress : Progresses step}
    (round : Outlook τ → Report → List Call → Report → Except (Halt Error) (Option α) → Prop)
    (whole : Outlook τ → Report → List Call → Report → Except (Halt Error) α → Prop)
    (does : ∀ session, Does session step (round (outlook session) (reported session)))
    (last : ∀ before report calls report' value, round before report calls report' (.ok (some value)) →
      whole before report calls report' (.ok value))
    (halts : ∀ before report calls report' halt, round before report calls report' (.error halt) →
      whole before report calls report' (.error halt))
    (onward : ∀ before report calls between more report' result,
      round before report calls between (.ok none) →
      whole (before.after calls) between more report' result →
      whole before report (calls ++ more) report' result) :
    Does session (repeatUntil step progress) (whole (outlook session) (reported session)) := by
  -- The rounds before the last go on from what the earlier ones made of outlook and report.
  refine repeatUntil_induction step progress (motive := fun session result =>
    Discreet session.buses → ∃ calls, Advances session calls (final result) ∧
      whole (outlook session) (reported session) calls (reported (final result)) (outcome result))
    ?_ ?_ ?_ session
  · intro session value session' ran discreet
    obtain ⟨calls, advances, holds⟩ := does session discreet
    rw [ran] at advances holds
    exact ⟨calls, advances, last _ _ _ _ _ holds⟩
  · intro session halt session' ran discreet
    obtain ⟨calls, advances, holds⟩ := does session discreet
    rw [ran] at advances holds
    exact ⟨calls, advances, halts _ _ _ _ _ holds⟩
  · intro session session' result ran ih discreet
    obtain ⟨calls, advances, holds⟩ := does session discreet
    rw [ran] at advances holds
    obtain ⟨more, others, rest⟩ := ih advances.discreet
    have same : outlook session' = (outlook session).after calls := advances.outlook
    rw [same] at rest
    exact ⟨calls ++ more, Advances.trans advances others, onward _ _ _ _ _ _ _ holds rest⟩

end Does

/-- Nothing crashed, and an error names no stage. -/
def Plain : Except (Halt Error) α → Prop
  | .ok _ => True
  | .error (.failed error) => error.stage = none
  | .error (.crashed _) => False

theorem ensure_asks {session : Session τ} {result : Except Error α}
    (plain : ∀ error, result = .error error → error.stage = none) :
    Asks session (ensure result) fun calls result => calls = [] ∧ Plain result := by
  cases result with
  | ok value => exact Does.pure ⟨rfl, trivial⟩
  | error error => exact Does.throw ⟨rfl, plain error rfl⟩

end PgSession.Proofs
