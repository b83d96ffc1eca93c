import PgSession.Proofs.HandshakeLanguage
import PgSession.Proofs.Runs

/-!
What a session knows is what it was told. At every point of a run the parameters are those of the
messages received so far, however they were received and whoever refused them; and the status and
the key of a connection are those that its handshake ended with.
-/

namespace PgSession.Proofs
open Wire Session

variable {τ : Type}

/-- The value that was reported last under a name. -/
def latest (statuses : List ParameterStatus) (name : String) : Option String :=
  (statuses.filter (·.name = name)).getLast?.map (·.value)

def setAll (parameters : Parameters) (statuses : List ParameterStatus) : Parameters :=
  statuses.foldl (fun parameters status => parameters.set status.name status.value) parameters

private theorem setAll_append (parameters : Parameters) (statuses more : List ParameterStatus) :
    setAll parameters (statuses ++ more) = setAll (setAll parameters statuses) more :=
  List.foldl_append

variable [Transport τ]

/-- The calls received these messages, what is reported follows from them, and if all went well they are
such as it took. -/
def Gathers (note : Report → Frame → Report) (conclusive : List Frame → Prop) (before : Outlook τ)
    (report : Report) (calls : List Call) (report' : Report) (result : Except (Halt Error) Unit) :
    Prop :=
  ∃ frames, Hears before.config before.link calls frames ∧ report' = frames.foldl note report ∧
    (result = .ok () → conclusive frames)

section

variable {before : Outlook τ} {report report' : Report} {calls : List Call}
  {result : Except (Halt Error) Unit}

/-- Closing the transport after a failure adds nothing. -/
theorem Gathers.guarded {note : Report → Frame → Report} {conclusive : List Frame → Prop}
    (guarded : Guarded (fun made => Gathers note conclusive before report made report') calls result) :
    Gathers note conclusive before report calls report' result := by
  cases guarded with
  | going gathers => exact gathers
  | closed gathers closed =>
    obtain ⟨frames, hears, told, -⟩ := gathers
    have silent : ∀ call ∈ [Call.close closed], Headless call :=
      List.forall_mem_singleton.mpr trivial
    have whole := hears.append (.headless silent)
    rw [List.append_nil] at whole
    exact ⟨frames, whole, told, nofun⟩

section

variable {acts : Acting τ Unit} {note : Report → Frame → Report} {onward last : Frame → Prop}
  (acted : ∀ before report frame calls report' result, frame.general = none →
    acts before report frame calls report' result → (∀ call ∈ calls, Headless call) ∧
      report' = note report frame ∧ (result = .ok none → onward frame) ∧
      ∀ value, result = .ok (some value) → last frame)
  (general : ∀ report frame, frame.general ≠ none → note report frame = report.overhear frame)

include acted general

/-- A turn that comes to anything has received one message, and taken note of it. -/
theorem Turns.gathers {result : Except (Halt Error) (Option Unit)}
    (turns : Turns acts before report calls report' result) : ∃ frames,
      Hears before.config before.link calls frames ∧ report' = frames.foldl note report ∧
      (result = .ok none → ∃ frame, frames = [frame] ∧ frame.Within before.config ∧
        (frame.Unsolicited ∨ onward frame)) ∧
      ∀ value, result = .ok (some value) → ∃ frame, frames = [frame] ∧
        frame.Within before.config ∧ last frame := by
  cases turns with
  | unheard receives => exact ⟨[], receives.hears_nothing, rfl, nofun, nofun⟩
  | @general _ _ frame receives known _ outcome =>
    have kind : frame.general ≠ none := fun none => by rw [none] at known; cases known
    refine ⟨[frame], receives.hears, (general _ _ kind).symm, ?_, ?_⟩
    · rintro rfl
      obtain ⟨-, unsolicited⟩ | ⟨_, ⟨⟩⟩ := outcome
      exact ⟨frame, rfl, receives.within, .inl unsolicited⟩
    · rintro value rfl
      obtain ⟨⟨⟩, -⟩ | ⟨_, ⟨⟩⟩ := outcome
  | @acted _ _ _ frame _ receives _ solicited acts =>
    obtain ⟨silent, noted, goes, ends⟩ := acted _ _ _ _ _ _ solicited acts
    exact ⟨[frame], receives.hears.append (.headless silent), noted,
      fun none => ⟨frame, rfl, receives.within, .inr (goes none)⟩,
      fun value some => ⟨frame, rfl, receives.within, ends value some⟩⟩

/-- A stage that waits receives its messages one by one, and goes on after all but the last. -/
theorem Attends.gathers (attends : Attends acts before report calls report' result) :
    Gathers note (Exchange before.config onward last) before report calls report' result := by
  induction attends with
  | last turns =>
    obtain ⟨frames, hears, noted, -, ends⟩ := turns.gathers acted general
    obtain ⟨frame, rfl, within, ends⟩ := ends _ rfl
    exact ⟨_, hears, noted, fun _ => .one within ends⟩
  | halted turns =>
    obtain ⟨frames, hears, noted, -⟩ := turns.gathers acted general
    exact ⟨frames, hears, noted, nofun⟩
  | onward turns _ ih =>
    obtain ⟨frames, hears, rfl, goes, -⟩ := turns.gathers acted general
    obtain ⟨frame, rfl, within, goes⟩ := goes rfl
    obtain ⟨others, behind, rfl, exchange⟩ := ih
    exact ⟨frame :: others, hears.append behind, rfl, fun done => (exchange done).cons within goes⟩

end

omit [Transport τ] in
theorem Answers.headless {frame : Frame} {result : Except (Halt Error) (Option Unit)}
    (answers : Answers before frame calls result) : ∀ call ∈ calls, Headless call := by
  cases answers with
  | unasked | refused => exact nofun
  | answered | unsent => exact List.forall_mem_singleton.mpr trivial

theorem Authenticating.gathers (does : Authenticating before report calls report' result) :
    Gathers Report.overhear (Exchange before.config Frame.Demands Frame.Demands) before report calls
      report' result := by
  refine .guarded (Guarded.mono does fun _ _ attends => attends.gathers ?_ fun _ _ _ => rfl)
  intro before report frame calls report' result solicited demanding
  have still : report.overhear frame = report :=
    Report.overhear_other report (by rw [solicited]; nofun)
  exact ⟨demanding.answers.headless, demanding.still.trans still.symm,
    demanding.demands none, fun value => demanding.demands (some value)⟩

theorem Readying.gathers (does : Readying before report calls report' result) :
    Gathers Report.hear (Exchange before.config Frame.TellsKey Frame.TellsReady) before report calls
      report' result := by
  refine .guarded (Guarded.mono does fun _ _ attends => attends.gathers ?_ ?_)
  · intro before report frame calls report' result _ concluding
    exact ⟨concluding.answers.headless, concluding.heard, concluding.onward, concluding.last⟩
  · exact fun report _ general => report.hear_general general

theorem Ticking.gathers {timeout : Nat} (ticks : Ticking before report timeout calls report' result) :
    Gathers Report.overhear (fun _ => True) before report calls report' result := by
  cases ticks with
  | unheard receives => exact ⟨[], receives.hears_nothing, rfl, fun _ => trivial⟩
  | heard receives => exact ⟨[_], receives.hears, rfl, fun _ => trivial⟩

/-- The answer to a request for encryption is shorter than a header. -/
theorem Secures.headless (secures : Secures before calls result) : ∀ call ∈ calls, Headless call := by
  have asked : ∀ sent heard rest, (∀ call ∈ rest, Headless call) →
      ∀ call ∈ before.writes .sslRequest sent :: .read 1 before.config.timeout heard :: rest,
        Headless call := by
    intro sent heard rest silent
    have short : 1 ≠ headerSize := by decide
    have answer : Headless (.read 1 before.config.timeout heard) := fun same => absurd same short
    exact List.forall_mem_cons.mpr ⟨trivial, List.forall_mem_cons.mpr ⟨answer, silent⟩⟩
  cases secures with
  | skipped => exact nofun
  | broken wanted requests closed =>
    obtain ⟨sent, rfl | ⟨heard, rfl⟩⟩ := requests.asks
    · exact List.forall_mem_cons.mpr ⟨trivial, List.forall_mem_singleton.mpr trivial⟩
    · exact asked sent heard _ (List.forall_mem_singleton.mpr trivial)
  | refused => exact asked true true [] nofun
  | accepted | stuck => exact asked true true _ (List.forall_mem_singleton.mpr trivial)

omit [Transport τ] in
theorem Introduces.headless (introduces : Introduces before calls result) :
    ∀ call ∈ calls, Headless call := by
  have sent : ∀ {calls result}, Sends before (startupMessage before.config) calls result →
      ∀ call ∈ calls, Headless call := by
    intro calls result sends
    cases sends with
    | sent | failed => exact List.forall_mem_singleton.mpr trivial
    | long => exact nofun
  cases introduces with
  | going sends => exact sent sends
  | closed sends => exact List.forall_mem_append.mpr ⟨sent sends, List.forall_mem_singleton.mpr trivial⟩

omit [Transport τ] in
theorem Parts.headless {message : FrontendMessage} (parts : Parts before message calls) :
    ∀ call ∈ calls, Headless call := by
  obtain ⟨sent, closed, rfl⟩ := parts
  exact List.forall_mem_cons.mpr ⟨trivial, List.forall_mem_singleton.mpr trivial⟩

end

/-- The last of these messages said that the server is ready; the ones before it are such as a
handshake goes on after, and the last key among them counts. -/
def Concludes (before : Report) (frames : List Frame) (report : Report) : Prop :=
  ∃ earlier ready, frames = earlier ++ [ready] ∧
    (∀ frame ∈ earlier, frame.Unsolicited ∨ frame.Demands ∨ frame.TellsKey) ∧ ready.TellsReady ∧
    report.status = ready.status? ∧
    report.key = (earlier.filterMap Frame.key?).getLast?.or before.key

theorem Exchange.concludes {config : Config} {frames : List Frame}
    (exchange : Exchange config Frame.TellsKey Frame.TellsReady frames) (before : Report) :
    Concludes before frames (frames.foldl Report.hear before) := by
  obtain ⟨earlier, ready, rfl, -, going, ends⟩ := exchange
  refine ⟨earlier, ready, rfl, fun frame member => ?_, ends, ?_, ?_⟩
  · exact (going frame member).imp_right .inr
  · rw [List.foldl_append]
    change ready.status?.or _ = _
    exact Option.or_of_isSome ends.status
  · rw [Report.hear_keys, List.filterMap_append, List.filterMap_cons, ends.key]
    simp only [List.filterMap_nil, List.append_nil]

theorem Exchange.demands {config : Config} {frames : List Frame}
    (exchange : Exchange config Frame.Demands Frame.Demands frames) :
    ∀ frame ∈ frames, frame.Unsolicited ∨ frame.Demands := by
  obtain ⟨earlier, final, rfl, -, going, ends⟩ := exchange
  intro frame member
  rcases List.mem_append.mp member with front | last
  · exact going frame front
  · exact .inr (List.mem_singleton.mp last ▸ ends)

/-- What came before and reported no key makes no difference. -/
theorem Concludes.behind {first frames : List Frame} {before between report : Report}
    (quiet : ∀ frame ∈ first, frame.Unsolicited ∨ frame.Demands) (same : between.key = before.key)
    (concludes : Concludes between frames report) : Concludes before (first ++ frames) report := by
  obtain ⟨earlier, ready, rfl, going, ends, status, key⟩ := concludes
  have keyless : first.filterMap Frame.key? = [] := by
    rw [List.filterMap_eq_nil_iff]
    intro frame member
    exact (quiet frame member).elim (·.key) (·.key)
  refine ⟨first ++ earlier, ready, (List.append_assoc ..).symm, ?_, ends, status, ?_⟩
  · intro frame member
    rcases List.mem_append.mp member with front | back
    · exact (quiet frame front).imp_right .inl
    · exact going frame back
  · rw [key, same, List.filterMap_append, keyless, List.nil_append]

/-- What the client learns from messages while it goes from one phase to another. -/
structure Learned (phase : Phase) (before : Report) (frames : List Frame) (report : Report)
    (next : Phase) : Prop where
  parameters : report.parameters = setAll before.parameters (frames.filterMap Frame.parameter?)
  stays : phase = .done → next = .done
  connected : phase = .connection → (next = .connection ∨ next = .done) ∧
    report.status = before.status ∧ report.key = before.key
  underway : next ≠ .connection → next ≠ .done →
    (∀ frame ∈ frames, frame.Unsolicited ∨ frame.Demands) ∧ report.key = before.key
  concludes : phase ≠ .connection → next = .connection → Concludes before frames report

namespace Learned

variable {phase next : Phase} {before report : Report} {frames : List Frame}

theorem still : Learned phase report [] report phase where
  parameters := rfl
  stays := id
  connected connected := ⟨.inl connected, rfl, rfl⟩
  underway _ _ := ⟨nofun, rfl⟩
  concludes opened connected := absurd connected opened

theorem parted : Learned phase report [] report .done where
  parameters := rfl
  stays _ := rfl
  connected _ := ⟨.inr rfl, rfl, rfl⟩
  underway _ _ := ⟨nofun, rfl⟩
  concludes _ := nofun

/-- Only the parameters count. -/
theorem overheard (alive : phase ≠ .done)
    (moves : phase = .connection ∧ (next = .connection ∨ next = .done) ∨
      phase ≠ .connection ∧ next ≠ .connection)
    (quiet : next ≠ .connection → next ≠ .done → ∀ frame ∈ frames, frame.Unsolicited ∨ frame.Demands) :
    Learned phase before frames (frames.foldl Report.overhear before) next where
  parameters := Report.overhear_parameters before frames
  stays done := absurd done alive
  connected connected := by
    obtain ⟨-, ends⟩ | ⟨opened, -⟩ := moves
    · exact ⟨ends, Report.overhear_rest before frames⟩
    · exact absurd connected opened
  underway going open' := ⟨quiet going open', (Report.overhear_rest before frames).2⟩
  concludes opened connected := by
    obtain ⟨same, -⟩ | ⟨-, going⟩ := moves
    · exact absurd same opened
    · exact absurd connected going

theorem heard (opened : phase ≠ .connection) (alive : phase ≠ .done)
    (ends : next = .connection ∨ next = .done)
    (parameters : report.parameters = setAll before.parameters (frames.filterMap Frame.parameter?))
    (concludes : next = .connection → Concludes before frames report) :
    Learned phase before frames report next where
  parameters := parameters
  stays done := absurd done alive
  connected connected := absurd connected opened
  underway going open' := (ends.elim going open').elim
  concludes _ := concludes

end Learned

/-- A whole handshake: what the server demands first reports no key. -/
theorem Shaking.gathers {before : Outlook τ} {report report' : Report} {calls : List Call}
    {result : Except (Halt Error) Unit} (does : Shaking before report calls report' result) :
    ∃ frames, Hears before.config before.link calls frames ∧
      report'.parameters = setAll report.parameters (frames.filterMap Frame.parameter?) ∧
      (result = .ok () → Concludes report frames report') := by
  cases does with
  | halted secured =>
    obtain ⟨rfl, secures⟩ := secured
    exact ⟨[], .headless secures.headless, rfl, nofun⟩
  | onward secured others =>
    obtain ⟨rfl, secures⟩ := secured
    have opening : Hears before.config before.link _ [] := .headless secures.headless
    cases others with
    | halted introduced =>
      obtain ⟨rfl, introduces⟩ := introduced
      exact ⟨[], opening.append (.headless introduces.headless), rfl, nofun⟩
    | onward introduced others =>
      obtain ⟨rfl, introduces⟩ := introduced
      cases others with
      | halted demanded =>
        obtain ⟨frames, hears, rfl, -⟩ := demanded.gathers
        have greeted := Hears.append (.headless introduces.headless) hears
        exact ⟨frames, opening.append greeted, Report.overhear_parameters .., nofun⟩
      | onward demanded ready =>
        obtain ⟨frames, hears, rfl, exchange⟩ := demanded.gathers
        obtain ⟨more, behind, rfl, concludes⟩ := ready.gathers
        have greeted := Hears.append (.headless introduces.headless) (hears.append behind)
        refine ⟨frames ++ more, opening.append greeted, ?_, ?_⟩
        · rw [List.filterMap_append, setAll_append, Report.hear_parameters,
            Report.overhear_parameters]
          rfl
        · intro done
          exact ((concludes done).concludes _).behind (exchange rfl).demands
            (Report.overhear_rest _ _).2

/-- A stage that does not succeed ends the session. -/
private theorem leads_success (success : Phase) (result : Except (Halt Error) Unit) :
    result = .ok () ∧ leads success .done result = success ∨ leads success .done result = .done := by
  rcases result with (_ | _) | _
  · exact .inr rfl
  · exact .inr rfl
  · exact .inl ⟨rfl, rfl⟩

/-- A stage that receives no message leads to the next one, or ends the session. -/
private theorem Learned.advanced {phase success : Phase} (opened : phase ≠ .connection)
    (alive : phase ≠ .done) (going : success ≠ .connection) (report : Report)
    (result : Except (Halt Error) Unit) :
    Learned phase report [] report (leads success .done result) := by
  rcases leads_success success result with ⟨-, next⟩ | next
  · rw [next]
    exact .overheard alive (.inr ⟨opened, going⟩) fun _ _ => nofun
  · rw [next]
    exact .parted

/-- Whatever an operation does, the client learns from the messages that are received on the way. -/
theorem Ran.learned {before : Outlook τ} {report report' : Report} {phase next : Phase}
    {operation : Operation} {calls : List Call} {answer : Answer}
    (ran : Ran before report phase operation calls report' answer next) : ∃ frames,
      Hears before.config before.link calls frames ∧ Learned phase report frames report' next := by
  cases ran with
  | still => exact ⟨[], .nil, .still⟩
  | @handshake _ _ result does =>
    obtain ⟨frames, hears, parameters, concludes⟩ := does.gathers
    refine ⟨frames, hears, ?_⟩
    rcases leads_success .connection result with ⟨done, next⟩ | next
    · rw [next]
      exact .heard nofun nofun (.inl rfl) parameters fun _ => concludes done
    · rw [next]
      exact .heard nofun nofun (.inr rfl) parameters nofun
  | @secure _ _ result does =>
    obtain ⟨rfl, secures⟩ := does
    exact ⟨[], .headless secures.headless, .advanced (by decide) (by decide) (by decide) _ _⟩
  | @sendStartup _ _ result does =>
    obtain ⟨rfl, introduces⟩ := does
    exact ⟨[], .headless introduces.headless, .advanced (by decide) (by decide) (by decide) _ _⟩
  | @authenticate _ _ result does =>
    obtain ⟨frames, hears, rfl, exchange⟩ := does.gathers
    refine ⟨frames, hears, ?_⟩
    rcases leads_success .authenticated result with ⟨done, next⟩ | next
    · rw [next]
      exact .overheard nofun (.inr ⟨nofun, nofun⟩) fun _ _ => (exchange done).demands
    · rw [next]
      exact .overheard nofun (.inr ⟨nofun, nofun⟩) fun _ open' => absurd rfl open'
  | @ready _ _ result does =>
    obtain ⟨frames, hears, rfl, exchange⟩ := does.gathers
    have parameters := Report.hear_parameters frames report
    refine ⟨frames, hears, ?_⟩
    rcases leads_success .connection result with ⟨done, next⟩ | next
    · rw [next]
      exact .heard nofun nofun (.inl rfl) parameters fun _ => (exchange done).concludes _
    · rw [next]
      exact .heard nofun nofun (.inr rfl) parameters nofun
  | @tick _ _ _ result ticks =>
    obtain ⟨frames, hears, rfl, -⟩ := ticks.gathers
    have ends : leads .connection .connection result = .connection ∨
        leads .connection .connection result = .done := by
      rcases result with (_ | _) | _
      · exact .inl rfl
      · exact .inr rfl
      · exact .inl rfl
    exact ⟨frames, hears, .overheard nofun (.inl ⟨rfl, ends⟩)
      fun going open' => (ends.elim going open').elim⟩
  | cancelOther key parts | close parts | terminated given parts =>
    rw [leads_done]
    exact ⟨[], .headless parts.headless, .parted⟩

/-- A client that has done something: it received these messages, and learnt from them. -/
structure Steps (client : Client τ) (frames : List Frame) (client' : Client τ) : Prop where
  sturdy : Sturdy client'.session
  hears : ∃ calls, Advances client.session calls client'.session ∧
    Hears client.session.config client.session.channel.link calls frames
  learned : Learned client.phase (reported client.session) frames (reported client'.session)
    client'.phase

theorem perform_steps {client : Client τ} (sturdy : Sturdy client.session) (operation : Operation) :
    ∃ frames, Steps client frames (client.perform operation).2 := by
  cases allowed : client.phase.allows operation with
  | true =>
    obtain ⟨calls, advances, after, ran⟩ := run_ran sturdy allowed
    obtain ⟨frames, hears, learned⟩ := ran.learned
    rw [perform_allowed allowed]
    exact ⟨frames, after, ⟨calls, advances, hears⟩, learned⟩
  | false =>
    rw [perform_refused allowed]
    exact ⟨[], sturdy, ⟨[], Advances.refl sturdy.discreet, .nil⟩, .still⟩

/-- The messages a client has received after operations. -/
def messages (config : Config) (link : τ) (operations : List Operation) : List Frame :=
  received config link (performAll (Client.new config link) operations).session.channel.calls

/-- A client that knows what it was told, in these messages. -/
structure Informed (config : Config) (link : τ) (frames : List Frame) (client : Client τ) : Prop where
  sturdy : Sturdy client.session
  outlook : outlook client.session = (beginning config link).after client.session.channel.calls
  hears : Hears config link client.session.channel.calls frames
  parameters : client.session.parameters = setAll .empty (frames.filterMap Frame.parameter?)
  underway : client.phase ≠ .connection → client.phase ≠ .done →
    (∀ frame ∈ frames, frame.Unsolicited ∨ frame.Demands) ∧ client.session.key = none

theorem Informed.steps {config : Config} {link : τ} {frames more : List Frame}
    {client client' : Client τ} (informed : Informed config link frames client)
    (steps : Steps client more client') : Informed config link (frames ++ more) client' := by
  obtain ⟨calls, advances, hears⟩ := steps.hears
  have settings : client.session.config = config := congrArg Outlook.config informed.outlook
  have behind : client.session.channel.link = replay link client.session.channel.calls :=
    congrArg Outlook.link informed.outlook
  rw [settings, behind] at hears
  refine ⟨steps.sturdy, ?_, ?_, ?_, ?_⟩
  · rw [advances.outlook, informed.outlook, advances.calls, Outlook.after_append]
  · rw [advances.calls]
    exact informed.hears.append hears
  · rw [List.filterMap_append, setAll_append, ← informed.parameters]
    exact steps.learned.parameters
  · intro going open'
    have opened : client.phase ≠ .connection := fun connected =>
      (steps.learned.connected connected).1.elim going open'
    have alive : client.phase ≠ .done := fun done => open' (steps.learned.stays done)
    obtain ⟨quiet, none⟩ := informed.underway opened alive
    obtain ⟨quiet', same⟩ := steps.learned.underway going open'
    exact ⟨List.forall_mem_append.mpr ⟨quiet, quiet'⟩, same.trans none⟩

theorem new_informed (config : Config) (link : τ) :
    Informed config link [] (Client.new config link) := by
  obtain ⟨same, nothing⟩ := new_outlook config link
  obtain ⟨buses, fresh, -⟩ := new_eq config link
  refine ⟨new_sturdy config link, ?_, ?_, ?_, fun _ _ => ⟨nofun, ?_⟩⟩
  · rw [Client.new, same, nothing, Outlook.after_nil]
  · rw [Client.new, nothing]
    exact .nil
  · rw [Client.new, fresh]
    rfl
  · rw [Client.new, fresh]

section

variable {config : Config} {link : τ} {frames : List Frame} {client : Client τ}
  {operations : List Operation}

theorem Informed.after (informed : Informed config link frames client)
    (operations : List Operation) :
    ∃ more, Informed config link (frames ++ more) (performAll client operations) := by
  induction operations generalizing frames client with
  | nil => exact ⟨[], (List.append_nil frames).symm ▸ informed⟩
  | cons operation operations ih =>
    obtain ⟨more, steps⟩ := perform_steps informed.sturdy operation
    obtain ⟨others, later⟩ := ih (informed.steps steps)
    rw [List.append_assoc] at later
    exact ⟨more ++ others, later⟩

/-- Nothing that is done with a connection changes its status or its key. -/
theorem performAll_keeps (sturdy : Sturdy client.session) (connected : client.phase = .connection)
    (operations : List Operation) :
    (performAll client operations).session.status = client.session.status ∧
      (performAll client operations).session.key = client.session.key := by
  induction operations generalizing client with
  | nil => exact ⟨rfl, rfl⟩
  | cons operation operations ih =>
    obtain ⟨frames, steps⟩ := perform_steps sturdy operation
    obtain ⟨still | ended, status, key⟩ := steps.learned.connected connected
    · obtain ⟨status', key'⟩ := ih steps.sturdy still
      exact ⟨status'.trans status, key'.trans key⟩
    · have final : (client.perform operation).2 = ⟨.done, (client.perform operation).2.session⟩ := by
        rw [← ended]
      rw [performAll, List.foldl_cons, ← performAll, final, performAll_done]
      exact ⟨status, key⟩

/-- A connection came about by one of the operations, which ended with a concluded handshake. -/
theorem Informed.opening (informed : Informed config link frames client)
    (opened : client.phase ≠ .connection)
    (connected : (performAll client operations).phase = .connection) :
    ∃ before last after heard, operations = before ++ last :: after ∧
      (performAll client before).phase ≠ .connection ∧
      (performAll client (before ++ [last])).phase = .connection ∧
      Informed config link heard (performAll client (before ++ [last])) ∧
      Concludes .empty heard (reported (performAll client (before ++ [last])).session) := by
  induction operations generalizing frames client with
  | nil => exact absurd connected opened
  | cons operation operations ih =>
    obtain ⟨more, steps⟩ := perform_steps informed.sturdy operation
    by_cases now : (client.perform operation).2.phase = .connection
    · have alive : client.phase ≠ .done := by
        intro done
        rw [steps.learned.stays done] at now
        cases now
      obtain ⟨quiet, none⟩ := informed.underway opened alive
      have concludes : Concludes .empty (frames ++ more) _ :=
        (steps.learned.concludes opened now).behind quiet none
      exact ⟨[], operation, operations, _, rfl, opened, now, informed.steps steps, concludes⟩
    · obtain ⟨before, last, after, heard, rfl, earlier, found⟩ :=
        ih (informed.steps steps) now connected
      exact ⟨operation :: before, last, after, heard, rfl, earlier, found⟩

end

/-- No message that a handshake goes on after says that the server is ready. -/
theorem going_apart {frame : Frame} (going : frame.Unsolicited ∨ frame.Demands ∨ frame.TellsKey) :
    frame.tag ≠ Tag.readyForQuery ∧ (frame.tag = Tag.keyData → frame.key?.isSome) := by
  have other : frame.Unsolicited ∨ frame.Demands →
      frame.tag ≠ Tag.readyForQuery ∧ frame.tag ≠ Tag.keyData := by
    rintro ((⟨tag, -⟩ | ⟨tag, -⟩ | ⟨tag, -⟩) | ⟨tag, -⟩)
    all_goals
      rw [tag]
      decide
  rcases or_assoc.mpr going with quiet | key
  · exact ⟨(other quiet).1, fun same => absurd same (other quiet).2⟩
  · obtain ⟨value, read⟩ := key.decode
    refine ⟨by rw [key.1]; decide, fun tag => ?_⟩
    rw [Frame.key?, Frame.reads?_some tag read]
    rfl

end PgSession.Proofs
