import PgSession.Proofs.Acceptance
import PgSession.Proofs.BodyReaders

/-!
Which frames a waiting session accepts. It takes whole frames from the stream one after another:
those that may come at any time, those its stage goes on after, and one that ends the stage.
-/

namespace PgSession.Proofs
open Wire Session

variable {τ α : Type}

namespace Frame

/-- A frame with this tag whose body the reader reads. -/
def Reads (tag : UInt8) (reader : Reader α) (frame : Frame) : Prop :=
  frame.tag = tag ∧ ∃ value rest, reader frame.body = .ok value rest

/-- A well formed message that may come at any time. -/
def Unsolicited (frame : Frame) : Prop :=
  frame.Reads Tag.notice Reader.notice ∨ frame.Reads Tag.parameterStatus Reader.parameterStatus ∨
    frame.Reads Tag.notification Reader.notification

def parameter? : Frame → Option ParameterStatus := reads? Tag.parameterStatus Reader.parameterStatus
def key? : Frame → Option KeyData := reads? Tag.keyData Reader.keyData
def status? : Frame → Option TransactionStatus := reads? Tag.readyForQuery Reader.transactionStatus

variable {frame : Frame}

theorem decode_ok_iff {reader : Reader α} {value : α} :
    frame.decode reader = .ok value ↔ ∃ rest, reader frame.body = .ok value rest := by
  unfold Frame.decode
  cases reader frame.body with
  | ok found rest =>
    constructor
    · intro same
      cases same
      exact ⟨rest, rfl⟩
    · rintro ⟨_, ⟨⟩⟩
      rfl
  | error error rest => exact ⟨nofun, nofun⟩

theorem reads_of_decode {tag : UInt8} {reader : Reader α} {value : α} (same : frame.tag = tag)
    (read : frame.decode reader = .ok value) : frame.Reads tag reader := by
  obtain ⟨rest, body⟩ := decode_ok_iff.mp read
  exact ⟨same, value, rest, body⟩

theorem Reads.decode {tag : UInt8} {reader : Reader α} (reads : frame.Reads tag reader) :
    ∃ value, frame.decode reader = .ok value := by
  obtain ⟨-, value, rest, body⟩ := reads
  exact ⟨value, decode_ok_iff.mpr ⟨rest, body⟩⟩

theorem reads?_iff_decode {tag : UInt8} {reader : Reader α} {value : α} :
    frame.reads? tag reader = some value ↔ frame.tag = tag ∧ frame.decode reader = .ok value := by
  constructor
  · intro found
    unfold Frame.reads? at found
    split at found
    · next same =>
      refine ⟨same, ?_⟩
      cases decoded : frame.decode reader with
      | ok value' =>
        rw [decoded] at found
        exact congrArg Except.ok (Option.some.inj found)
      | error error =>
        rw [decoded] at found
        cases found
    · cases found
  · rintro ⟨same, read⟩
    exact reads?_some same read

theorem reads?_eq_some_iff {tag : UInt8} {reader : Reader α} {value : α} :
    frame.reads? tag reader = some value ↔
      frame.tag = tag ∧ ∃ rest, reader frame.body = .ok value rest := by
  rw [reads?_iff_decode, decode_ok_iff]

private theorem map_ok {wrap : α → Event} {result : Except Error α} {event : Event}
    (mapped : some (result.map wrap) = some (.ok event)) :
    ∃ value, result = .ok value ∧ wrap value = event := by
  cases result with
  | ok value =>
    cases mapped
    exact ⟨value, rfl, rfl⟩
  | error error => cases mapped

/-- The messages that may come at any time are those of three kinds; a fourth is an error. -/
theorem general_event {event : Event} (general : frame.general = some (.ok event)) :
    (∃ value, frame.tag = Tag.notification ∧ frame.decode Reader.notification = .ok value ∧
        event = .notification value) ∨
      (∃ value, frame.tag = Tag.notice ∧ frame.decode Reader.notice = .ok value ∧
        event = .notice value) ∨
      ∃ value, frame.tag = Tag.parameterStatus ∧ frame.decode Reader.parameterStatus = .ok value ∧
        event = .parameterStatus value := by
  unfold Frame.general at general
  split at general
  · next notification =>
    obtain ⟨value, read, same⟩ := map_ok general
    exact .inl ⟨value, notification, read, same.symm⟩
  split at general
  · cases report : frame.decode Reader.errorReport with
    | ok value =>
      rw [report] at general
      cases general
    | error error =>
      rw [report] at general
      cases general
  split at general
  · next notice =>
    obtain ⟨value, read, same⟩ := map_ok general
    exact .inr (.inl ⟨value, notice, read, same.symm⟩)
  split at general
  · next parameter =>
    obtain ⟨value, read, same⟩ := map_ok general
    exact .inr (.inr ⟨value, parameter, read, same.symm⟩)
  · cases general

theorem unsolicited_iff : frame.Unsolicited ↔ ∃ event, frame.general = some (.ok event) := by
  constructor
  · rintro (reads | reads | reads)
    all_goals
      obtain ⟨value, read⟩ := reads.decode
      unfold Frame.general
      rw [reads.1, read]
      exact ⟨_, rfl⟩
  · rintro ⟨event, general⟩
    rcases general_event general with ⟨value, same, read, -⟩ | ⟨value, same, read, -⟩ |
      ⟨value, same, read, -⟩
    · exact .inr (.inr (reads_of_decode same read))
    · exact .inl (reads_of_decode same read)
    · exact .inr (.inl (reads_of_decode same read))

end Frame

namespace Report

/-- The report after a frame that was accepted. -/
def hear (report : Report) (frame : Frame) : Report where
  parameters := (frame.parameter?.map fun status =>
    report.parameters.set status.name status.value).getD report.parameters
  status := frame.status?.or report.status
  key := frame.key?.or report.key

/-- Frames of other kinds report nothing. -/
theorem hear_other {frame : Frame} (parameter : frame.tag ≠ Tag.parameterStatus)
    (status : frame.tag ≠ Tag.readyForQuery) (key : frame.tag ≠ Tag.keyData) (report : Report) :
    report.hear frame = report := by
  rw [hear, Frame.parameter?, Frame.status?, Frame.key?, Frame.reads?_other parameter,
    Frame.reads?_other status, Frame.reads?_other key]
  rfl

theorem hear_event {frame : Frame} {event : Event} (general : frame.general = some (.ok event))
    (report : Report) : report.hear frame = report.learn event := by
  rcases Frame.general_event general with ⟨value, same, read, rfl⟩ | ⟨value, same, read, rfl⟩ |
    ⟨value, same, read, rfl⟩
  · apply hear_other <;> rw [same] <;> decide
  · apply hear_other <;> rw [same] <;> decide
  · have noStatus : frame.tag ≠ Tag.readyForQuery := by rw [same]; decide
    have noKey : frame.tag ≠ Tag.keyData := by rw [same]; decide
    rw [hear, Frame.parameter?, Frame.status?, Frame.key?, Frame.reads?_some same read,
      Frame.reads?_other noStatus, Frame.reads?_other noKey]
    rfl

theorem hear_key {frame : Frame} {key : KeyData} (same : frame.tag = Tag.keyData)
    (read : frame.decode Reader.keyData = .ok key) (report : Report) :
    report.hear frame = { report with key := some key } := by
  have noParameter : frame.tag ≠ Tag.parameterStatus := by rw [same]; decide
  have noStatus : frame.tag ≠ Tag.readyForQuery := by rw [same]; decide
  rw [hear, Frame.parameter?, Frame.status?, Frame.key?, Frame.reads?_other noParameter,
    Frame.reads?_other noStatus, Frame.reads?_some same read]
  rfl

theorem hear_status {frame : Frame} {status : TransactionStatus}
    (same : frame.tag = Tag.readyForQuery)
    (read : frame.decode Reader.transactionStatus = .ok status) (report : Report) :
    report.hear frame = { report with status := some status } := by
  have noParameter : frame.tag ≠ Tag.parameterStatus := by rw [same]; decide
  have noKey : frame.tag ≠ Tag.keyData := by rw [same]; decide
  rw [hear, Frame.parameter?, Frame.status?, Frame.key?, Frame.reads?_other noParameter,
    Frame.reads?_some same read, Frame.reads?_other noKey]
  rfl

/-- Whatever else is taken note of makes no difference to the parameters. -/
theorem noted_parameters (note : Report → Frame → Report)
    (same : ∀ report frame, (note report frame).parameters = (report.hear frame).parameters)
    (frames : List Frame) (report : Report) :
    (frames.foldl note report).parameters = (frames.filterMap Frame.parameter?).foldl
      (fun parameters status => parameters.set status.name status.value) report.parameters := by
  induction frames generalizing report with
  | nil => rfl
  | cons frame frames ih =>
    rw [List.foldl_cons, ih, List.filterMap_cons, same]
    cases found : frame.parameter? with
    | none => simp only [hear, found, Option.map_none, Option.getD_none]
    | some status => simp only [hear, found, Option.map_some, Option.getD_some, List.foldl_cons]

/-- The parameters in the order in which they were reported; a later value takes the place of an
earlier one. -/
theorem hear_parameters (frames : List Frame) (report : Report) :
    (frames.foldl hear report).parameters = (frames.filterMap Frame.parameter?).foldl
      (fun parameters status => parameters.set status.name status.value) report.parameters :=
  noted_parameters hear (fun _ _ => rfl) frames report

/-- The key that was reported last. -/
theorem hear_keys (frames : List Frame) (report : Report) :
    (frames.foldl hear report).key = (frames.filterMap Frame.key?).getLast?.or report.key := by
  induction frames generalizing report with
  | nil => rfl
  | cons frame frames ih =>
    rw [List.foldl_cons, ih, List.filterMap_cons]
    cases found : frame.key? with
    | none => simp only [hear, found, Option.none_or]
    | some key =>
      simp only [hear, found, Option.some_or, List.getLast?_cons]
      cases (frames.filterMap Frame.key?).getLast? <;> rfl

end Report

/-- Frames that a stage goes on after, mixed with such as may come at any time, and one that ends
the stage. -/
def Exchange (config : Config) (onward last : Frame → Prop) (frames : List Frame) : Prop :=
  ∃ before final, frames = before ++ [final] ∧ (∀ frame ∈ frames, frame.Within config) ∧
    (∀ frame ∈ before, frame.Unsolicited ∨ onward frame) ∧ last final

namespace Accepts

variable {around : Surroundings τ}

theorem dispatch (frame : Frame) :
    Accepts around (Unbuffered.dispatch frame) fun general bytes report report' =>
      bytes = [] ∧ report' = report.hear frame ∧ frame.Unsolicited ∧ general = true ∨
        Language.nothing bytes report report' ∧ frame.general = none ∧ general = false := by
  unfold Unbuffered.dispatch
  cases kind : frame.general with
  | none =>
    refine (pure false).congr fun general bytes report report' => ⟨?_, ?_⟩
    · rintro ⟨rfl, taken⟩
      exact .inr ⟨taken, rfl, rfl⟩
    · rintro (⟨-, -, unsolicited, -⟩ | ⟨taken, -, rfl⟩)
      · obtain ⟨event, general⟩ := Frame.unsolicited_iff.mp unsolicited
        rw [general] at kind
        cases kind
      · exact ⟨rfl, taken⟩
  | some result =>
    have announces : ∀ event, Accepts around (Unbuffered.announce event)
        fun general bytes report report' =>
          bytes = [] ∧ report' = report.learn event ∧ general = true := by
      intro event
      refine ((noted (·.learn event) ?_ (reported_learn event)).bind fun _ =>
        after (publish event) (pure true)).congr fun general bytes report report' => ⟨?_, ?_⟩
      · intro session
        cases event <;> exact ⟨rfl, rfl, rfl⟩
      · rintro ⟨_, _, _, _, rfl, ⟨rfl, rfl⟩, rfl, rfl, rfl⟩
        exact ⟨rfl, rfl, rfl⟩
      · rintro ⟨rfl, rfl, rfl⟩
        exact ⟨(), _, [], [], rfl, ⟨rfl, rfl⟩, rfl, rfl, rfl⟩
    refine ((ensure result).bind announces).congr fun general bytes report report' => ⟨?_, ?_⟩
    · rintro ⟨event, _, _, _, rfl, ⟨rfl, rfl, rfl⟩, rfl, rfl, rfl⟩
      exact .inl ⟨rfl, (Report.hear_event kind _).symm, Frame.unsolicited_iff.mpr ⟨event, kind⟩, rfl⟩
    · rintro (⟨rfl, rfl, unsolicited, rfl⟩ | ⟨-, impossible, -⟩)
      · obtain ⟨event, general⟩ := Frame.unsolicited_iff.mp unsolicited
        rw [kind] at general
        cases general
        exact ⟨event, report, [], [], rfl, ⟨rfl, rfl, rfl⟩, rfl, Report.hear_event kind _, rfl⟩
      · cases impossible

variable [Transport τ]

theorem receive (reliable : Reliable around.served around.live) (timeout : Nat) :
    Accepts around (Unbuffered.receive timeout) fun frame bytes report report' =>
      frame.Within around.config ∧ bytes = frame.bytes ∧ report' = report where
  sound := by
    intro stream report session frame session' stands done
    have reception := receive_reception session timeout
    rw [done] at reception
    cases reception with
    | @whole field _ link link' heard bytes within rest =>
      obtain ⟨-, first, live⟩ := reliable.read stands.live heard
      obtain ⟨-, second, live'⟩ := reliable.read live rest
      refine ⟨frame.bytes, around.served link', report, ?_, ⟨stands.config ▸ within, rfl, rfl⟩,
        stands.config, live', stands.willing, rfl, stands.report⟩
      rw [← stands.stream, first, second, ← bytes, List.append_assoc]
  complete := by
    rintro frame bytes rest report report' session stands ⟨within, rfl, rfl⟩
    obtain ⟨field, word, four⟩ : ∃ field, word (4 + frame.body.length) = field ∧ field.length = 4 :=
      ⟨_, rfl, rfl⟩
    have bytes : frame.tag :: field ++ frame.body = frame.bytes := by
      rw [Frame.bytes, word, List.cons_append]
    have next : around.served session.channel.link =
        (frame.tag :: field) ++ (frame.body ++ rest) := by
      rw [stands.stream, ← bytes, List.append_assoc]
    obtain ⟨link, first, live, left⟩ := reliable.reads stands.live next timeout
    obtain ⟨link', second, live', left'⟩ := reliable.reads live left timeout
    rw [List.length_cons, four] at first
    refine ⟨_, receive_whole first bytes (stands.config ▸ within) second, stands.config, live',
      stands.willing, left', stands.report⟩

/-- What a stage does with a frame that cannot come at just any time: it goes on after some, ends
with others and fails on the rest. -/
structure Reacts (around : Surroundings τ) (act : Frame → Action τ (Option Unit))
    (onward last : Frame → Prop) : Prop where
  solicited : ∀ frame, onward frame ∨ last frame → frame.general = none
  accepts : ∀ frame, frame.general = none →
    Accepts around (act frame) fun result bytes report report' =>
      bytes = [] ∧ report' = report.hear frame ∧
        (onward frame ∧ result = none ∨ last frame ∧ result = some ())

theorem turn (reliable : Reliable around.served around.live)
    {act : Frame → Action τ (Option Unit)} {onward last : Frame → Prop}
    (reacts : Reacts around act onward last) :
    Accepts around (Unbuffered.turn act) fun result bytes report report' =>
      ∃ frame : Frame, frame.Within around.config ∧ bytes = frame.bytes ∧
        report' = report.hear frame ∧
        ((frame.Unsolicited ∨ onward frame) ∧ result = none ∨ last frame ∧ result = some ()) := by
  -- Whatever is not unsolicited was left to the stage, and is its business.
  have handles : ∀ frame, Accepts around
      (do if ← Unbuffered.dispatch frame then return none else act frame)
      fun result bytes report report' => bytes = [] ∧ report' = report.hear frame ∧
        ((frame.Unsolicited ∨ onward frame) ∧ result = none ∨ last frame ∧ result = some ()) := by
    intro frame
    refine ((dispatch frame).bindGiven (fun general result bytes report report' =>
      if general then result = none ∧ Language.nothing bytes report report'
      else bytes = [] ∧ report' = report.hear frame ∧
        (onward frame ∧ result = none ∨ last frame ∧ result = some ())) ?_).congr ?_
    · rintro general _ _ _ (⟨-, -, -, rfl⟩ | ⟨-, solicited, rfl⟩)
      · exact pure none
      · exact reacts.accepts frame solicited
    · intro result bytes report report'
      constructor
      · rintro ⟨general, _, _, _, rfl, ⟨rfl, rfl, unsolicited, rfl⟩ | ⟨⟨rfl, rfl⟩, -, rfl⟩, taken⟩
        · obtain ⟨rfl, rfl, rfl⟩ := taken
          exact ⟨rfl, rfl, .inl ⟨.inl unsolicited, rfl⟩⟩
        · obtain ⟨rfl, rfl, ⟨goes, rfl⟩ | ends⟩ := taken
          · exact ⟨rfl, rfl, .inl ⟨.inr goes, rfl⟩⟩
          · exact ⟨rfl, rfl, .inr ends⟩
      · rintro ⟨rfl, rfl, ⟨unsolicited | goes, rfl⟩ | ends⟩
        · exact ⟨true, _, [], [], rfl, .inl ⟨rfl, rfl, unsolicited, rfl⟩, rfl, rfl, rfl⟩
        · exact ⟨false, report, [], [], rfl,
            .inr ⟨⟨rfl, rfl⟩, reacts.solicited frame (.inl goes), rfl⟩, rfl, rfl, .inl ⟨goes, rfl⟩⟩
        · exact ⟨false, report, [], [], rfl,
            .inr ⟨⟨rfl, rfl⟩, reacts.solicited frame (.inr ends.1), rfl⟩, rfl, rfl, .inr ends⟩
  apply get
  intro session same
  refine ((receive reliable session.config.timeout).bind handles).congr ?_
  intro result bytes report report'
  constructor
  · rintro ⟨frame, _, _, _, rfl, ⟨within, rfl, rfl⟩, rfl, rfl, taken⟩
    exact ⟨frame, within, List.append_nil _, rfl, taken⟩
  · rintro ⟨frame, within, rfl, rfl, taken⟩
    exact ⟨frame, report, frame.bytes, [], (List.append_nil _).symm, ⟨within, rfl, rfl⟩, rfl, rfl,
      taken⟩

/-- A stage that waits accepts the exchanges that end it. -/
theorem waiting (reliable : Reliable around.served around.live)
    {act : Frame → Action τ (Option Unit)} {onward last : Frame → Prop}
    (reacts : Reacts around act onward last) (progress : Progresses (Unbuffered.turn act)) :
    Accepts around (Session.repeatUntil (Unbuffered.turn act) progress)
      fun _ bytes report report' => ∃ frames, Exchange around.config onward last frames ∧
        bytes = frames.flatMap Frame.bytes ∧ report' = frames.foldl Report.hear report := by
  refine (repeatUntil progress (turn reliable reacts)).congr fun value bytes report report' => ?_
  constructor
  · intro rounds
    induction rounds with
    | last taken =>
      obtain ⟨frame, within, rfl, rfl, ⟨-, impossible⟩ | ⟨ends, -⟩⟩ := taken
      · cases impossible
      · refine ⟨[frame], ⟨[], frame, rfl, ?_, nofun, ends⟩, (List.append_nil _).symm, rfl⟩
        intro other member
        rw [List.mem_singleton.mp member]
        exact within
    | onward taken others ih =>
      obtain ⟨frame, within, rfl, rfl, ⟨goes, -⟩ | ⟨-, impossible⟩⟩ := taken
      · obtain ⟨frames, ⟨before, final, rfl, all, going, ends⟩, rfl, rfl⟩ := ih
        refine ⟨frame :: (before ++ [final]), ⟨frame :: before, final, rfl, ?_, ?_, ends⟩, rfl, rfl⟩
        · exact List.forall_mem_cons.mpr ⟨within, all⟩
        · exact List.forall_mem_cons.mpr ⟨goes, going⟩
      · cases impossible
  · rintro ⟨frames, ⟨before, final, rfl, all, going, ends⟩, rfl, rfl⟩
    induction before generalizing report with
    | nil =>
      exact .last ⟨final, all final (by simp), List.append_nil _, rfl, .inr ⟨ends, rfl⟩⟩
    | cons frame before ih =>
      obtain ⟨within, all⟩ := List.forall_mem_cons.mp all
      obtain ⟨goes, going⟩ := List.forall_mem_cons.mp going
      exact .onward ⟨frame, within, rfl, rfl, .inl ⟨goes, rfl⟩⟩ (ih (report.hear frame) all going)

end Accepts

end PgSession.Proofs
