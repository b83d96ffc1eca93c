import PgSession.Proofs.Delivery

/-!
The language an action accepts: the bytes it takes from the stream when it succeeds, with the value
it yields and what it adds to the report. An action that accepts a language succeeds on every stream
that begins with it, and on no other. The rules compose languages the way programs are composed.
-/

namespace PgSession.Proofs
open Wire Session

variable {τ α β : Type}

/-- What the server has told about itself. -/
@[ext] structure Report where
  parameters : Parameters
  status : Option TransactionStatus
  key : Option KeyData
deriving DecidableEq

def reported (session : Session τ) : Report := ⟨session.parameters, session.status, session.key⟩

namespace Report

def empty : Report := ⟨.empty, none, none⟩

def learn (report : Report) : Event → Report
  | .parameterStatus status =>
    { report with parameters := report.parameters.set status.name status.value }
  | _ => report

end Report

theorem reported_learn (event : Event) (session : Session τ) :
    reported (learn event session) = (reported session).learn event := by
  cases event <;> rfl

/-- Which bytes lead from one report to another. -/
abbrev Language := List UInt8 → Report → Report → Prop

namespace Language

def nothing : Language := fun bytes report report' => bytes = [] ∧ report' = report

def andThen (first second : Language) : Language := fun bytes report report' =>
  ∃ between front back, bytes = front ++ back ∧ first front report between ∧
    second back between report'

/-- Rounds that yield nothing, and a last one that yields a value. -/
inductive Rounds (round : Option α → Language) (value : α) : Language
  | last {bytes : List UInt8} {report report' : Report} (taken : round (some value) bytes report report') :
      Rounds round value bytes report report'
  | onward {front back : List UInt8} {report between report' : Report}
      (taken : round none front report between) (others : Rounds round value back between report') :
      Rounds round value (front ++ back) report report'

private theorem nothing_andThen {second : Language} {bytes : List UInt8} {report report' : Report} :
    nothing.andThen second bytes report report' ↔ second bytes report report' := by
  constructor
  · rintro ⟨_, _, back, rfl, ⟨rfl, rfl⟩, taken⟩
    exact taken
  · intro taken
    exact ⟨report, [], bytes, rfl, ⟨rfl, rfl⟩, taken⟩

private theorem andThen_nothing {first : Language} {bytes : List UInt8} {report report' : Report} :
    first.andThen nothing bytes report report' ↔ first bytes report report' := by
  constructor
  · rintro ⟨_, front, _, rfl, taken, rfl, rfl⟩
    rw [List.append_nil]
    exact taken
  · intro taken
    exact ⟨report', bytes, [], (List.append_nil bytes).symm, taken, rfl, rfl⟩

end Language

/-- What a session finds around it. -/
structure Surroundings (τ : Type) where
  served : τ → List UInt8
  live : τ → Prop
  config : Config

/-- The session is undisturbed, these bytes are next, and this much was reported. -/
structure Stands (around : Surroundings τ) (stream : List UInt8) (report : Report)
    (session : Session τ) : Prop where
  config : session.config = around.config
  live : around.live session.channel.link
  willing : Willing session.buses
  stream : around.served session.channel.link = stream
  report : reported session = report

structure Accepts (around : Surroundings τ) (action : Action τ α) (language : α → Language) :
    Prop where
  sound : ∀ {stream report session value session'}, Stands around stream report session →
    action session = .ok value session' → ∃ bytes rest report', stream = bytes ++ rest ∧
      language value bytes report report' ∧ Stands around rest report' session'
  complete : ∀ {value bytes rest report report' session},
    Stands around (bytes ++ rest) report session → language value bytes report report' →
      ∃ session', action session = .ok value session' ∧ Stands around rest report' session'

/-- An action that only ever succeeds, without the stream or the report being touched. -/
abbrev Silent (around : Surroundings τ) (action : Action τ Unit) : Prop :=
  Accepts around action fun _ => .nothing

namespace Accepts

variable {around : Surroundings τ}

theorem congr {action : Action τ α} {language other : α → Language}
    (accepts : Accepts around action language)
    (same : ∀ value bytes report report', language value bytes report report' ↔
      other value bytes report report') : Accepts around action other where
  sound stands ran := by
    obtain ⟨bytes, rest, report', split, taken, stands'⟩ := accepts.sound stands ran
    exact ⟨bytes, rest, report', split, (same _ _ _ _).mp taken, stands'⟩
  complete stands taken := accepts.complete stands ((same _ _ _ _).mpr taken)

/-- An action whose outcome depends on the session at most for where it leaves the journal. -/
theorem steady {action : Action τ α} {value : α} (update : Report → Report)
    (ran : ∀ stream report session, Stands around stream report session →
      ∃ session', action session = .ok value session' ∧ Stands around stream (update report) session') :
    Accepts around action fun value' bytes report report' =>
      value' = value ∧ bytes = [] ∧ report' = update report where
  sound stands done := by
    obtain ⟨session', outcome, stands'⟩ := ran _ _ _ stands
    rw [outcome] at done
    cases done
    exact ⟨[], _, _, rfl, ⟨rfl, rfl, rfl⟩, stands'⟩
  complete := by
    rintro value' bytes rest report report' session stands ⟨rfl, rfl, rfl⟩
    exact ran _ _ _ stands

theorem silent {action : Action τ Unit}
    (ran : ∀ stream report session, Stands around stream report session →
      ∃ session', action session = .ok () session' ∧ Stands around stream report session') :
    Silent around action :=
  (steady id ran).congr fun _ _ _ _ => ⟨fun taken => taken.2, fun taken => ⟨rfl, taken⟩⟩

theorem pure (value : α) : Accepts around (pure value : Action τ α) fun value' bytes report report' =>
    value' = value ∧ Language.nothing bytes report report' :=
  steady id fun _ _ session stands => ⟨session, rfl, stands⟩

/-- What fails accepts nothing. -/
theorem throw {halt : Halt Error} {language : α → Language}
    (nothing : ∀ value bytes report report', ¬ language value bytes report report') :
    Accepts around (throw halt : Action τ α) language where
  sound _ done := nomatch done
  complete _ taken := absurd taken (nothing _ _ _ _)

/-- What follows has to be known only for the values that the first action yields. -/
theorem bindGiven {action : Action τ α} {next : α → Action τ β} {first : α → Language}
    (accepts : Accepts around action first) (second : α → β → Language)
    (rest : ∀ {value bytes report report'}, first value bytes report report' →
      Accepts around (next value) (second value)) :
    Accepts around (action >>= next) fun result bytes report report' =>
      ∃ value, (first value).andThen (second value result) bytes report report' where
  sound := by
    intro stream report session result session' stands done
    cases ran : action session with
    | error halt between =>
      rw [bind_error ran] at done
      cases done
    | ok value between =>
      rw [bind_ok ran] at done
      obtain ⟨front, stream', middle, rfl, taken, stands'⟩ := accepts.sound stands ran
      obtain ⟨back, left, report', rfl, taken', stands''⟩ := (rest taken).sound stands' done
      refine ⟨front ++ back, left, report', (List.append_assoc ..).symm, ?_, stands''⟩
      exact ⟨value, middle, front, back, rfl, taken, taken'⟩
  complete := by
    rintro result bytes left report report' session stands
      ⟨value, middle, front, back, rfl, taken, taken'⟩
    rw [List.append_assoc] at stands
    obtain ⟨between, ran, stands'⟩ := accepts.complete stands taken
    obtain ⟨session', done, stands''⟩ := (rest taken).complete stands' taken'
    exact ⟨session', by rw [bind_ok ran, done], stands''⟩

theorem bind {action : Action τ α} {next : α → Action τ β} {first : α → Language}
    {second : α → β → Language} (accepts : Accepts around action first)
    (rest : ∀ value, Accepts around (next value) (second value)) :
    Accepts around (action >>= next) fun result bytes report report' =>
      ∃ value, (first value).andThen (second value result) bytes report report' :=
  accepts.bindGiven second fun _ => rest _

theorem after {first : Action τ Unit} {next : Action τ α} {language : α → Language}
    (silent : Silent around first) (accepts : Accepts around next language) :
    Accepts around (first >>= fun _ => next) language :=
  (silent.bind fun _ => accepts).congr fun _ _ _ _ =>
    ⟨fun ⟨_, taken⟩ => Language.nothing_andThen.mp taken,
      fun taken => ⟨(), Language.nothing_andThen.mpr taken⟩⟩

theorem before {action : Action τ Unit} {last : Action τ Unit} {language : Unit → Language}
    (accepts : Accepts around action language) (silent : Silent around last) :
    Accepts around (action >>= fun _ => last) language :=
  (accepts.bind fun _ => silent).congr fun _ _ _ _ =>
    ⟨fun ⟨_, taken⟩ => Language.andThen_nothing.mp taken,
      fun taken => ⟨(), Language.andThen_nothing.mpr taken⟩⟩

theorem get {next : Session τ → Action τ α} {language : α → Language}
    (accepts : ∀ session, session.config = around.config → Accepts around (next session) language) :
    Accepts around (get >>= next) language where
  sound stands done := (accepts _ stands.config).sound stands done
  complete stands taken := (accepts _ stands.config).complete stands taken

theorem noted {change : Session τ → Session τ} (update : Report → Report)
    (keeps : ∀ session, (change session).config = session.config ∧
      (change session).channel = session.channel ∧ (change session).buses = session.buses)
    (reports : ∀ session, reported (change session) = update (reported session)) :
    Accepts around (modify change : Action τ Unit) fun _ bytes report report' =>
      bytes = [] ∧ report' = update report := by
  have changes : ∀ stream report session, Stands around stream report session →
      ∃ session', (modify change : Action τ Unit) session = .ok () session' ∧
        Stands around stream (update report) session' := by
    intro stream report session stands
    obtain ⟨config, channel, buses⟩ := keeps session
    refine ⟨change session, rfl, config.trans stands.config, ?_, ?_, ?_, ?_⟩
    · rw [channel]
      exact stands.live
    · rw [buses]
      exact stands.willing
    · rw [channel]
      exact stands.stream
    · rw [reports, stands.report]
  exact (steady update changes).congr fun _ _ _ _ =>
    ⟨fun taken => taken.2, fun taken => ⟨rfl, taken⟩⟩

theorem notedThen (change : Session τ → Session τ) (update : Report → Report)
    (keeps : ∀ session, (change session).config = session.config ∧
      (change session).channel = session.channel ∧ (change session).buses = session.buses)
    (reports : ∀ session, reported (change session) = update (reported session)) (value : α) :
    Accepts around (do
      modify change
      Pure.pure value : Action τ α) fun value' bytes report report' =>
        bytes = [] ∧ report' = update report ∧ value' = value := by
  refine ((noted update keeps reports).bind fun _ => pure value).congr ?_
  intro value' bytes report report'
  constructor
  · rintro ⟨_, _, _, _, rfl, ⟨rfl, rfl⟩, rfl, rfl, rfl⟩
    exact ⟨rfl, rfl, rfl⟩
  · rintro ⟨rfl, rfl, rfl⟩
    exact ⟨(), _, [], [], rfl, ⟨rfl, rfl⟩, rfl, rfl, rfl⟩

theorem ensure (result : Except Error α) :
    Accepts around (ensure result : Action τ α) fun value bytes report report' =>
      result = .ok value ∧ Language.nothing bytes report report' := by
  cases result with
  | ok value =>
    refine (pure value).congr fun value' _ _ _ => and_congr_left fun _ => ?_
    rw [Except.ok.injEq]
    exact eq_comm
  | error error =>
    refine throw fun value bytes report report' => ?_
    rintro ⟨impossible, -⟩
    cases impossible

theorem ensured {value : α} {next : α → Action τ β} {language : β → Language}
    (accepts : Accepts around (next value) language) :
    Accepts around (Session.ensure (.ok value) >>= next) language := accepts

/-- A result that is needed, and a note of it that takes nothing from the stream. -/
theorem ensuredThen (result : Except Error β) (change : β → Session τ → Session τ)
    (update : β → Report → Report)
    (keeps : ∀ found session, (change found session).config = session.config ∧
      (change found session).channel = session.channel ∧
      (change found session).buses = session.buses)
    (reports : ∀ found session, reported (change found session) = update found (reported session))
    (value : α) :
    Accepts around (do
      let found ← Session.ensure result
      modify (change found)
      Pure.pure value : Action τ α) fun value' bytes report report' =>
        ∃ found, result = .ok found ∧ bytes = [] ∧ report' = update found report ∧ value' = value := by
  cases result with
  | ok found =>
    refine ensured ((notedThen (change found) (update found) (keeps found) (reports found)
      value).congr fun value' bytes report report' => ⟨?_, ?_⟩)
    · intro taken
      exact ⟨found, rfl, taken⟩
    · rintro ⟨_, ⟨⟩, taken⟩
      exact taken
  | error error =>
    refine throw fun value' bytes report report' => ?_
    rintro ⟨_, impossible, -⟩
    cases impossible

theorem publish (event : Event) : Silent around (publish event) := by
  apply silent
  intro stream report session stands
  obtain ⟨buses, effects, willing, ran⟩ := publish_willing stands.willing event
  exact ⟨_, ran, stands.config, stands.live, willing, stands.stream, stands.report⟩

variable [Transport τ]

theorem say (level : Log.Level) (text : String) : Silent around (say level text) :=
  silent fun _ _ session stands => ⟨remarked session level text, rfl, stands.config, stands.live,
    stands.willing, stands.stream, stands.report⟩

/-- The rounds of a loop follow one another in the stream. -/
theorem repeatUntil {step : Action τ (Option α)} (progress : Progresses step)
    {round : Option α → Language} (accepts : Accepts around step round) :
    Accepts around (repeatUntil step progress) (Language.Rounds round) where
  sound := by
    intro stream report session value session' stands done
    -- By induction on the rounds that were run, for every stream and report they start on.
    revert stream report
    refine repeatUntil_induction step progress (motive := fun session result =>
      result = .ok value session' → ∀ {stream report}, Stands around stream report session →
        ∃ bytes rest report', stream = bytes ++ rest ∧
          Language.Rounds round value bytes report report' ∧ Stands around rest report' session')
      ?_ ?_ ?_ session done
    · intro session found between ran same stream report stands
      cases same
      obtain ⟨bytes, rest, report', split, taken, stands'⟩ := accepts.sound stands ran
      exact ⟨bytes, rest, report', split, .last taken, stands'⟩
    · intro session halt between ran same
      cases same
    · intro session between result ran ih same stream report stands
      obtain ⟨front, stream', middle, rfl, taken, stands'⟩ := accepts.sound stands ran
      obtain ⟨back, rest, report', rfl, others, stands''⟩ := ih same stands'
      exact ⟨front ++ back, rest, report', (List.append_assoc ..).symm, .onward taken others,
        stands''⟩
  complete := by
    intro value bytes rest report report' session stands taken
    induction taken generalizing session with
    | last taken =>
      obtain ⟨session', ran, stands'⟩ := accepts.complete stands taken
      exact ⟨session', repeatUntil_some ran, stands'⟩
    | onward taken others ih =>
      rw [List.append_assoc] at stands
      obtain ⟨between, ran, stands'⟩ := accepts.complete stands taken
      obtain ⟨session', done, stands''⟩ := ih stands'
      exact ⟨session', (repeatUntil_none ran).trans done, stands''⟩

/-- A stage accepts what it guards: closing the transport is never a success. -/
theorem guarded (stage : Stage) {action : Action τ α} {language : α → Language}
    (accepts : Accepts around action language) : Accepts around (guarded stage action) language where
  sound := by
    intro stream report session value session' stands done
    cases ran : action session with
    | ok found between =>
      rw [guarded_done stage ran] at done
      cases done
      exact accepts.sound stands ran
    | error halt between =>
      cases halt with
      | failed error =>
        rw [guarded_failed stage ran] at done
        cases done
      | crashed crash =>
        rw [guarded_crashed stage ran] at done
        cases done
  complete := by
    intro value bytes rest report report' session stands taken
    obtain ⟨session', ran, stands'⟩ := accepts.complete stands taken
    exact ⟨session', guarded_done stage ran, stands'⟩

end Accepts

end PgSession.Proofs
