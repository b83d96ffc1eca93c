import PgSession.Config.Environment
import PgSession.Proofs.UrlGrammar

/-!
What is kept of an environment that is not valid throughout. A url that cannot be read costs nothing
but itself: the other variables settle what they would without it. An invalid port or ssl mode costs
everything, the valid variables next to it included.
-/

namespace PgSession.Proofs
open Text

def ReadableUrl (text : String) : Prop := ∃ config, Config.parse text = .ok config

def PortNumber (text : String) : Prop := ∃ number < 65536, Decimal text.toList number

instance (text : String) : Decidable (ReadableUrl text) :=
  match read : Config.parse text with
  | .ok config => .isTrue ⟨config, read⟩
  | .error _ => .isFalse fun ⟨_, accepted⟩ => nomatch read.symm.trans accepted

instance (text : String) : Decidable (PortNumber text) :=
  match read : natural? 65536 text.toList with
  | some number => .isTrue ⟨number, (natural?_iff.mp read).2, (natural?_iff.mp read).1⟩
  | none => .isFalse fun ⟨_, small, decimal⟩ =>
    nomatch read.symm.trans (natural?_iff.mpr ⟨decimal, small⟩)

/-- The port and the ssl mode, where they are set, are valid. -/
structure ValidOverrides (environment : Environment) : Prop where
  port : ∀ port ∈ environment.port, PortNumber port
  sslMode : ∀ mode ∈ environment.sslMode, mode ∈ sslModeValues

/-- The environment without its invalid variables. The others take any value. -/
def legible (environment : Environment) : Environment :=
  { environment with
    databaseUrl := environment.databaseUrl.filter fun url => decide (ReadableUrl url)
    port := environment.port.filter fun port => decide (PortNumber port)
    sslMode := environment.sslMode.filter fun mode => decide (mode ∈ sslModeValues) }

theorem mapM_ok_iff {ε α β : Type} {value? : Option α} {read : α → Except ε β} :
    (∃ result, value?.mapM read = .ok result) ↔
      ∀ value ∈ value?, ∃ result, read value = .ok result := by
  cases value? with
  | none => exact iff_of_true ⟨none, rfl⟩ nofun
  | some value =>
    simp only [Option.mem_def, Option.some.injEq, forall_eq']
    constructor
    · rintro ⟨result, ran⟩
      obtain ⟨value', read', -⟩ := except_bind_inv ran
      exact ⟨value', read'⟩
    · rintro ⟨result, ran⟩
      refine ⟨some result, ?_⟩
      simp only [Option.mapM_some, ran]
      rfl

/-- Strictly read, an environment is accepted if its url, its port and its ssl mode are valid. -/
theorem ofEnvironment?_ok_iff {environment : Environment} :
    (∃ config, Config.ofEnvironment? environment = .ok config) ↔
      (∀ url ∈ environment.databaseUrl, ReadableUrl url) ∧ ValidOverrides environment := by
  have port : (∀ port ∈ environment.port.map String.toList, ∃ number < 65536, Decimal port number) ↔
      ∀ port ∈ environment.port, PortNumber port := by
    cases environment.port <;> simp [PortNumber]
  have mode : (∃ result, environment.sslMode.mapM SslMode.parse = .ok result) ↔
      ∀ mode ∈ environment.sslMode, mode ∈ sslModeValues := by
    simp only [mapM_ok_iff, sslMode_ok_iff]
  unfold Config.ofEnvironment?
  constructor
  · rintro accepted
    obtain ⟨url?, urlRead, accepted⟩ := except_bind_ok_iff.mp accepted
    obtain ⟨config, portRead, accepted⟩ := except_bind_ok_iff.mp accepted
    obtain ⟨mode?, modeRead, -⟩ := except_bind_ok_iff.mp accepted
    exact ⟨mapM_ok_iff.mp ⟨url?, urlRead⟩, port.mp (setPort_ok_iff.mp ⟨config, portRead⟩),
      mode.mp ⟨mode?, modeRead⟩⟩
  · rintro ⟨readable, ports, modes⟩
    obtain ⟨url?, urlRead⟩ := mapM_ok_iff.mpr readable
    refine except_bind_ok_iff.mpr ⟨url?, urlRead, ?_⟩
    obtain ⟨config, portRead⟩ := setPort_ok_iff.mpr (port.mpr ports)
    refine except_bind_ok_iff.mpr ⟨config, portRead, ?_⟩
    obtain ⟨mode?, modeRead⟩ := mode.mpr modes
    exact except_bind_ok_iff.mpr ⟨mode?, modeRead, _, rfl⟩

private theorem filter_eq_self {α : Type} {value? : Option α} {valid : α → Prop}
    [DecidablePred valid] (all : ∀ value ∈ value?, valid value) :
    (value?.filter fun value => decide (valid value)) = value? := by
  cases value? with
  | none => rfl
  | some value => exact Option.filter_some_pos (decide_eq_true (all value rfl))

private theorem filter_eq_none {α : Type} {value? : Option α} {valid : α → Prop}
    [DecidablePred valid] (invalid : ¬∀ value ∈ value?, valid value) :
    (value?.filter fun value => decide (valid value)) = none := by
  refine Option.filter_eq_none_iff.mpr fun value present allowed => invalid fun other member => ?_
  obtain rfl := Option.some.inj (present.symm.trans member)
  exact of_decide_eq_true allowed

private theorem legible_valid {environment : Environment} (valid : ValidOverrides environment) :
    legible environment = { environment with
      databaseUrl := environment.databaseUrl.filter fun url => decide (ReadableUrl url) } := by
  unfold legible
  rw [filter_eq_self valid.port, filter_eq_self valid.sslMode]

theorem ofEnvironment_accepted {environment : Environment} {config : Config}
    (accepted : Config.ofEnvironment? environment = .ok config) :
    Config.ofEnvironment environment = (config, []) := by
  simp only [Config.ofEnvironment, accepted]

/-- A strict reading that fails is made again without the url, and then given up. -/
theorem ofEnvironment_refused {environment : Environment}
    (refused : ¬∃ config, Config.ofEnvironment? environment = .ok config) :
    (Config.ofEnvironment environment).1 =
      (Config.ofEnvironment? { environment with databaseUrl := none }).toOption.getD
        (.forUser Config.defaultUser) := by
  cases first : Config.ofEnvironment? environment with
  | ok config => exact absurd ⟨config, first⟩ refused
  | error fault =>
    simp only [Config.ofEnvironment, first]
    cases Config.ofEnvironment? { environment with databaseUrl := none } <;> rfl

/-- An invalid url is all that is ignored, unless the port or the ssl mode is invalid: then nothing of
the environment is kept. -/
theorem environment_fallback (environment : Environment) :
    (ValidOverrides environment →
      Config.ofEnvironment? (legible environment) = .ok (Config.ofEnvironment environment).1) ∧
    (ValidOverrides environment → (∀ url ∈ environment.databaseUrl, ReadableUrl url) →
      Config.ofEnvironment? environment = .ok (Config.ofEnvironment environment).1) ∧
    (¬ValidOverrides environment →
      (Config.ofEnvironment environment).1 = .forUser Config.defaultUser) := by
  have whole (valid : ValidOverrides environment)
      (readable : ∀ url ∈ environment.databaseUrl, ReadableUrl url) :
      Config.ofEnvironment? environment = .ok (Config.ofEnvironment environment).1 := by
    obtain ⟨config, accepted⟩ := ofEnvironment?_ok_iff.mpr ⟨readable, valid⟩
    rw [accepted, ofEnvironment_accepted accepted]
  refine ⟨fun valid => ?_, whole, fun invalid => ?_⟩
  · rw [legible_valid valid]
    by_cases readable : ∀ url ∈ environment.databaseUrl, ReadableUrl url
    · rw [filter_eq_self readable]
      exact whole valid readable
    have refused := mt (fun accepted => (ofEnvironment?_ok_iff.mp accepted).1) readable
    have without : ∃ config,
        Config.ofEnvironment? { environment with databaseUrl := none } = .ok config :=
      ofEnvironment?_ok_iff.mpr ⟨nofun, valid.port, valid.sslMode⟩
    obtain ⟨config, accepted⟩ := without
    rw [filter_eq_none readable, ofEnvironment_refused refused, accepted]
    rfl
  · have refused (url? : Option String) :
        ¬∃ config, Config.ofEnvironment? { environment with databaseUrl := url? } = .ok config := by
      intro accepted
      obtain ⟨-, port, sslMode⟩ := ofEnvironment?_ok_iff.mp accepted
      exact invalid ⟨port, sslMode⟩
    rw [ofEnvironment_refused (refused environment.databaseUrl)]
    cases again : Config.ofEnvironment? { environment with databaseUrl := none } with
    | ok config => exact absurd ⟨config, again⟩ (refused none)
    | error fault => rfl

/-- A url that is none, next to variables that are valid. -/
private def unreadableUrl : Environment :=
  { databaseUrl := some "db.example.com/app", user := some "alice", port := some "6432",
    sslMode := some "require" }

private theorem unreadableUrl_valid : ValidOverrides unreadableUrl :=
  ⟨by decide +kernel, by decide +kernel⟩

theorem environment_fallback_unreadableUrl : ValidOverrides unreadableUrl ∧
    Config.ofEnvironment? (legible unreadableUrl) = .ok (Config.ofEnvironment unreadableUrl).1 :=
  ⟨unreadableUrl_valid, (environment_fallback _).1 unreadableUrl_valid⟩

/-- A port that is no number, next to variables that are valid. -/
private def wordForPort : Environment :=
  { user := some "alice", host := some "db.example.com", port := some "many" }

/-- A valid user is discarded because the port is invalid. -/
theorem user_lost_with_port : ¬∀ environment : Environment,
    Config.ofEnvironment? (legible environment) = .ok (Config.ofEnvironment environment).1 := by
  intro kept
  have same := congrArg Except.toOption (kept wordForPort)
  revert same
  decide +kernel

end PgSession.Proofs
