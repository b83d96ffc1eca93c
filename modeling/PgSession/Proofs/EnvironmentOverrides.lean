import PgSession.Proofs.EnvironmentFallback
import PgSession.Proofs.UrlSettings

/-!
Variables over a url. The url, the port and the ssl mode are read in this order, and the first that is
invalid is reported. If none is, each setting is what its variable says, or else what the url says, or
else its default.
-/

namespace PgSession.Proofs
open Text

/-- The first variable that is invalid, and what is reported about it. -/
inductive Refused (environment : Environment) : ParseError → Prop
  | url {text : String} {fault : ParseError} (given : environment.databaseUrl = some text)
    (rejected : Config.parse text = .error fault) : Refused environment fault
  | port {text : String} (readable : ∀ url ∈ environment.databaseUrl, ReadableUrl url)
    (given : environment.port = some text) (invalid : ¬PortNumber text) :
    Refused environment .invalidPortVariable
  | sslMode {text : String} (readable : ∀ url ∈ environment.databaseUrl, ReadableUrl url)
    (number : ∀ port ∈ environment.port, PortNumber port) (given : environment.sslMode = some text)
    (unknown : text ∉ sslModeValues) : Refused environment .invalidSslMode

private theorem setPort_refused {config : Config} {fault : ParseError} {text : String}
    (invalid : ¬PortNumber text) : config.setPort fault (some text.toList) = .error fault := by
  have unread : natural? 65536 text.toList = none := by
    refine Option.eq_none_iff_forall_ne_some.mpr fun number found => invalid ?_
    obtain ⟨decimal, small⟩ := natural?_iff.mp found
    exact ⟨number, small, decimal⟩
  simp only [Config.setPort, unread]

private theorem sslMode_refused {text : String} (unknown : text ∉ sslModeValues) :
    SslMode.parse text = .error .invalidSslMode := by
  cases read : SslMode.parse text with
  | ok mode => exact absurd (sslMode_ok_iff.mp ⟨mode, read⟩) unknown
  | error fault =>
    unfold SslMode.parse at read
    split at read
    · cases read
    split at read
    · cases read
    split at read
    · cases read
    · exact read.symm

private theorem Refused.error {environment : Environment} {fault : ParseError}
    (refused : Refused environment fault) : Config.ofEnvironment? environment = .error fault := by
  unfold Config.ofEnvironment?
  cases refused with
  | url given rejected =>
    rw [given, Option.mapM_some, rejected]
    rfl
  | port readable given invalid =>
    obtain ⟨config?, read⟩ := mapM_ok_iff.mpr readable
    rw [read, given]
    change Config.setPort _ _ (some _) >>= _ = _
    rw [setPort_refused invalid]
    rfl
  | sslMode readable number given unknown =>
    obtain ⟨config?, read⟩ := mapM_ok_iff.mpr readable
    rw [read, given, Option.mapM_some, sslMode_refused unknown]
    have ports : ∀ port ∈ environment.port.map String.toList,
        ∃ number < 65536, Decimal port number := by
      intro port member
      obtain ⟨text, present, rfl⟩ := Option.map_eq_some_iff.mp member
      exact number text present
    obtain ⟨config, numbered⟩ := setPort_ok_iff.mpr ports
    change Config.setPort _ _ _ >>= _ = _
    rw [numbered]
    rfl

private theorem exists_invalid {α : Type} {value? : Option α} {valid : α → Prop}
    (invalid : ¬∀ value ∈ value?, valid value) : ∃ value ∈ value?, ¬valid value := by
  obtain ⟨value, invalid⟩ := Classical.not_forall.mp invalid
  exact ⟨value, Classical.not_imp.mp invalid⟩

private theorem exists_refused {environment : Environment}
    (invalid : ¬((∀ url ∈ environment.databaseUrl, ReadableUrl url) ∧ ValidOverrides environment)) :
    ∃ fault, Refused environment fault := by
  by_cases readable : ∀ url ∈ environment.databaseUrl, ReadableUrl url
  · by_cases number : ∀ port ∈ environment.port, PortNumber port
    · by_cases known : ∀ mode ∈ environment.sslMode, mode ∈ sslModeValues
      · exact absurd ⟨readable, number, known⟩ invalid
      · obtain ⟨text, given, unknown⟩ := exists_invalid known
        exact ⟨_, .sslMode readable number given unknown⟩
    · obtain ⟨text, given, word⟩ := exists_invalid number
      exact ⟨_, .port readable given word⟩
  · obtain ⟨text, given, unread⟩ := exists_invalid readable
    cases read : Config.parse text with
    | ok config => exact absurd ⟨config, read⟩ unread
    | error fault => exact ⟨fault, .url given read⟩

/-- The url that an environment gives, if there is one. -/
def Environment.url? (environment : Environment) : Option Url :=
  environment.databaseUrl.bind fun text => (Url.ofText text.toList).toOption

def Environment.urlUser? (environment : Environment) : Option String :=
  (Environment.url? environment).bind Url.user?

/-- What the url says. -/
def Environment.urlSettings (environment : Environment) : List Setting :=
  (Environment.url? environment).elim [] Url.settings

/-- The number in the variable of the port. -/
def Environment.port? (environment : Environment) : Option UInt16 :=
  (environment.port.bind fun text => natural? 65536 text.toList).map UInt16.ofNat

/-- The mode in the variable of the ssl mode. -/
def Environment.mode? (environment : Environment) : Option SslMode :=
  environment.sslMode.bind fun text => (SslMode.parse text).toOption

/-- What the variables other than the url say, the user apart. -/
def Environment.settings (environment : Environment) : List Setting :=
  ((environment.pass <|> environment.password).map Setting.password).toList ++
    (environment.host.map Setting.host).toList ++
    ((Environment.port? environment).map Setting.port).toList ++
    (environment.database.map Setting.database).toList ++
    ((Environment.mode? environment).map Setting.ssl).toList

private theorem databaseUrl_built {environment : Environment} {config? : Option Config}
    (parsed : environment.databaseUrl.mapM Config.parse = .ok config?) :
    Built ((Environment.urlUser? environment).getD Config.defaultUser)
      (Environment.urlSettings environment) (config?.getD (.forUser Config.defaultUser)) := by
  unfold Environment.urlUser? Environment.urlSettings Environment.url?
  cases given : environment.databaseUrl with
  | none =>
    rw [given] at parsed
    cases parsed
    rfl
  | some text =>
    rw [given] at parsed
    obtain ⟨config, accepted, same⟩ := except_bind_inv parsed
    cases same
    obtain ⟨url, found, accepted⟩ := except_bind_inv accepted
    rw [Option.bind_some, found]
    exact ofUrl_built accepted

private theorem Built.user? {user : String} {settings : List Setting} {config : Config}
    (built : Built user settings config) (user? : Option String) :
    Built (user?.getD user) settings
      (Config.orElse user? config fun config user => { config with user }) := by
  cases user? with
  | none => exact built
  | some other =>
    unfold Built at built ⊢
    rw [show Config.orElse (some other) config _ = { config with user := other } from rfl, built,
      ← foldl_set_user]
    rfl

private theorem mapM_toOption {ε α β : Type} {value? : Option α} {read : α → Except ε β}
    {result? : Option β} (ran : value?.mapM read = .ok result?) :
    result? = value?.bind fun value => (read value).toOption := by
  cases value? with
  | none =>
    cases ran
    rfl
  | some value =>
    obtain ⟨result, found, same⟩ := except_bind_inv ran
    cases same
    rw [Option.bind_some, found]
    rfl

private theorem portSetting?_variable (environment : Environment) :
    portSetting? (environment.port.map String.toList) =
      (Environment.port? environment).map Setting.port := by
  unfold portSetting? Environment.port?
  rw [Option.bind_map, Option.map_map]
  rfl

private theorem ofEnvironment?_built {environment : Environment} {config : Config}
    (accepted : Config.ofEnvironment? environment = .ok config) :
    ∃ built, Built ((environment.user <|> Environment.urlUser? environment).getD Config.defaultUser)
        (Environment.urlSettings environment ++ Environment.settings environment) built ∧
      config = { built with database := some built.databaseName } := by
  obtain ⟨url?, parsed, accepted⟩ := except_bind_inv accepted
  obtain ⟨ported, port, accepted⟩ := except_bind_inv accepted
  obtain ⟨mode?, mode, accepted⟩ := except_bind_inv accepted
  cases accepted
  refine ⟨_, ?_, rfl⟩
  have user : (environment.user <|> Environment.urlUser? environment).getD Config.defaultUser =
      environment.user.getD ((Environment.urlUser? environment).getD Config.defaultUser) := by
    cases environment.user <;> rfl
  have login := ((databaseUrl_built parsed).user? environment.user).set?
    (environment.pass <|> environment.password) Setting.password
  have address := (login.set? environment.host Setting.host).setPort port
  have complete := (address.set? environment.database Setting.database).set? mode? Setting.ssl
  have mode' : mode? = Environment.mode? environment := mapM_toOption mode
  rw [portSetting?_variable] at complete
  rw [user, Environment.settings, ← mode']
  simp only [← List.append_assoc]
  exact complete

/-- Each setting as its variable has it, or else the url, or else as it is by default. -/
structure Layered (environment : Environment) (config : Config) : Prop where
  user : some config.user =
    (environment.user <|> Environment.urlUser? environment <|> some "postgres")
  password : config.password = (environment.pass <|> environment.password <|>
    lastOf Setting.password? (Environment.urlSettings environment))
  port : some config.port = (Environment.port? environment <|>
    lastOf Setting.port? (Environment.urlSettings environment) <|> some 5432)
  ssl : some config.ssl = (Environment.mode? environment <|>
    lastOf Setting.sslMode? (Environment.urlSettings environment) <|> some .disable)
  database : config.database = (environment.database <|>
    lastOf Setting.database? (Environment.urlSettings environment) <|> some config.user)
  parameters : config.parameters =
    (Environment.urlSettings environment).filterMap Setting.parameter?
  timeout : some config.timeout =
    (lastOf Setting.timeout? (Environment.urlSettings environment) <|> some 30000)
  url : ∀ text ∈ environment.databaseUrl, ∃ parsed, Config.parse text = .ok parsed ∧
    Denotes (Environment.urlUser? environment) (Environment.urlSettings environment) parsed ∧
    config.parameters = parsed.parameters ∧ config.timeout = parsed.timeout

/-- Of each kind the variables make one setting at most, and they make none of two kinds. -/
private theorem settings_last (environment : Environment) :
    lastOf Setting.password? (Environment.settings environment) =
        (environment.pass <|> environment.password) ∧
    lastOf Setting.port? (Environment.settings environment) = Environment.port? environment ∧
    lastOf Setting.sslMode? (Environment.settings environment) = Environment.mode? environment ∧
    lastOf Setting.database? (Environment.settings environment) = environment.database ∧
    lastOf Setting.timeout? (Environment.settings environment) = none ∧
    (Environment.settings environment).filterMap Setting.parameter? = [] := by
  unfold Environment.settings
  cases environment.pass <|> environment.password <;> cases environment.host <;>
    cases Environment.port? environment <;> cases environment.database <;>
    cases Environment.mode? environment <;> exact ⟨rfl, rfl, rfl, rfl, rfl, rfl⟩

private theorem Layered.of_accepted {environment : Environment} {config : Config}
    (accepted : Config.ofEnvironment? environment = .ok config) : Layered environment config := by
  have readable := (ofEnvironment?_ok_iff.mp ⟨config, accepted⟩).1
  obtain ⟨built, settled, rfl⟩ := ofEnvironment?_built accepted
  -- The variables come after the url, so the last setting of a kind is theirs if they make one.
  have whole := settled.denotes
  obtain ⟨password, port, sslMode, database, timeout, parameters⟩ := settings_last environment
  have parameters' : built.parameters =
      (Environment.urlSettings environment).filterMap Setting.parameter? := by
    rw [whole.parameters, List.filterMap_append, parameters, List.append_nil]
  have timeout' : some built.timeout =
      (lastOf Setting.timeout? (Environment.urlSettings environment) <|> some 30000) := by
    rw [whole.timeout, lastOf_append, timeout]
    rfl
  refine ⟨whole.user.trans (orElse_assoc ..), ?_, ?_, ?_, ?_, parameters', timeout', ?_⟩
  · change built.password = _
    rw [whole.password, lastOf_append, password, orElse_assoc]
  · change some built.port = _
    rw [whole.port, lastOf_append, port, orElse_assoc]
  · change some built.ssl = _
    rw [whole.ssl, lastOf_append, sslMode, orElse_assoc]
  · change some (built.database.getD built.user) = (_ <|> _ <|> some built.user)
    rw [whole.database, lastOf_append, database, ← orElse_assoc]
    cases environment.database <|> lastOf Setting.database? _ <;> rfl
  · intro text given
    obtain ⟨parsed, read⟩ := readable text given
    have read' : environment.databaseUrl.mapM Config.parse = .ok (some parsed) := by
      rw [given, Option.mapM_some, read]
      rfl
    have said := (databaseUrl_built read').denotes
    rw [Option.getD_some] at said
    exact ⟨parsed, read, said, parameters'.trans said.parameters.symm,
      Option.some.inj (timeout'.trans said.timeout.symm)⟩

/-- The first invalid variable of url, port and ssl mode is reported, and without one every setting is
taken from the variables over the url over the defaults. -/
theorem environment_over_url (environment : Environment) :
    ((∃ fault, Config.ofEnvironment? environment = .error fault) ↔
      (∃ url ∈ environment.databaseUrl, ¬ReadableUrl url) ∨
      (∃ port ∈ environment.port, ¬PortNumber port) ∨
      ∃ mode ∈ environment.sslMode, mode ∉ sslModeValues) ∧
    (∀ fault, Config.ofEnvironment? environment = .error fault ↔ Refused environment fault) ∧
    ∀ config, Config.ofEnvironment? environment = .ok config → Layered environment config := by
  have first (fault : ParseError) (failed : Config.ofEnvironment? environment = .error fault) :
      Refused environment fault := by
    have invalid : ¬((∀ url ∈ environment.databaseUrl, ReadableUrl url) ∧
        ValidOverrides environment) := by
      intro valid
      obtain ⟨config, accepted⟩ := ofEnvironment?_ok_iff.mpr valid
      cases failed.symm.trans accepted
    -- Some variable is the first invalid one, and it has the only fault there can be.
    obtain ⟨other, refused⟩ := exists_refused invalid
    cases failed.symm.trans refused.error
    exact refused
  refine ⟨⟨?_, fun invalid => ?_⟩, fun fault => ⟨first fault, Refused.error⟩,
    fun config => Layered.of_accepted⟩
  · rintro ⟨fault, failed⟩
    cases first fault failed with
    | url given rejected =>
      refine .inl ⟨_, given, fun readable => ?_⟩
      obtain ⟨config, accepted⟩ := readable
      cases rejected.symm.trans accepted
    | port readable given invalid => exact .inr (.inl ⟨_, given, invalid⟩)
    | sslMode readable number given unknown => exact .inr (.inr ⟨_, given, unknown⟩)
  · have refused : ∃ fault, Refused environment fault := by
      refine exists_refused fun valid => ?_
      obtain ⟨readable, port, sslMode⟩ := valid
      rcases invalid with ⟨url, given, unread⟩ | ⟨text, given, word⟩ | ⟨text, given, unknown⟩
      · exact unread (readable url given)
      · exact word (port text given)
      · exact unknown (sslMode text given)
    obtain ⟨fault, refused⟩ := refused
    exact ⟨fault, refused.error⟩

/-- A url next to variables that say otherwise. -/
private def overriddenUrl : Environment :=
  { databaseUrl := some
      "postgres://alice:secret@db:6432?sslmode=require&application_name=psql&connect_timeout=5"
    user := some "bob", password := some "hunter2", sslMode := some "prefer" }

private def overriddenConfig : Config :=
  { user := "bob", password := some "hunter2", host := "db", port := 6432, database := some "bob",
    ssl := .prefer, parameters := [("application_name", "psql")], timeout := 5000 }

theorem environment_over_url_overridden :
    Config.ofEnvironment? overriddenUrl = .ok overriddenConfig ∧
      Layered overriddenUrl overriddenConfig := by
  have accepted : Config.ofEnvironment? overriddenUrl = .ok overriddenConfig :=
    except_of_toOption (by decide +kernel)
  exact ⟨accepted, (environment_over_url overriddenUrl).2.2 _ accepted⟩

end PgSession.Proofs
