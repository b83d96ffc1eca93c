import PgSession.Proofs.UrlGrammar

/-!
Urls as settings. An accepted url names a user or none, and makes the settings that a caller could
have made one after another. Of several settings of one kind the last one counts, except that each
parameter is kept.
-/

namespace PgSession.Proofs
open Text

namespace Setting

def password? : Setting → Option String
  | .password value => some value
  | _ => none

def port? : Setting → Option UInt16
  | .port value => some value
  | _ => none

def database? : Setting → Option String
  | .database value => some value
  | _ => none

def sslMode? : Setting → Option SslMode
  | .ssl value => some value
  | _ => none

def parameter? : Setting → Option (String × String)
  | .parameter name value => some (name, value)
  | _ => none

def timeout? : Setting → Option Nat
  | .timeout milliseconds => some milliseconds
  | _ => none

end Setting

/-- The last of some settings that is of one kind. -/
def lastOf {α : Type} (kind? : Setting → Option α) (settings : List Setting) : Option α :=
  (settings.filterMap kind?).getLast?

theorem lastOf_append {α : Type} (kind? : Setting → Option α) (first second : List Setting) :
    lastOf kind? (first ++ second) = (lastOf kind? second <|> lastOf kind? first) := by
  rw [lastOf, List.filterMap_append, List.getLast?_append, Option.or_eq_orElse]
  exact Option.orElse_apply.symm

private theorem lastOf_singleton {α : Type} (kind? : Setting → Option α) (setting : Setting) :
    lastOf kind? [setting] = kind? setting := by
  rw [lastOf, List.filterMap_cons]
  cases kind? setting <;> rfl

/-- A host changes nothing but where the server is. -/
private theorem setHost_keeps {α : Type} {field : Config → α}
    (socket : ∀ (config : Config) socket, field { config with socket } = field config)
    (host : ∀ (config : Config) host, field { config with host } = field config)
    (config : Config) (value : String) : field (config.setHost value) = field config := by
  unfold Config.setHost
  split
  · exact socket config _
  · exact host config _

private theorem set_password (config : Config) (setting : Setting) :
    (config.set setting).password = (Setting.password? setting <|> config.password) := by
  cases setting with
  | host value => exact setHost_keeps (fun _ _ => rfl) (fun _ _ => rfl) config value
  | _ => rfl

private theorem set_port (config : Config) (setting : Setting) :
    some (config.set setting).port = (Setting.port? setting <|> some config.port) := by
  cases setting with
  | host value => exact congrArg some (setHost_keeps (fun _ _ => rfl) (fun _ _ => rfl) config value)
  | _ => rfl

private theorem set_database (config : Config) (setting : Setting) :
    (config.set setting).database = (Setting.database? setting <|> config.database) := by
  cases setting with
  | host value => exact setHost_keeps (fun _ _ => rfl) (fun _ _ => rfl) config value
  | _ => rfl

private theorem set_ssl (config : Config) (setting : Setting) :
    some (config.set setting).ssl = (Setting.sslMode? setting <|> some config.ssl) := by
  cases setting with
  | host value => exact congrArg some (setHost_keeps (fun _ _ => rfl) (fun _ _ => rfl) config value)
  | _ => rfl

private theorem set_timeout (config : Config) (setting : Setting) :
    some (config.set setting).timeout = (Setting.timeout? setting <|> some config.timeout) := by
  cases setting with
  | host value => exact congrArg some (setHost_keeps (fun _ _ => rfl) (fun _ _ => rfl) config value)
  | _ => rfl

private theorem set_parameters (config : Config) (setting : Setting) :
    (config.set setting).parameters =
      config.parameters ++ (Setting.parameter? setting).toList := by
  cases setting with
  | host value =>
    refine (setHost_keeps (fun _ _ => rfl) (fun _ _ => rfl) config value).trans ?_
    exact (List.append_nil _).symm
  | parameter name value => rfl
  | _ => exact (List.append_nil _).symm

/-- No setting names the user. -/
private theorem set_user (config : Config) (user : String) (setting : Setting) :
    { config with user }.set setting = { config.set setting with user } := by
  cases setting with
  | host value =>
    change Config.setHost _ value = { Config.setHost config value with user }
    unfold Config.setHost
    split <;> rfl
  | _ => rfl

theorem orElse_assoc {α : Type} (first second third : Option α) :
    ((first <|> second) <|> third) = (first <|> (second <|> third)) := by
  cases first <;> rfl

private theorem foldl_set_last {α : Type} (field : Config → Option α) {kind? : Setting → Option α}
    (each : ∀ config setting, field (config.set setting) = (kind? setting <|> field config))
    (settings : List Setting) (config : Config) :
    field (settings.foldl Config.set config) = (lastOf kind? settings <|> field config) := by
  induction settings generalizing config with
  | nil => rfl
  | cons setting settings ih =>
    rw [List.foldl_cons, ih, each, ← List.singleton_append, lastOf_append, lastOf_singleton]
    exact (orElse_assoc ..).symm

private theorem foldl_set_parameters (settings : List Setting) (config : Config) :
    (settings.foldl Config.set config).parameters =
      config.parameters ++ settings.filterMap Setting.parameter? := by
  induction settings generalizing config with
  | nil => exact (List.append_nil _).symm
  | cons setting settings ih =>
    rw [List.foldl_cons, ih, set_parameters, List.append_assoc, List.filterMap_cons]
    cases Setting.parameter? setting <;> rfl

theorem foldl_set_user (settings : List Setting) (config : Config) (user : String) :
    settings.foldl Config.set { config with user } =
      { settings.foldl Config.set config with user } := by
  induction settings generalizing config with
  | nil => rfl
  | cons setting settings ih => rw [List.foldl_cons, set_user, ih, List.foldl_cons]

private theorem foldl_set_keeps_user (settings : List Setting) (config : Config) :
    (settings.foldl Config.set config).user = config.user := by
  have same := congrArg Config.user (foldl_set_user settings config config.user)
  exact same

/-- The setting of a port that is a number. -/
def portSetting? (port? : Option (List Char)) : Option Setting :=
  (port?.bind (natural? 65536)).map fun number => .port (UInt16.ofNat number)

/-- The defaults for a user, changed by these settings in this order. -/
def Built (user : String) (settings : List Setting) (config : Config) : Prop :=
  config = settings.foldl Config.set (.forUser user)

namespace Built

variable {user : String} {settings : List Setting} {config config' : Config}

theorem append (built : Built user settings config) {others : List Setting}
    (rest : config' = others.foldl Config.set config) : Built user (settings ++ others) config' := by
  rw [Built, List.foldl_append, ← show config = _ from built]
  exact rest

theorem set? {α : Type} (built : Built user settings config) (value? : Option α)
    (setting : α → Setting) : Built user (settings ++ (value?.map setting).toList)
      (Config.orElse value? config fun config value => config.set (setting value)) := by
  refine built.append ?_
  cases value? <;> rfl

theorem setPort (built : Built user settings config) {fault : ParseError} {port? : Option (List Char)}
    (accepted : config.setPort fault port? = .ok config') :
    Built user (settings ++ (portSetting? port?).toList) config' := by
  refine built.append ?_
  cases port? with
  | none =>
    cases accepted
    rfl
  | some port =>
    rw [portSetting?, Option.bind_some]
    unfold Config.setPort at accepted
    dsimp only at accepted
    cases found : natural? 65536 port with
    | none =>
      rw [found] at accepted
      cases accepted
    | some number =>
      rw [found] at accepted
      cases accepted
      rfl

/-- A database that replaces none is one setting more. -/
theorem database? (built : Built user settings config)
    (unnamed : settings.filterMap Setting.database? = []) (database? : Option String) :
    Built user (settings ++ (database?.map Setting.database).toList)
      { config with database := database? } := by
  refine built.append ?_
  cases database? with
  | some database => rfl
  | none =>
    have none : config.database = none := by
      rw [show config = _ from built, foldl_set_last Config.database set_database, lastOf, unnamed]
      rfl
    change { config with database := Option.none } = config
    rw [← none]

end Built

/-- What settings amount to, one field at a time. Nothing is said about hosts. -/
structure Denotes (user? : Option String) (settings : List Setting) (config : Config) : Prop where
  user : some config.user = (user? <|> some "postgres")
  password : config.password = lastOf Setting.password? settings
  port : some config.port = (lastOf Setting.port? settings <|> some 5432)
  ssl : some config.ssl = (lastOf Setting.sslMode? settings <|> some .disable)
  database : config.database = lastOf Setting.database? settings
  parameters : config.parameters = settings.filterMap Setting.parameter?
  timeout : some config.timeout = (lastOf Setting.timeout? settings <|> some 30000)

private theorem orElse_none {α : Type} (value? : Option α) : (value? <|> none) = value? := by
  cases value? <;> rfl

theorem Built.denotes {user? : Option String} {settings : List Setting} {config : Config}
    (built : Built (user?.getD Config.defaultUser) settings config) :
    Denotes user? settings config := by
  obtain rfl := built
  have last {α : Type} (field : Config → Option α) {kind? : Setting → Option α}
      (each : ∀ config setting, field (config.set setting) = (kind? setting <|> field config)) :=
    foldl_set_last field each settings (.forUser (user?.getD Config.defaultUser))
  refine ⟨?_, ?_, last (fun config => some config.port) set_port,
    last (fun config => some config.ssl) set_ssl, ?_, foldl_set_parameters settings _,
    last (fun config => some config.timeout) set_timeout⟩
  · rw [foldl_set_keeps_user]
    cases user? <;> rfl
  · exact (last Config.password set_password).trans (orElse_none _)
  · exact (last Config.database set_database).trans (orElse_none _)

/-- The settings that a piece of a query makes. -/
def pieceSettings (piece : List Char) : List Setting :=
  match Url.splitPair piece with
  | .error _ => []
  | .ok (name, value) =>
    if name = sslModeName then ((SslMode.parse value).toOption.map Setting.ssl).toList
    else if name = hostName then [.host value]
    else if name = timeoutName then
      ((natural? timeoutBound value.toList).map fun seconds => .timeout (seconds * 1000)).toList
    else [.parameter (String.ofList name) value]

private theorem Built.setQuery {user : String} {settings : List Setting} {config config' : Config}
    {piece : List Char} (built : Built user settings config)
    (accepted : config.setQuery piece = .ok config') :
    Built user (settings ++ pieceSettings piece) config' := by
  refine built.append ?_
  obtain ⟨name, value, split, -⟩ := setQuery_inv accepted
  rw [setQuery_eq config split] at accepted
  rw [pieceSettings, split]
  dsimp only
  by_cases mode : name = sslModeName
  · rw [if_pos mode] at accepted ⊢
    cases found : SslMode.parse value with
    | error error => rw [found] at accepted; cases accepted
    | ok ssl =>
      rw [found] at accepted
      cases accepted
      rfl
  by_cases host : name = hostName
  · rw [if_neg mode, if_pos host] at accepted ⊢
    cases accepted
    rfl
  by_cases timeout : name = timeoutName
  · rw [if_neg mode, if_neg host, if_pos timeout] at accepted ⊢
    cases found : natural? timeoutBound value.toList with
    | none => rw [found] at accepted; cases accepted
    | some seconds =>
      rw [found] at accepted
      cases accepted
      rfl
  · rw [if_neg mode, if_neg host, if_neg timeout] at accepted ⊢
    cases accepted
    rfl

/-- What a part of a url says, if it is there and can be read. -/
def Url.part? (part : UrlPart) (text : List Char) : Option String :=
  (Url.decodePart? part text).toOption.join

/-- The user that a url names. An empty name is none. -/
def Url.user? (url : Url) : Option String :=
  (Url.decodePart .user url.user).toOption.filter (· ≠ "")

/-- The settings that a url makes, in order. -/
def Url.settings (url : Url) : List Setting :=
  ((Url.part? .password url.password).map Setting.password).toList ++
    ((Url.part? .host url.host).map Setting.host).toList ++ (portSetting? url.port).toList ++
    ((Url.part? .database url.database).map Setting.database).toList ++
    (Url.pieces url).flatMap pieceSettings

private theorem user?_getD {url : Url} {user : String}
    (login : Url.decodePart .user url.user = .ok user) :
    (Url.user? url).getD Config.defaultUser = if user = "" then Config.defaultUser else user := by
  rw [Url.user?, login]
  change ((some user).filter _).getD _ = _
  by_cases empty : user = ""
  · rw [if_pos empty, empty]
    rfl
  · have kept : (some user).filter (· ≠ "") = some user :=
      Option.filter_some_pos (decide_eq_true empty)
    rw [if_neg empty, kept]
    rfl

private theorem part?_of_decoded {part : UrlPart} {text : List Char} {decoded? : Option String}
    (read : Url.decodePart? part text = .ok decoded?) : Url.part? part text = decoded? := by
  rw [Url.part?, read]
  rfl

theorem ofUrl_built {url : Url} {config : Config} (accepted : Config.ofUrl url = .ok config) :
    Built ((Url.user? url).getD Config.defaultUser) (Url.settings url) config := by
  obtain ⟨user, login, accepted⟩ := except_bind_inv accepted
  obtain ⟨password?, secret, accepted⟩ := except_bind_inv accepted
  obtain ⟨host?, address, accepted⟩ := except_bind_inv accepted
  obtain ⟨ported, port, accepted⟩ := except_bind_inv accepted
  obtain ⟨database?, path, query⟩ := except_bind_inv accepted
  rw [Url.settings, part?_of_decoded secret, part?_of_decoded address, part?_of_decoded path,
    user?_getD login]
  have start : Built (if user = "" then Config.defaultUser else user)
      (password?.map Setting.password).toList
      { user := if user = "" then Config.defaultUser else user, password := password? } := by
    cases password? <;> rfl
  have named := (start.set? host? Setting.host).setPort port
  have unnamed : ((password?.map Setting.password).toList ++ (host?.map Setting.host).toList ++
      (portSetting? url.port).toList).filterMap Setting.database? = [] := by
    unfold portSetting?
    cases password? <;> cases host? <;> cases url.port.bind (natural? 65536) <;> rfl
  exact foldlM_setQuery (named.database? unnamed database?) Built.setQuery query

end PgSession.Proofs
